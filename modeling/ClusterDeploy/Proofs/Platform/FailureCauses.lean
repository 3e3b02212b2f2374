import ClusterDeploy.Platform.JobResult
import ClusterDeploy.Proofs.Json.Rewriting
import Mathlib.Data.List.Infix
import Mathlib.Data.List.TakeWhile

set_option relaxedAutoImplicit false
set_option autoImplicit false

/-!
# The cause of a failure reaches the caller

The result of a failed job contains a document that describes the error. This document is read as a
value, may get a message, is written again, and is read as an error only then. Nothing that it says
about the error is lost on the way.

## Main definitions

* `JobResult.IsFirstLine`, `JobResult.IsMessage` — the first line of a text, and the message in it.
* `JobResult.Reports` — the status of a job and what is given as the cause of its failure.
* `JobResult.Describes` — what the members of an object say about an error.

## Main results

* `Failure.survives_frames` — an error is read again.
* `JobResult.decode?_compact` — the error that is read from what was written of a cause.
* `JobResult.read_keepsCause` — the outcome of a job, from what the result says.

## Implementation notes

Two things make the first reading different from the second one. The first takes the last of several
members with one key, while the second refuses them, and it sees the cause from farther outside, so
that less of the depth is left for it. The first is stricter about depth and the text that it leads
to has each key once, so the second reading cannot fail where the first did not.
-/

namespace ClusterDeploy

/-! ## Errors are read again -/

namespace Failure

open Json (Means Survives)

variable {depth n m : Nat} {doc : Json.Syntax} {value : Json} {filled : List (Option Json.Syntax)}
  {fields : List (Option Json)} {errors : List Frame}
  {readCause readCause' : Json.Syntax → Option (List Frame)}

/-- No two fields of a failure have the same name. -/
lemma nodup_fieldNames : fieldNames.Nodup := by
  decide

/-- An error is read from its four fields. -/
lemma ofSlots_eq_some {classSlot messageSlot traceSlot causeSlot : Option Json.Syntax} :
    ofSlots readCause n [classSlot, messageSlot, traceSlot, causeSlot] = some errors ↔
      ∃ className message stackTrace causes,
        Json.required Json.text n classSlot = some className ∧
        Json.defaulted "" Json.text n messageSlot = some message ∧
        Json.optional Json.text n traceSlot = some stackTrace ∧
        Json.optional (fun _ => readCause) n causeSlot = some causes ∧
        errors = ⟨className, message, stackTrace⟩ :: causes.getD [] := by
  simp only [ofSlots, Option.bind_eq_bind, Option.bind_eq_some_iff, Option.pure_def,
    Option.some.injEq]
  constructor
  · rintro ⟨className, hclass, message, hmessage, stackTrace, htrace, causes, hcauses, rfl⟩
    exact ⟨className, message, stackTrace, causes, hclass, hmessage, htrace, hcauses, rfl⟩
  · rintro ⟨className, message, stackTrace, causes, hclass, hmessage, htrace, hcauses, rfl⟩
    exact ⟨className, hclass, message, hmessage, stackTrace, htrace, causes, hcauses, rfl⟩

/-- An error is read again from its fields, if that which caused it is. -/
lemma ofSlots_written (hcause : Survives depth readCause readCause')
    (hfields : List.Forall₂ (Means depth) filled fields)
    (h : ofSlots readCause n filled = some errors) :
    ofSlots readCause' m (fields.map (Option.map Json.written)) = some errors := by
  match filled, hfields with
  | [_, _, _, _], .cons hclass (.cons hmessage (.cons htrace (.cons hcauses .nil))) =>
    obtain ⟨className, message, stackTrace, causes, h₁, h₂, h₃, h₄, rfl⟩ := ofSlots_eq_some.1 h
    exact ofSlots_eq_some.2 ⟨className, message, stackTrace, causes,
      Json.required_written Json.survives_text hclass h₁,
      Json.defaulted_written Json.survives_text hmessage h₂,
      Json.optional_written Json.survives_text htrace h₃,
      Json.optional_written hcause hcauses h₄, rfl⟩

/-- An error with its causes is a chain of errors. -/
lemma read_eq_some {f : Failure} :
    Failure.read n doc = some f ↔ frames n doc = some (f.outermost :: f.causes) := by
  rw [Failure.read]
  rcases frames n doc with _ | _ | ⟨outermost, causes⟩
  · simp
  · simp
  · obtain ⟨first, rest⟩ := f
    simp

/-- **An error and its causes are read again**, if the depth that is left is not smaller than the
one to which the value was read.

**Proof sketch.** Induction on the depth of the first reading. The fields of the outermost error are
found again, with their values; its texts are read again, and so are its causes by the induction
hypothesis. -/
lemma survives_frames (hdepth : depth ≤ m) : Survives depth (frames n) (frames m) := by
  intro doc value errors hvalue hread
  induction n generalizing depth m doc value errors with
  | zero => exact nomatch hread
  | succ n ih =>
    obtain ⟨filled, hfilled, herrors⟩ := Option.bind_eq_some_iff.1 hread
    obtain ⟨inner, rfl⟩ := Json.exists_depth_of_slots hvalue hfilled
    obtain ⟨m, rfl⟩ : ∃ k, m = k + 1 := ⟨m - 1, by omega⟩
    obtain ⟨fields, hwritten, hfields⟩ :=
      Json.exists_slots_written nodup_fieldNames hvalue hfilled
    have hcause : Survives inner (frames n) (frames m) := ih (Nat.succ_le_succ_iff.1 hdepth)
    rw [frames, hwritten, Option.bind_some]
    exact ofSlots_written hcause hfields herrors

/-- The error that caused another one, with its own causes. -/
lemma optional_frames {raw : Option Json.Syntax} {cause : Option Failure}
    (h : Json.optional Failure.read n raw = some cause) :
    Json.optional frames n raw = some (cause.map fun f => f.outermost :: f.causes) := by
  rcases raw with _ | doc
  · obtain rfl := Option.some.inj h
    rfl
  · by_cases hnull : doc = .null
    · subst hnull
      obtain rfl := Option.some.inj h
      rfl
    · rw [Json.optional_of_ne_null hnull] at h ⊢
      obtain ⟨f, hf, rfl⟩ := Option.map_eq_some_iff.1 h
      rw [read_eq_some.1 hf]
      rfl

end Failure

namespace JobResult

open Json (Means Syntax)

/-! ## Lines and messages -/

/-- The first line of a text: the whole text if it has no newline, and else what stands in front of
the first newline, without a carriage return at its end. -/
inductive IsFirstLine : List Char → List Char → Prop where
  | whole {line : List Char} : '\n' ∉ line → IsFirstLine line line
  | newline {line rest : List Char} : '\n' ∉ line → line.getLast? ≠ some '\r' →
    IsFirstLine (line ++ '\n' :: rest) line
  | carriageReturn {line rest : List Char} : '\n' ∉ line →
    IsFirstLine (line ++ '\r' :: '\n' :: rest) line

/-- The message in a line: what follows the first colon that has a blank behind it. There is none if
there is no such colon. -/
inductive IsMessage : List Char → List Char → Prop where
  | after {before message : List Char} : ¬[':', ' '] <:+: before →
    IsMessage (before ++ ':' :: ' ' :: message) message
  | none {line : List Char} : ¬[':', ' '] <:+: line → IsMessage line []

/-- A text without a newline is its own first line. -/
lemma firstLine_of_notMem {text : List Char} (h : '\n' ∉ text) : firstLine text = text := by
  have htext : text.takeWhile (· != '\n') = text :=
    List.takeWhile_eq_self_iff.2 fun c hc => bne_iff_ne.2 (ne_of_mem_of_not_mem hc h)
  rw [firstLine, htext, if_pos rfl]

/-- The first line ends at the first newline, or at a carriage return right before it. -/
lemma firstLine_append {line rest : List Char} (h : '\n' ∉ line) :
    firstLine (line ++ '\n' :: rest) =
      if line.getLast? == some '\r' then line.dropLast else line := by
  have hline : (line ++ '\n' :: rest).takeWhile (· != '\n') = line := by
    rw [List.takeWhile_append_of_pos fun c hc => bne_iff_ne.2 (ne_of_mem_of_not_mem hc h)]
    exact List.append_nil line
  rw [firstLine, hline, if_neg (by simp)]

/-- **The first line that is taken of a text** is its first line. -/
lemma isFirstLine_iff {text line : List Char} : IsFirstLine text line ↔ firstLine text = line := by
  constructor
  · rintro (hline | ⟨hline, hreturn⟩ | hline)
    · exact firstLine_of_notMem hline
    · rw [firstLine_append hline, if_neg (mt beq_iff_eq.1 hreturn)]
    · have hfront : '\n' ∉ line ++ ['\r'] := by simp [hline]
      rw [List.append_cons, firstLine_append hfront, if_pos (by simp), List.dropLast_concat]
  · rintro rfl
    by_cases hnewline : '\n' ∈ text
    · obtain ⟨line, rest, rfl, hline⟩ := List.eq_append_cons_of_mem hnewline
      rw [firstLine_append hline]
      split_ifs with hreturn
      · obtain ⟨front, rfl⟩ := List.getLast?_eq_some_iff.1 (beq_iff_eq.1 hreturn)
        rw [List.dropLast_concat, List.append_assoc]
        exact .carriageReturn fun hfront => hline (List.mem_append_left _ hfront)
      · exact .newline hline fun h => hreturn (beq_iff_eq.2 h)
    · rw [firstLine_of_notMem hnewline]
      exact .whole hnewline

/-- A character at which no colon with a blank stands does not matter for what comes after one. -/
lemma afterColon_cons {c : Char} {line : List Char} (hc : ¬[':', ' '] <+: c :: line) :
    afterColon (c :: line) = afterColon line := by
  rw [afterColon]
  rintro rest rfl rfl
  exact hc (List.prefix_append [':', ' '] rest)

/-- Nothing is taken up to the first colon and blank. -/
lemma afterColon_append {before message : List Char} (h : ¬[':', ' '] <:+: before) :
    afterColon (before ++ ':' :: ' ' :: message) = some message := by
  induction before with
  | nil => rfl
  | cons c before ih =>
    rw [List.infix_cons_iff, not_or] at h
    rw [List.cons_append, afterColon_cons, ih h.2]
    intro hprefix
    cases before with
    | nil => simp at hprefix
    | cons d before => exact h.1 (by simpa using hprefix)

/-- Nothing comes after a colon with a blank if there is none. -/
lemma afterColon_eq_none {line : List Char} (h : ¬[':', ' '] <:+: line) :
    afterColon line = none := by
  induction line with
  | nil => rfl
  | cons c line ih =>
    rw [List.infix_cons_iff, not_or] at h
    rw [afterColon_cons h.1, ih h.2]

/-- A line keeps its message behind one more character, if no colon and blank begin there. -/
lemma IsMessage.cons {c : Char} {line message : List Char} (h : IsMessage line message)
    (hc : ¬[':', ' '] <+: c :: line) : IsMessage (c :: line) message := by
  cases h with
  | @after before message hbefore =>
    change IsMessage ((c :: before) ++ ':' :: ' ' :: message) message
    refine .after fun h => ?_
    rcases List.infix_cons_iff.1 h with h | h
    · exact hc (h.trans (List.prefix_append _ _))
    · exact hbefore h
  | none hline => exact .none fun h => (List.infix_cons_iff.1 h).elim hc hline

/-- **The message that is taken from a line** is the message in it. -/
lemma isMessage_iff {line message : List Char} :
    IsMessage line message ↔ (afterColon line).getD [] = message := by
  constructor
  · rintro (hbefore | hline)
    · rw [afterColon_append hbefore, Option.getD_some]
    · rw [afterColon_eq_none hline, Option.getD_none]
  · rintro rfl
    fun_induction afterColon line with
    | case1 rest =>
      change IsMessage ([] ++ ':' :: ' ' :: rest) rest
      exact .after (by simp)
    | case2 c rest hother ih =>
      refine ih.cons fun h => ?_
      obtain ⟨rfl, tail, rfl⟩ := List.cons_prefix_cons.1 h
      exact hother tail rfl rfl
    | case3 => exact .none (by simp)

/-! ## The cause of a failure -/

/-- What the members of an object say about an error: its class, its message if they give one, its
stack trace if they give one, and the error that caused it if there is one. -/
structure Describes (parts : List (List Json.Piece × Syntax)) (className : String)
    (message stackTrace : Option String) (cause : Option Failure) : Prop where
  className : Json.required Json.text Json.maxDepth (Json.lastMember "class" parts) = some className
  /-- The message may be absent, but it may not be null. -/
  message : (Json.lastMember "message" parts).mapM (Json.text Json.maxDepth) = some message
  stackTrace :
    Json.optional Json.text Json.maxDepth (Json.lastMember "stack-trace" parts) = some stackTrace
  cause : Json.optional Failure.read Json.maxDepth (Json.lastMember "cause" parts) = some cause

variable {depth n : Nat} {parts : List (List Json.Piece × Syntax)} {members : List (String × Json)}
  {value : Json} {className : String} {message stackTrace : Option String} {cause : Option Failure}
  {raw : Option Syntax} {field : Option Json}

/-- The message that is shown: the given one, or the one in the stack trace. -/
def shownMessage (message stackTrace : Option String) : String :=
  message.getD (messageOf (stackTrace.getD ""))

/-- A field that is read as a message that may be absent holds the message. -/
lemma field_of_mapM_text (hfield : Means depth raw field)
    (h : raw.mapM (Json.text n) = some message) : field = message.map .string := by
  cases hfield with
  | none =>
    obtain rfl := Option.some.inj h
    rfl
  | @some doc value hvalue =>
    obtain ⟨s, hs, rfl⟩ := Option.map_eq_some_iff.1 (show (Json.text n doc).map some = _ from h)
    rw [Json.eq_of_text hvalue hs, Option.map_some]

/-- A field that is read as a stack trace that may be absent or null holds it, or is null. -/
lemma field_of_optional_text (hfield : Means depth raw field)
    (h : Json.optional Json.text n raw = some stackTrace) :
    field = stackTrace.map .string ∨ field = some .null ∧ stackTrace = none := by
  cases hfield with
  | none =>
    obtain rfl := Option.some.inj h
    exact .inl rfl
  | @some doc value hvalue =>
    by_cases hnull : doc = .null
    · subst hnull
      exact .inr ⟨Means.eq_null (.some hvalue), (Option.some.inj h).symm⟩
    · rw [Json.optional_of_ne_null hnull] at h
      obtain ⟨s, hs, rfl⟩ := Option.map_eq_some_iff.1 h
      exact .inl (congrArg some (Json.eq_of_text hvalue hs))

/-- **The cause of a failure gets a message** unless it has one, and is not changed otherwise. -/
lemma exists_withMessage (hascend : members.Pairwise fun m n => m.1 < n.1)
    (hmessage : (Json.object members).get? "message" = message.map .string)
    (htrace : (Json.object members).get? "stack-trace" = stackTrace.map .string ∨
      (Json.object members).get? "stack-trace" = some .null ∧ stackTrace = none) :
    ∃ members', withMessage (.object members) = .object members' ∧
      members'.Pairwise (fun m n => m.1 < n.1) ∧ ∀ key, (Json.object members').get? key =
        if "message" = key then some (.string (shownMessage message stackTrace))
        else (Json.object members).get? key := by
  cases message with
  | some message =>
    refine ⟨members, ?_, hascend, fun key => ?_⟩
    · rw [withMessage, hmessage]
      rfl
    · split_ifs with hkey
      · exact hkey ▸ hmessage
      · rfl
  | none =>
    refine ⟨Json.insertMember "message" (.string (shownMessage none stackTrace)) members, ?_,
      Json.pairwise_insertMember hascend, fun key => Json.get?_insertMember⟩
    rw [withMessage, hmessage]
    rcases htrace with htrace | ⟨htrace, rfl⟩
    · rw [htrace]
      rcases stackTrace with _ | trace <;> rfl
    · rw [htrace]
      rfl

/-- **The error that is read from what was written of a cause** is the one that its members
describe, with the message that is shown.

**Proof sketch.** The members of the value are the last ones with their keys. Adding the message
changes only this one of them, so the fields of the error are found in what was written; they are
read again one by one. -/
lemma decode?_compact (hdepth : depth < Json.maxDepth)
    (hvalue : Json.ofSyntax (depth + 1) (.object parts) = some value)
    (hdescribes : Describes parts className message stackTrace cause) :
    Failure.decode? (Utf8.encode (withMessage value).compact) =
      some ⟨⟨className, shownMessage message stackTrace, stackTrace⟩,
        cause.elim [] fun f => f.outermost :: f.causes⟩ := by
  obtain ⟨members, rfl, hascend, hmeans⟩ := Json.exists_of_ofSyntax_object hvalue
  obtain ⟨members', hwith, hascend', hmembers'⟩ := exists_withMessage hascend
    (field_of_mapM_text (hmeans "message") hdescribes.message)
    (field_of_optional_text (hmeans "stack-trace") hdescribes.stackTrace)
  -- The error itself takes one level, so what is left for its fields and its cause is 126.
  have hclass := Json.required_written (m := 126) Json.survives_text (hmeans "class")
    hdescribes.className
  have htrace := Json.optional_written (m := 126) Json.survives_text (hmeans "stack-trace")
    hdescribes.stackTrace
  have hcause : Json.optional (fun _ => Failure.frames 126) 126
      (((Json.object members).get? "cause").map Json.written) =
        some (cause.map fun f => f.outermost :: f.causes) :=
    Json.optional_written (Failure.survives_frames (Nat.le_of_lt_succ hdepth)) (hmeans "cause")
      (Failure.optional_frames hdescribes.cause)
  have hslots := Json.slots_written Failure.nodup_fieldNames hascend'
  have hframes : Failure.frames (126 + 1) (Json.object members').written =
      some (⟨className, shownMessage message stackTrace, stackTrace⟩ ::
        cause.elim [] fun f => f.outermost :: f.causes) := by
    rw [Failure.frames, hslots, Option.bind_some]
    simp only [Failure.fieldNames, List.map_cons, List.map_nil, hmembers']
    refine Failure.ofSlots_eq_some.2 ⟨_, _, _, _, hclass, Json.text?_pieces _, htrace, hcause, ?_⟩
    rcases cause with _ | f <;> rfl
  rw [Failure.decode?, Json.readWhole, Json.read_compact, Option.bind_some, hwith]
  exact Failure.read_eq_some.2 hframes

/-! ## The result of a job -/

/-- Whether a field is absent or null. -/
def IsAbsent (slot : Option Syntax) : Prop :=
  ∀ doc ∈ slot, doc = .null

/-- What the document of a result says: the status of the job, and what it gives as the cause of a
failure. -/
inductive Reports (doc : Syntax) (status : String) : Option Syntax → Prop where
  | withoutResult {statusSlot resultSlot : Option Syntax} :
    Json.slots ["status", "job-execution-result"] doc = some [statusSlot, resultSlot] →
    Json.required (Json.only "id" Json.text) Json.maxDepth statusSlot = some status →
    IsAbsent resultSlot → Reports doc status none
  | withResult {statusSlot cause : Option Syntax} {result : Syntax} :
    Json.slots ["status", "job-execution-result"] doc = some [statusSlot, some result] →
    Json.required (Json.only "id" Json.text) Json.maxDepth statusSlot = some status →
    result ≠ .null → Json.slots ["failure-cause"] result = some [cause] → Reports doc status cause

/-- The cause of a failure in the result of a job. -/
def causeReader : Json.Reader (Option Json) :=
  Json.record ["failure-cause"] fun
    | depth, [causeSlot] => Json.optional Json.anything depth causeSlot
    | _, _ => none

variable {doc : Syntax} {status : String} {outcome : Option JobOutcome}
  {statusSlot resultSlot : Option Syntax}

/-- The outcome is read from two fields. -/
lemma exists_of_outcomeReader (h : outcomeReader (n + 1) doc = some outcome) :
    ∃ statusSlot resultSlot status cause,
      Json.slots ["status", "job-execution-result"] doc = some [statusSlot, resultSlot] ∧
      Json.required (Json.only "id" Json.text) n statusSlot = some status ∧
      Json.optional causeReader n resultSlot = some cause ∧
      outcome = if status = "COMPLETED" then some (outcomeOf (cause.bind id)) else none := by
  obtain ⟨slots, hslots, h⟩ := Option.bind_eq_some_iff.1 h
  match slots, h with
  | [statusSlot, resultSlot], h =>
    obtain ⟨status, hstatus, h⟩ := Option.bind_eq_some_iff.1 h
    obtain ⟨cause, hcause, h⟩ := Option.bind_eq_some_iff.1 h
    exact ⟨statusSlot, resultSlot, status, cause, hslots, hstatus, hcause,
      (Option.some.inj h).symm⟩

/-- The name of a status is read whatever the depth. -/
lemma required_status (m : Nat) :
    Json.required (Json.only "id" Json.text) (n + 1) statusSlot =
      Json.required (Json.only "id" Json.text) (m + 1) statusSlot := by
  rcases statusSlot with _ | doc
  · rfl
  · simp only [Json.required, Json.only, Json.record]
    congr 1
    funext slots
    rcases slots with _ | ⟨_ | ⟨_ | _⟩, _ | _⟩ <;> rfl

/-- A field that is absent or null is read as nothing. -/
lemma optional_of_isAbsent {α : Type} {read : Json.Reader α} (h : IsAbsent raw) :
    Json.optional read n raw = some none := by
  rcases raw with _ | doc
  · rfl
  · obtain rfl := h doc rfl
    rfl

/-- **A result that is read reports something.** -/
lemma exists_reports (h : outcomeReader (n + 2) doc = some outcome) :
    ∃ status cause, Reports doc status cause := by
  obtain ⟨statusSlot, resultSlot, status, cause, hslots, hstatus, hcause, -⟩ :=
    exists_of_outcomeReader h
  rw [required_status 126] at hstatus
  by_cases habsent : IsAbsent resultSlot
  · exact ⟨status, none, .withoutResult hslots hstatus habsent⟩
  · simp only [IsAbsent, not_forall] at habsent
    obtain ⟨result, rfl, hnull⟩ := habsent
    rw [Json.optional_of_ne_null hnull] at hcause
    obtain ⟨found, hfound, -⟩ := Option.map_eq_some_iff.1 hcause
    obtain ⟨slots, hresult, hfound⟩ := Option.bind_eq_some_iff.1 hfound
    match slots, hfound with
    | [causeSlot], _ => exact ⟨status, causeSlot, .withResult hslots hstatus hnull hresult⟩

/-- **The outcome of a job follows from what its result reports**, with the value of the cause. -/
lemma Reports.exists_cause {cause : Option Syntax} (hreports : Reports doc status cause)
    (h : outcomeReader (n + 2) doc = some outcome) :
    ∃ found, Json.optional Json.anything n cause = some found ∧
      outcome = if status = "COMPLETED" then some (outcomeOf found) else none := by
  obtain ⟨statusSlot, resultSlot, status', found, hslots, hstatus, hfound, rfl⟩ :=
    exists_of_outcomeReader h
  rw [required_status 126] at hstatus
  cases hreports with
  | withoutResult hslots' hstatus' habsent =>
    obtain ⟨rfl, rfl⟩ : statusSlot = _ ∧ resultSlot = _ := by
      simpa using hslots.symm.trans hslots'
    obtain rfl := Option.some.inj (hstatus.symm.trans hstatus')
    rw [optional_of_isAbsent habsent] at hfound
    obtain rfl := Option.some.inj hfound
    exact ⟨none, rfl, rfl⟩
  | withResult hslots' hstatus' hnull hresult =>
    obtain ⟨rfl, rfl⟩ : statusSlot = _ ∧ resultSlot = _ := by
      simpa using hslots.symm.trans hslots'
    obtain rfl := Option.some.inj (hstatus.symm.trans hstatus')
    rw [Json.optional_of_ne_null hnull, causeReader, Json.record, hresult] at hfound
    obtain ⟨value, hvalue, rfl⟩ := Option.map_eq_some_iff.1 hfound
    exact ⟨value, hvalue, rfl⟩

/-- An answer is read from the document in its body. -/
lemma read_eq_ok {body : Bytes} : read (.success (some body)) = .ok outcome ↔
    ∃ doc, Syntax.read (Utf8.encode (Http.bodyText body)) = some doc ∧
      outcomeReader Json.maxDepth doc = some outcome := by
  rw [read, ResourceManager.readResponse, ← Option.bind_eq_some_iff]
  change _ ↔ Http.readBody outcomeReader body = some outcome
  rcases Http.readBody outcomeReader body with _ | found
  · exact ⟨fun h => (nomatch h), fun h => (nomatch h)⟩
  · exact ⟨fun h => congrArg some (Except.ok.inj h),
      fun h => congrArg Except.ok (Option.some.inj h)⟩

/-- **The cause of a failure reaches the caller.** If the body of an answer is read, its document
reports a status, and

* with another status than `COMPLETED` there is no outcome yet;
* if the job is completed and no cause of a failure is given, the job succeeded;
* if the job is completed and the cause is an object that describes an error, the job failed. What
  is read from the payload is this error, with its stack trace and all that caused it. Its message
  is the one that is given or else the one in the first line of the stack trace.

**Proof sketch.** The outcome follows from the value of the cause. The text of this value is read
again, and so are the fields of the error in it. -/
theorem read_keepsCause {body : Bytes} (hread : read (.success (some body)) = .ok outcome) :
    ∃ doc, Syntax.read (Utf8.encode (Http.bodyText body)) = some doc ∧
      (∃ status cause, Reports doc status cause) ∧
      ∀ status cause, Reports doc status cause →
        (status ≠ "COMPLETED" → outcome = none) ∧
        (status = "COMPLETED" → IsAbsent cause → outcome = some .succeeded) ∧
        ∀ parts className message stackTrace inner, status = "COMPLETED" →
          cause = some (.object parts) →
          Describes parts className message stackTrace inner →
          ∃ payload shown, outcome = some (.failed payload) ∧
            Failure.decode? payload = some ⟨⟨className, shown, stackTrace⟩,
              inner.elim [] fun f => f.outermost :: f.causes⟩ ∧
            (message = some shown ∨ message = none ∧ ∃ line,
              IsFirstLine (stackTrace.getD "").toList line ∧ IsMessage line shown.toList) := by
  obtain ⟨doc, hdoc, houtcome⟩ := read_eq_ok.1 hread
  refine ⟨doc, hdoc, exists_reports houtcome, fun status cause hreports => ?_⟩
  obtain ⟨found, hfound, rfl⟩ := hreports.exists_cause houtcome
  refine ⟨fun hother => if_neg hother, fun hcompleted habsent => ?_, ?_⟩
  · rw [optional_of_isAbsent habsent] at hfound
    obtain rfl := Option.some.inj hfound
    exact if_pos hcompleted
  · rintro parts className message stackTrace inner hcompleted rfl hdescribes
    rw [Json.optional_of_ne_null Syntax.noConfusion] at hfound
    -- The cause lies inside two records, and each of them takes one level.
    obtain ⟨value, hvalue, rfl⟩ : ∃ value,
        Json.ofSyntax (124 + 1) (.object parts) = some value ∧ some value = found :=
      Option.map_eq_some_iff.1 hfound
    have hdecode := decode?_compact (by decide) hvalue hdescribes
    have hfailed : outcomeOf (some value) = .failed (Utf8.encode (withMessage value).compact) := by
      obtain ⟨members, rfl, -⟩ := Json.exists_of_ofSyntax_object hvalue
      rfl
    refine ⟨_, shownMessage message stackTrace, ?_, hdecode, ?_⟩
    · rw [if_pos hcompleted, hfailed]
    · rcases message with _ | message
      · refine .inr ⟨rfl, _, isFirstLine_iff.2 rfl, isMessage_iff.2 ?_⟩
        rw [shownMessage, Option.getD_none, messageOf, String.toList_ofList]
      · exact .inl rfl

/-- A failure without a message, whose stack trace has one in its first line. -/
theorem read_keepsCause_of_trace :
    let trace := "java.lang.IllegalStateException: source exhausted\r\n\tat Source.run"
    let inner : Json := .object [("cause", .null), ("class", .string "java.io.IOException")]
    let members : List (String × Json) := [("cause", inner),
      ("class", .string "java.lang.IllegalStateException"), ("retries", .number (.natural 3)),
      ("stack-trace", .string trace)]
    let result : Json := .object [
      ("job-execution-result", .object [("failure-cause", .object members)]),
      ("status", .object [("id", .string "COMPLETED")])]
    ∃ payload, read (.success (some (Utf8.encode result.compact))) = .ok (some (.failed payload)) ∧
      Failure.decode? payload = some
        ⟨⟨"java.lang.IllegalStateException", "source exhausted", some trace⟩,
          [⟨"java.io.IOException", "", none⟩]⟩ := by
  intro trace inner members result
  have hdoc : Syntax.read (Utf8.encode (Http.bodyText (Utf8.encode result.compact))) =
      some result.written := by
    rw [Http.bodyText, Utf8.decodeLossy_encode, Json.read_compact]
  obtain ⟨outcome, houtcome⟩ : ∃ outcome,
      outcomeReader Json.maxDepth result.written = some outcome :=
    Option.isSome_iff_exists.1 (by decide +kernel)
  have hread := read_eq_ok.2 ⟨_, hdoc, houtcome⟩
  obtain ⟨doc, hdoc', -, hkeeps⟩ := read_keepsCause hread
  obtain rfl := Option.some.inj (hdoc.symm.trans hdoc')
  have hreports : Reports result.written "COMPLETED" (some (Json.object members).written) := by
    have hslots : Json.slots ["status", "job-execution-result"] result.written =
        some [some (Json.object [("id", .string "COMPLETED")]).written,
          some (Json.object [("failure-cause", .object members)]).written] :=
      Json.slots_written (by decide) (by decide)
    have hcause : Json.slots ["failure-cause"]
        (Json.object [("failure-cause", .object members)]).written =
          some [some (Json.object members).written] :=
      Json.slots_written (by decide) (by decide)
    exact .withResult hslots (by decide +kernel) Syntax.noConfusion hcause
  have hdescribes : Describes (Json.writtenMembers members) "java.lang.IllegalStateException" none
      (some trace) (some ⟨⟨"java.io.IOException", "", none⟩, []⟩) :=
    ⟨by decide +kernel, by decide +kernel, by decide +kernel, by decide +kernel⟩
  obtain ⟨payload, shown, rfl, hdecode, hshown⟩ :=
    (hkeeps _ _ hreports).2.2 _ _ _ _ _ rfl rfl hdescribes
  obtain ⟨-, line, hline, hmessage⟩ := hshown.resolve_left (by simp)
  have hshown : shown.toList = "source exhausted".toList := by
    rw [← isMessage_iff.1 hmessage, ← isFirstLine_iff.1 hline]
    decide +kernel
  rw [String.toList_inj.1 hshown] at hdecode
  exact ⟨payload, hread, hdecode⟩

end JobResult

end ClusterDeploy
