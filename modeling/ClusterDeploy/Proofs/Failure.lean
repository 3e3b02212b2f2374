import ClusterDeploy.Failure
import ClusterDeploy.Proofs.Json.Documents

set_option relaxedAutoImplicit false
set_option autoImplicit false

/-!
# The documents of errors can be read back

The document of an error is read as the same error, with all that caused it, unless it lies too
deep. A payload that is no document of an error is not lost either: it becomes the message of one.

## Main definitions

* `Failure.levels` — how many errors there are, with the one that all others caused.
* `Failure.Frame.members` — the members of the document of an error.
* `Failure.documentSyntax` — the document of a chain of errors as it is read.

## Main results

* `Failure.readsAs_documentChars` — what was written of a chain of errors is read.
* `Failure.frames_documentSyntax` — a chain of errors comes back if it is not longer than the
  depth to which documents may be nested.
* `Failure.ofPayload_keeps` — no error and no payload is lost.

## Implementation notes

The text of a document is read in two steps, and each of them has its own bound. The bound of the
first one grows with the text and is never reached. The bound of the second one is fixed: it is the
only thing that can go wrong.
-/

namespace ClusterDeploy.Failure

open Json (Member ReadsAs pieces quoted)

/-- How many errors there are: the outermost one and its causes. -/
def levels (f : Failure) : Nat :=
  f.causes.length + 1

/-- A member with a text. -/
def textMember (key value : String) : Member :=
  ⟨key, quoted value, .string (pieces value)⟩

/-- The members of the document of an error. The document of its cause is given as it is written and
as it is read. -/
def Frame.members (f : Frame) (cause : Option (List Char × Json.Syntax)) : List Member :=
  [textMember "class" f.className, textMember "message" f.message] ++
    (f.stackTrace.map (textMember "stack-trace")).toList ++
    (cause.map fun written => ⟨"cause", written.1, written.2⟩).toList

/-- The document of a chain of errors as it is read. -/
def documentSyntax : Frame → List Frame → Json.Syntax
  | f, [] => .object ((f.members none).map Member.parts)
  | f, next :: rest =>
    .object ((f.members (some (documentChars next rest, documentSyntax next rest))).map
      Member.parts)

variable {f next : Frame} {rest : List Frame} {cause : Option (List Char × Json.Syntax)}

/-! ## Writing and reading the syntax -/

/-- The document of an error consists of its members. -/
lemma document_eq_members : f.document (cause.map Prod.fst) =
    '\x7b' :: Json.commaSeparated ((f.members cause).map Member.text) ++ ['\x7d'] := by
  rw [Frame.document, Frame.members, List.map_append, List.map_append]
  rcases f.stackTrace with _ | trace <;> rcases cause with _ | ⟨written, read⟩ <;> rfl

/-- If the document of the cause can be read, then so can every member. -/
lemma readsAs_of_mem_members (hcause : ∀ c ∈ cause, ReadsAs c.1 c.2) :
    ∀ m ∈ f.members cause, ReadsAs m.written m.value := by
  intro m hm
  rw [Frame.members, List.mem_append, List.mem_append] at hm
  rcases hm with (hm | hm) | hm
  · obtain rfl | hm := List.mem_cons.1 hm
    · exact Json.readsAs_quoted f.className
    · obtain rfl := List.mem_singleton.1 hm
      exact Json.readsAs_quoted f.message
  · obtain ⟨trace, -, rfl⟩ := Option.map_eq_some_iff.1 (Option.mem_toList.1 hm)
    exact Json.readsAs_quoted trace
  · obtain ⟨c, hc, rfl⟩ := Option.map_eq_some_iff.1 (Option.mem_toList.1 hm)
    exact hcause c hc

/-- The document of one error is read if that of its cause is. -/
lemma readsAs_document (f : Frame) (cause : Option (List Char × Json.Syntax))
    (hcause : ∀ c ∈ cause, ReadsAs c.1 c.2) :
    ReadsAs (f.document (cause.map Prod.fst)) (.object ((f.members cause).map Member.parts)) := by
  rw [document_eq_members]
  exact Json.readsAs_object (readsAs_of_mem_members hcause)

/-- **The document of a chain of errors is read**, whatever its length. -/
lemma readsAs_documentChars (f : Frame) (rest : List Frame) :
    ReadsAs (documentChars f rest) (documentSyntax f rest) := by
  induction rest generalizing f with
  | nil => exact readsAs_document f none (by simp)
  | cons next rest ih =>
    refine readsAs_document f (some (documentChars next rest, documentSyntax next rest)) ?_
    rintro c ⟨⟩
    exact ih next

/-! ## From the syntax to the errors -/

section Fields

variable {value : Json.Syntax} {a b c : Option Json.Syntax} {slots : List (Option Json.Syntax)}

/-- The members of a document are put into their fields one after the other. -/
lemma fillSlots_cons_parts (names : List String) (m : Member)
    (more : List (List Json.Piece × Json.Syntax)) :
    Json.fillSlots names (m.parts :: more) slots =
      (Json.fillSlot m.key m.value names slots).bind (Json.fillSlots names more) := by
  rw [Member.parts, Json.fillSlots, Json.text?_pieces, Option.bind_some]

/-- The first field of a failure is the class. -/
lemma fillSlot_class : Json.fillSlot "class" value fieldNames (none :: slots) =
    some (some value :: slots) := by
  simp [Json.fillSlot, fieldNames]

/-- The second field of a failure is the message. -/
lemma fillSlot_message : Json.fillSlot "message" value fieldNames (a :: none :: slots) =
    some (a :: some value :: slots) := by
  simp [Json.fillSlot, fieldNames]

/-- The third field of a failure is the stack trace. -/
lemma fillSlot_stackTrace :
    Json.fillSlot "stack-trace" value fieldNames (a :: b :: none :: slots) =
      some (a :: b :: some value :: slots) := by
  simp [Json.fillSlot, fieldNames]

/-- The fourth field of a failure is the cause. -/
lemma fillSlot_cause :
    Json.fillSlot "cause" value fieldNames (a :: b :: c :: none :: slots) =
      some (a :: b :: c :: some value :: slots) := by
  simp [Json.fillSlot, fieldNames]

end Fields

/-- The members of a document are put into their fields. -/
lemma slots_members :
    Json.slots fieldNames (.object ((f.members cause).map Member.parts)) =
      some [some (.string (pieces f.className)), some (.string (pieces f.message)),
        f.stackTrace.map fun trace => .string (pieces trace), cause.map Prod.snd] := by
  have hempty : fieldNames.map (fun _ => (none : Option Json.Syntax)) = [none, none, none, none] :=
    rfl
  rw [Json.slots, hempty, Frame.members, List.map_append, List.map_append, List.map_cons,
    List.map_cons, List.cons_append, List.cons_append, List.cons_append, List.cons_append,
    fillSlots_cons_parts, textMember, fillSlot_class, Option.bind_some,
    fillSlots_cons_parts, textMember, fillSlot_message, Option.bind_some]
  rcases f.stackTrace with _ | trace <;> rcases cause with _ | ⟨written, read⟩
  · rfl
  · exact (fillSlots_cons_parts _ _ _).trans (by rw [fillSlot_cause]; rfl)
  · exact (fillSlots_cons_parts _ _ _).trans (by rw [textMember, fillSlot_stackTrace]; rfl)
  · refine (fillSlots_cons_parts _ _ _).trans ?_
    rw [textMember, fillSlot_stackTrace]
    exact (fillSlots_cons_parts _ _ _).trans (by rw [fillSlot_cause]; rfl)

/-- The fields of a document give the error, in front of what its cause is read as. -/
lemma ofSlots_members (readCause : Json.Syntax → Option (List Frame)) (depth : Nat)
    (causeSlot : Option Json.Syntax) :
    ofSlots readCause depth [some (.string (pieces f.className)),
        some (.string (pieces f.message)),
        f.stackTrace.map fun trace => .string (pieces trace), causeSlot] =
      (Json.optional (fun _ => readCause) depth causeSlot).map fun causes =>
        f :: causes.getD [] := by
  have htrace : Json.optional Json.text depth
      (f.stackTrace.map fun trace => .string (pieces trace)) = some f.stackTrace := by
    rcases f.stackTrace with _ | trace <;> simp [Json.optional, Json.text]
  simp only [ofSlots, Json.required, Json.defaulted, Json.text, Json.text?_pieces, htrace]
  rcases Json.optional (fun _ => readCause) depth causeSlot with _ | causes <;> rfl

/-- The document of a cause is not read as nothing. -/
lemma optional_documentSyntax (readCause : Json.Syntax → Option (List Frame)) (depth : Nat) :
    Json.optional (fun _ => readCause) depth (some (documentSyntax next rest)) =
      (readCause (documentSyntax next rest)).map some := by
  rcases rest with _ | ⟨after, rest⟩ <;> rfl

/-- **A chain of errors comes back exactly if it is not longer than the depth** to which its
document may be nested.

**Proof sketch.** Induction on the causes. Every error takes one level of the depth, and what is
left of it is given to the reader of its cause. -/
lemma frames_documentSyntax (depth : Nat) (f : Frame) (rest : List Frame) :
    frames depth (documentSyntax f rest) =
      if rest.length < depth then some (f :: rest) else none := by
  induction rest generalizing f depth with
  | nil =>
    cases depth with
    | zero => rfl
    | succ depth =>
      rw [documentSyntax, frames, slots_members, Option.bind_some, ofSlots_members]
      rfl
  | cons next rest ih =>
    cases depth with
    | zero => rfl
    | succ depth =>
      rw [documentSyntax, frames, slots_members, Option.bind_some, ofSlots_members,
        Option.map_some, optional_documentSyntax, ih depth next]
      simp only [List.length_cons, Nat.add_lt_add_iff_right]
      split_ifs <;> rfl

/-! ## Whole payloads -/

/-- What becomes of the document of an error depends on the number of its levels alone. -/
lemma decode?_encode_document (f : Failure) :
    decode? (Utf8.encode f.document) = if f.levels ≤ Json.maxDepth then some f else none := by
  have hread : Json.Syntax.read (Utf8.encode f.document) =
      some (documentSyntax f.outermost f.causes) := by
    rw [document, Utf8.encode_ofList]
    exact Json.read_of_readsAs (readsAs_documentChars f.outermost f.causes)
  rw [decode?, Json.readWhole, hread, Option.bind_some, Failure.read, frames_documentSyntax]
  by_cases hlevels : f.causes.length < Json.maxDepth
  · rw [if_pos hlevels, if_pos (show f.levels ≤ Json.maxDepth from hlevels)]
  · rw [if_neg hlevels, if_neg (show ¬f.levels ≤ Json.maxDepth from hlevels)]

/-- A payload that cannot be read becomes the message of an error without a cause. -/
lemma ofPayload_of_decode?_eq_none {payload : Bytes} (h : decode? payload = none) :
    ofPayload payload = ⟨⟨undecodable, Utf8.decodeLossy payload, none⟩, []⟩ := by
  rw [ofPayload, h, Option.getD_none]

/-- **No error and no payload is lost.**

* The document of an error with at most 127 levels is read as exactly this error.
* With more levels it is not read, and the error that stands in its place has the whole document as
  its message, and neither a stack trace nor a cause.
* The same becomes of every payload that is not read: the message is its text. The bytes of a text
  are this text, unchanged, and ill-formed bytes behind it do not change it either.

**Proof sketch.** What was written is read as syntax whatever its depth, by induction on the causes
with one lemma for the members of an object. Only then does the depth matter, and this is an
induction on the causes again. The bytes of every character are read as this character, so lossy
reading loses nothing of a text. -/
theorem ofPayload_keeps :
    (∀ f : Failure, f.levels ≤ 127 →
      decode? (Utf8.encode f.document) = some f ∧ ofPayload (Utf8.encode f.document) = f) ∧
    (∀ f : Failure, 127 < f.levels →
      decode? (Utf8.encode f.document) = none ∧
        ofPayload (Utf8.encode f.document) = ⟨⟨"undecodable", f.document, none⟩, []⟩) ∧
    ∀ payload : Bytes, decode? payload = none →
      ofPayload payload = ⟨⟨"undecodable", Utf8.decodeLossy payload, none⟩, []⟩ ∧
        (∀ text : String, payload = Utf8.encode text → Utf8.decodeLossy payload = text) ∧
        ∀ (text : String) (rest : Bytes), payload = Utf8.encode text ++ rest →
          Utf8.decodeLossy payload = text ++ Utf8.decodeLossy rest := by
  refine ⟨fun f hlevels => ?_, fun f hlevels => ?_, fun payload hnone => ⟨?_, ?_, ?_⟩⟩
  · have hdecode : decode? (Utf8.encode f.document) = some f := by
      rw [decode?_encode_document, if_pos (show f.levels ≤ Json.maxDepth from hlevels)]
    refine ⟨hdecode, ?_⟩
    rw [ofPayload, hdecode, Option.getD_some]
  · have hdeep : ¬f.levels ≤ Json.maxDepth := Nat.not_le.2 hlevels
    have hdecode : decode? (Utf8.encode f.document) = none := by
      rw [decode?_encode_document, if_neg hdeep]
    refine ⟨hdecode, ?_⟩
    rw [ofPayload_of_decode?_eq_none hdecode, Utf8.decodeLossy_encode]
    rfl
  · exact ofPayload_of_decode?_eq_none hnone
  · rintro text rfl
    exact Utf8.decodeLossy_encode text
  · rintro text rest rfl
    exact Utf8.decodeLossy_append text rest

/-- An error with a cause comes back; as the innermost of 128 levels it does not, and the text of
the document is kept; a payload that is no document is kept as well. -/
theorem ofPayload_keeps_examples :
    let inner : Frame := ⟨"java.io.IOException", "\x01 \"a\\b\" \u00e9\n", none⟩
    let shallow : Failure := ⟨⟨"java.lang.RuntimeException", "", some "at Main"⟩, [inner]⟩
    let deep : Failure := ⟨inner, List.replicate 127 inner⟩
    decode? (Utf8.encode shallow.document) = some shallow ∧
      decode? (Utf8.encode deep.document) = none ∧
      (ofPayload (Utf8.encode deep.document)).outermost.message = deep.document ∧
      (ofPayload (Utf8.encode "not json at all")).outermost =
        ⟨"undecodable", "not json at all", none⟩ := by
  intro inner shallow deep
  obtain ⟨hshallow, hdeep, hother⟩ := ofPayload_keeps
  have hdeep := hdeep deep (by simp [levels, deep])
  have hother := hother (Utf8.encode "not json at all") (by decide +kernel)
  refine ⟨(hshallow shallow (by simp [levels, shallow])).1, hdeep.1, ?_, ?_⟩
  · rw [hdeep.2]
  · rw [hother.1, hother.2.1 _ rfl]

end ClusterDeploy.Failure
