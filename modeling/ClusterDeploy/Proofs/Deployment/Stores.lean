import ClusterDeploy.Proofs.Deployment.Calls
import ClusterDeploy.Proofs.Ledger.Refinement

set_option relaxedAutoImplicit false
set_option autoImplicit false

/-!
# The stores of a runtime

A storage in memory and a ledger answer the questions of calls, in any order. What the storage holds
at a path, and what the ledger has of an application, can be told from the questions and answers
alone.

## Main definitions

* `Runtime.Stores`, `Runtime.Stores.Answers` — the stores, and how they answer a question.
* `Runtime.Log`, `Runtime.Run` — questions with the number of the call that asked, and runs.
* `Runtime.Tells` — what a log tells of the record of an application.

## Main results

* `Runtime.Run.file?_eq_none_iff` — whether there is a file at a path.
* `Runtime.Run.remembers` — what the ledger has of an application.

## Implementation notes

Local files may change between two questions. A call of the ledger that is answered with a failure
was carried out in vain, or not at all.
-/

namespace ClusterDeploy

open Ledger (Database Memory Remembers latestVersion)
open MemoryStorage (SameSettings isBelow)
open Work (AnswersHome Uploads)

/-- A directory was deleted in which the path lies. -/
def Work.Removes (path : String) (x : Work.Exchange) : Prop :=
  ∃ dir answer, x = ⟨.storage (.deleteRecursive dir), answer⟩ ∧ isBelow dir path = true

/-- The deletion of a directory removes what is below it. -/
lemma Work.removes_deleteRecursive_iff {path dir : String} {answer : Attempt Bool} :
    Work.Removes path ⟨.storage (.deleteRecursive dir), answer⟩ ↔ isBelow dir path = true := by
  constructor
  · rintro ⟨_, _, heq, hbelow⟩
    cases heq
    exact hbelow
  · exact fun hbelow => ⟨dir, answer, rfl, hbelow⟩

/-- Nothing but deletions removes anything. -/
lemma Work.not_removes {path : String} {x : Work.Exchange}
    (hx : ∀ dir, x.question ≠ .storage (.deleteRecursive dir)) : ¬Work.Removes path x := by
  rintro ⟨dir, answer, rfl, -⟩
  exact hx dir rfl

/-- What a ledger answers to a call, with its database before and after. -/
def Ledger.Told (call : Ledger.Call) (db db' : Database) : Attempt call.Value → Prop
  | .ok value => ∃ now, (call.action now).runOn .writing db = (.ok value, db')
  | .error _ => db' = db ∨ ∃ now fault, (call.action now).runOn .writing db = (.error fault, db')

namespace Runtime

/-- The storage and the ledger of a runtime. -/
structure Stores where
  storage : MemoryStorage
  ledger : Database

/-- What a question does to the stores, and how it is answered. -/
def Stores.Answers (s t : Stores) : Work.Exchange → Prop
  | ⟨.storage call, answer⟩ => t.ledger = s.ledger ∧ ∃ fs,
    answer = (s.storage.answer fs call).1.mapError .failed ∧
      t.storage = (s.storage.answer fs call).2
  | ⟨.ledger call, answer⟩ => t.storage = s.storage ∧ Ledger.Told call s.ledger t.ledger answer
  | ⟨.platform _, _⟩ => t = s
  | ⟨.isFile path, answer⟩ => t = s ∧ ∃ fs : FileSystem, answer = fs.isFile path
  | ⟨.digest path, answer⟩ => t = s ∧ ∃ fs : FileSystem, answer = (fs.read path).map Sha256.hex

/-- What was asked and answered, with the number of the call that asked. -/
abbrev Log := List (Nat × Work.Exchange)

/-- The stores before and after a log. -/
inductive Run : Stores → Log → Stores → Prop where
  | nil (s : Stores) : Run s [] s
  | cons {s t u : Stores} {x : Nat × Work.Exchange} {log : Log} :
    s.Answers t x.2 → Run t log u → Run s (x :: log) u

variable {s t u : Stores} {x : Work.Exchange} {log before after : Log} {path : String}

/-- A run goes part by part. -/
lemma run_append_iff :
    Run s (before ++ after) u ↔ ∃ t, Run s before t ∧ Run t after u := by
  induction before generalizing s with
  | nil =>
    constructor
    · exact fun h => ⟨s, .nil s, h⟩
    · rintro ⟨t, hnil, h⟩
      cases hnil
      exact h
  | cons x before ih =>
    constructor
    · rintro (_ | ⟨hx, h⟩)
      obtain ⟨t, hbefore, hafter⟩ := ih.1 h
      exact ⟨t, .cons hx hbefore, hafter⟩
    · rintro ⟨t, _ | ⟨hx, hbefore⟩, hafter⟩
      exact .cons hx (ih.2 ⟨t, hbefore, hafter⟩)

namespace Stores.Answers

/-- Only calls of the storage change it. -/
lemma storage_eq (h : s.Answers t x) (hx : ∀ call, x.question ≠ .storage call) :
    t.storage = s.storage := by
  obtain ⟨q, answer⟩ := x
  cases q with
  | storage call => exact absurd rfl (hx call)
  | ledger call => exact h.1
  | platform call => exact congrArg Stores.storage h
  | isFile _ => exact congrArg Stores.storage h.1
  | digest _ => exact congrArg Stores.storage h.1

/-- Only calls of the ledger change it. -/
lemma ledger_eq (h : s.Answers t x) (hx : ∀ call, x.question ≠ .ledger call) :
    t.ledger = s.ledger := by
  obtain ⟨q, answer⟩ := x
  cases q with
  | storage call => exact h.1
  | ledger call => exact absurd rfl (hx call)
  | platform call => exact congrArg Stores.ledger h
  | isFile _ => exact congrArg Stores.ledger h.1
  | digest _ => exact congrArg Stores.ledger h.1

/-! ## Settings -/

/-- A storage that answers leaves its settings. -/
lemma sameSettings (h : s.Answers t x) : SameSettings s.storage t.storage := by
  by_cases hx : ∃ call, x.question = .storage call
  · obtain ⟨q, answer⟩ := x
    obtain ⟨call, rfl⟩ := hx
    obtain ⟨-, fs, -, hstorage⟩ := h
    rw [hstorage]
    exact MemoryStorage.sameSettings_answer fs s.storage call
  · rw [h.storage_eq fun call hcall => hx ⟨call, hcall⟩]
    exact .refl _

/-- A storage tells its own home directory. -/
lemma answersHome (h : s.Answers t x) : AnswersHome s.storage.home x.question x.answer := by
  obtain ⟨q, answer⟩ := x
  cases q with
  | storage call =>
    cases call with
    | homeDirectory =>
      obtain ⟨-, fs, hanswer, -⟩ := h
      exact hanswer
    | _ => trivial
  | _ => trivial

/-! ## Files -/

/-- There is a file where one was written. -/
lemma file?_of_uploads (h : s.Answers t x) (hx : Uploads path x) :
    t.storage.file? path ≠ none := by
  obtain ⟨localPath, rfl⟩ := hx
  obtain ⟨-, fs, hanswer, hstorage⟩ := h
  rcases hread : fs.read localPath with fault | content
  · simp [MemoryStorage.answer, hread, Except.mapError] at hanswer
  · simp [hstorage, MemoryStorage.answer, hread, MemoryStorage.file?_upload]

/-- A call that does not write a file leaves none where there was none, or where it deletes. -/
lemma file?_eq_none_iff (h : s.Answers t x) (hx : ¬Uploads path x) :
    t.storage.file? path = none ↔ s.storage.file? path = none ∨ Work.Removes path x := by
  have hsame : t.storage.file? path = s.storage.file? path → (¬Work.Removes path x) →
      (t.storage.file? path = none ↔ s.storage.file? path = none ∨ Work.Removes path x) := by
    intro hfile hnot
    rw [hfile, or_iff_left hnot]
  by_cases hcall : ∃ call, x.question = .storage call
  · obtain ⟨q, answer⟩ := x
    obtain ⟨call, rfl⟩ := hcall
    obtain ⟨-, fs, hanswer, hstorage⟩ := h
    cases call with
    | deleteRecursive dir =>
      rw [hstorage, Work.removes_deleteRecursive_iff]
      change (s.storage.deleteRecursive dir).2.file? path = none ↔ _
      rw [MemoryStorage.file?_deleteRecursive]
      split <;> simp_all
    | upload localPath path' =>
      refine hsame ?_ (Work.not_removes (by simp))
      rcases hread : fs.read localPath with fault | content
      · simp [hstorage, MemoryStorage.answer, hread]
      · -- the file that is written lies at another path
        have hne : path ≠ path' := by
          rintro rfl
          refine hx ⟨localPath, ?_⟩
          rw [hanswer]
          simp [MemoryStorage.answer, hread, Except.mapError]
        simp [hstorage, MemoryStorage.answer, hread, MemoryStorage.file?_upload, hne]
    | setReplication path' factor =>
      rw [hstorage, or_iff_left (Work.not_removes (by simp))]
      change (s.storage.setReplication path' factor).2.file? path = none ↔ _
      rw [MemoryStorage.file?_setReplication]
      split <;> simp
    | _ => exact hsame (by rw [hstorage]; rfl) (Work.not_removes (by simp))
  · refine hsame ?_ (Work.not_removes fun dir heq => hcall ⟨_, heq⟩)
    rw [h.storage_eq fun call heq => hcall ⟨call, heq⟩]

end Stores.Answers

namespace Run

/-- A run leaves the settings of the storage as they are. -/
lemma sameSettings (h : Run s log t) : SameSettings s.storage t.storage := by
  induction h with
  | nil s => exact .refl _
  | cons hx _ ih => exact hx.sameSettings.trans ih

/-- All calls are told the same home directory. -/
lemma answersHome (h : Run s log t) :
    ∀ x ∈ log, AnswersHome s.storage.home x.2.question x.2.answer := by
  induction h with
  | nil s => exact fun _ hx => absurd hx List.not_mem_nil
  | cons hx _ ih =>
    rw [← hx.sameSettings.home]
    exact List.forall_mem_cons.2 ⟨hx.sameSettings.home ▸ hx.answersHome, ih⟩

/-- Where nothing is written there is no file if there was none, or if it was deleted. -/
lemma file?_eq_none_iff_of_not_uploads (h : Run s log t) (hnot : ∀ x ∈ log, ¬Uploads path x.2) :
    t.storage.file? path = none ↔
      s.storage.file? path = none ∨ ∃ x ∈ log, Work.Removes path x.2 := by
  induction h with
  | nil s => simp
  | cons hx _ ih =>
    obtain ⟨hfirst, hrest⟩ := List.forall_mem_cons.1 hnot
    simp only [ih hrest, hx.file?_eq_none_iff hfirst, List.mem_cons, exists_eq_or_imp, or_assoc]

/-- **Whether there is a file at a path**: there is none if it was deleted after it was written for
the last time. -/
lemma file?_eq_none_iff {x : Nat × Work.Exchange} (h : Run s (before ++ x :: after) t)
    (hx : Uploads path x.2) (hlast : ∀ y ∈ after, ¬Uploads path y.2) :
    t.storage.file? path = none ↔ ∃ y ∈ after, Work.Removes path y.2 := by
  obtain ⟨u, -, _ | ⟨hwritten, hafter⟩⟩ := run_append_iff.1 h
  rw [hafter.file?_eq_none_iff_of_not_uploads hlast,
    or_iff_right (hwritten.file?_of_uploads hx)]

end Run

/-! ## Records -/

/-- What a log tells of the record of an application: its artifacts are those of a start, and there
is a time of a cleanup if one was recorded. -/
structure Tells (log : Log) (id : ApplicationId) (old new : Option DeploymentRecord) : Prop where
  artifacts : ∀ r, new = some r →
    (∃ x ∈ log, ∃ jobName m, x.2 = started jobName m ∧ m.applicationId = id ∧
      r.artifacts = m.artifacts) ∨
    ∃ r', old = some r' ∧ r.artifacts = r'.artifacts
  cleaned : (new.bind (·.cleanedAt)).isSome = true ↔
    (∃ x ∈ log, x.2 = marked id) ∨ (old.bind (·.cleanedAt)).isSome = true

variable {id : ApplicationId} {old new mid : Option DeploymentRecord} {memory : Memory}

/-- What is not about the record of an application does not change it. -/
lemma tells_of_silent (hmark : ∀ x ∈ log, x.2 ≠ marked id) : Tells log id old old := by
  refine ⟨fun r hr => .inr ⟨r, hr, rfl⟩, (or_iff_right ?_).symm⟩
  rintro ⟨x, hx, heq⟩
  exact hmark x hx heq

/-- What is told in two parts of a log is told in the whole. -/
lemma Tells.append (hbefore : Tells before id old mid) (hafter : Tells after id mid new) :
    Tells (before ++ after) id old new := by
  constructor
  · intro r hr
    rcases hafter.artifacts r hr with ⟨x, hx, hstart⟩ | ⟨r', hr', hsame⟩
    · exact .inl ⟨x, List.mem_append_right _ hx, hstart⟩
    · rw [hsame]
      exact (hbefore.artifacts r' hr').imp_left fun ⟨x, hx, hstart⟩ =>
        ⟨x, List.mem_append_left _ hx, hstart⟩
  · rw [hafter.cleaned, hbefore.cleaned]
    simp only [List.mem_append]
    constructor
    · rintro (⟨x, hx, h⟩ | ⟨x, hx, h⟩ | h)
      · exact .inl ⟨x, .inr hx, h⟩
      · exact .inl ⟨x, .inl hx, h⟩
      · exact .inr h
    · rintro (⟨x, hx | hx, h⟩ | h)
      · exact .inr (.inl ⟨x, hx, h⟩)
      · exact .inl ⟨x, hx, h⟩
      · exact .inr (.inr h)

/-- A record that is changed keeps its artifacts. -/
private lemma tells_of_map {x : Nat × Work.Exchange} {change : DeploymentRecord → DeploymentRecord}
    (hartifacts : ∀ r, (change r).artifacts = r.artifacts)
    (hcleaned : ((old.map change).bind (·.cleanedAt)).isSome = true ↔
      x.2 = marked id ∨ (old.bind (·.cleanedAt)).isSome = true) :
    Tells [x] id old (old.map change) := by
  constructor
  · intro r hr
    obtain ⟨r', hr', rfl⟩ := Option.map_eq_some_iff.1 hr
    exact .inr ⟨r', hr', hartifacts r'⟩
  · simpa using hcleaned

/-- What an operation of the ledger tells that succeeded. -/
lemma tells_remember (n seconds : Nat) {call : Ledger.Call} {value : call.Value}
    (hanswers : Remembers.Answers call value (memory call.application)) (id : ApplicationId) :
    Tells [(n, ⟨.ledger call, .ok value⟩)] id (memory id) (call.remember seconds memory id) := by
  unfold Ledger.Call.remember
  split
  · next hid =>
    subst hid
    generalize memory call.application = old at hanswers ⊢
    cases call with
    | recordStarted jobName m =>
      refine ⟨fun r hr => .inl ⟨_, List.mem_singleton_self _, jobName, m, rfl, rfl, ?_⟩,
        (or_iff_right ?_).symm⟩
      · exact Option.some.inj hr ▸ rfl
      · rintro ⟨x, hx, heq⟩
        exact nomatch (List.mem_singleton.1 hx ▸ heq :)
    | recordCompleted report =>
      refine tells_of_map (fun _ => rfl) ?_
      cases old <;> simp [DeploymentRecord.completed]
    | recordAborted id e termination teardownError =>
      refine tells_of_map (fun _ => rfl) ?_
      cases old <;> simp [DeploymentRecord.aborted]
    | markCleaned id =>
      refine tells_of_map (fun _ => rfl) ?_
      obtain rfl : value = old.isSome := hanswers
      cases old <;> simp [DeploymentRecord.cleaned, Ledger.Call.application]
  · next hid =>
    refine tells_of_silent (List.forall_mem_singleton.2 fun heq => ?_)
    cases heq
    exact hid rfl

/-- What an answer leaves in a ledger that represented a map of records. Only of an application with
a record a cleanup is recorded. -/
lemma Stores.Answers.remembers (h : s.Answers t x)
    (hs : Remembers s.ledger latestVersion memory) (n : Nat) :
    ∃ memory', Remembers t.ledger latestVersion memory' ∧
      (∀ id, Tells [(n, x)] id (memory id) (memory' id)) ∧
      ∀ id, x = marked id → (memory id).isSome = true := by
  have hsame : Remembers t.ledger latestVersion memory → (∀ id, x ≠ marked id) →
      ∃ memory', Remembers t.ledger latestVersion memory' ∧
        (∀ id, Tells [(n, x)] id (memory id) (memory' id)) ∧
        ∀ id, x = marked id → (memory id).isSome = true := fun ht hx =>
    ⟨memory, ht, fun id => tells_of_silent (List.forall_mem_singleton.2 (hx id)),
      fun id heq => absurd heq (hx id)⟩
  -- only what is asked of the ledger may change what it remembers
  by_cases hcall : ∃ call, x.question = .ledger call
  · obtain ⟨q, answer⟩ := x
    obtain ⟨call, rfl⟩ := hcall
    obtain ⟨-, htold⟩ := h
    cases answer with
    | ok value =>
      obtain ⟨now, hrun⟩ := htold
      obtain ⟨seconds, -, hanswers, ht⟩ := hs.action hrun
      refine ⟨_, ht, tells_remember n seconds hanswers, fun id heq => ?_⟩
      cases heq
      exact hanswers.symm
    | error mishap =>
      refine hsame ?_ fun id heq => nomatch heq
      rcases htold with heq | ⟨now, fault, hrun⟩
      · rwa [heq]
      · exact hs.unchanged (Ledger.atomic_action now call .writing _ _ _ hrun)
  · refine hsame ?_ ?_
    · rwa [h.ledger_eq fun call heq => hcall ⟨call, heq⟩]
    · rintro id rfl
      exact hcall ⟨_, rfl⟩

/-- **What the ledger has of an application** is what the log tells. -/
lemma Run.remembers (h : Run s log t) (hs : Remembers s.ledger latestVersion memory) :
    ∃ memory', Remembers t.ledger latestVersion memory' ∧
      ∀ id, Tells log id (memory id) (memory' id) := by
  induction h generalizing memory with
  | nil s => exact ⟨memory, hs, fun id => tells_of_silent fun _ hx => absurd hx List.not_mem_nil⟩
  | @cons _ _ _ x _ hx _ ih =>
    obtain ⟨mid, hmid, hfirst, -⟩ := hx.remembers hs x.1
    obtain ⟨memory', ht, hrest⟩ := ih hmid
    exact ⟨memory', ht, fun id => (hfirst id).append (hrest id)⟩

end Runtime

end ClusterDeploy
