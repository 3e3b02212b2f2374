import Mathlib.Data.List.Induction
import ClusterDeploy.Proofs.Ledger.Migrations

set_option relaxedAutoImplicit false
set_option autoImplicit false

/-!
# The ledger recalls what it was told

With the latest layout the ledger is a map from applications to records, and the record of an
application is made of what was noted of it: the start gives what the deployment is, the last
completion its outcome, the last completion or failure how it ended, and the last cleanup its time.
What is said about one application changes nothing about another one.

## Main definitions

* `Ledger.latest` — the last of the notes with something to tell.
* `Ledger.outcome?`, `Ledger.ending?`, `Ledger.cleanedAt?` — what a note tells.
* `DeploymentRecord.Recalls` — a record is made of what was noted.

## Main results

* `Ledger.Remembers.serveAll_of_unmoved` — without migrations, the records are what was noted.
* `Ledger.exists_recalls` — notes that begin with a start make a record.
* `Ledger.serveAll_recalls` — the ledger recalls what it was told.
* `Ledger.serveAll_forgets_early_cleanup` — but not a cleanup that came too early.

## Implementation notes

A cleanup is answered with `false` if the application is not known, and nothing is noted of it then.
So a cleanup that comes before the start does not show in the record.
-/

namespace ClusterDeploy

namespace Ledger

/-! ## The last notes -/

/-- How a deployment ended, as it stands in a record. -/
structure Ending where
  termination : Option Termination
  teardownError : Option String
  error : Option String
  finishedAt : Option Nat

/-- The ending of a deployment that did not end. -/
def Ending.unfinished : Ending :=
  ⟨none, none, none, none⟩

/-- The outcome that a completion tells. -/
def outcome? : Note → Option JobOutcome
  | (_, .recordCompleted report) => some report.outcome
  | _ => none

/-- The ending that a completion or a failure tells. A completion has no error. -/
def ending? : Note → Option Ending
  | (seconds, .recordCompleted report) =>
    some ⟨some report.termination, report.teardownError.map DeployError.display, none, some seconds⟩
  | (seconds, .recordAborted _ e termination teardownError) =>
    some ⟨termination, teardownError.map DeployError.display, some e.display, some seconds⟩
  | _ => none

/-- The time that a cleanup tells. -/
def cleanedAt? : Note → Option Nat
  | (seconds, .markCleaned _) => some seconds
  | _ => none

/-- What is told by the last of the notes with something to tell. -/
def latest {α : Type} (tells : Note → Option α) (notes : List Note) : Option α :=
  (notes.filterMap tells).getLast?

/-- The last note comes first, if it has something to tell. -/
lemma latest_append {α : Type} (tells : Note → Option α) (notes : List Note) (note : Note) :
    latest tells (notes ++ [note]) = (tells note).or (latest tells notes) := by
  unfold latest
  rw [List.filterMap_append, List.getLast?_append]
  cases htells : tells note <;> simp [htells]

end Ledger

open Ledger

/-- How the deployment of a record ended. -/
def DeploymentRecord.ending (r : DeploymentRecord) : Ending :=
  ⟨r.termination, r.teardownError, r.error, r.finishedAt⟩

/-- **A record is made of what was noted**: of a start the name of the job and the manifest; of the
last completion the outcome; of the last completion or failure how the deployment ended; of the last
cleanup its time. -/
structure DeploymentRecord.Recalls (r : DeploymentRecord) (notes : List Note) : Prop where
  start : ∃ m : Manifest, (r.startedAt, .recordStarted r.jobName m) ∈ notes ∧
    m = ⟨r.applicationId, r.stagingDir, r.artifacts, r.replication⟩
  outcome : r.outcome = latest outcome? notes
  ending : r.ending = (latest ending? notes).getD .unfinished
  cleanedAt : r.cleanedAt = latest cleanedAt? notes

namespace Ledger

variable {db db' : Database} {version : Int} {memory : Memory} {id : ApplicationId}

/-- A start is recorded for a job with a manifest. -/
lemma Call.exists_of_isStart {call : Call} (hstart : call.isStart = true) :
    ∃ jobName m, call = .recordStarted jobName m := by
  cases call with
  | recordStarted jobName m => exact ⟨jobName, m, rfl⟩
  | recordCompleted report => exact nomatch hstart
  | recordAborted id e termination teardownError => exact nomatch hstart
  | markCleaned id => exact nomatch hstart

/-- **Notes that begin with a start make a record**, if there is no other start among them.

**Proof sketch.** By induction on the notes behind the start, from the last one back. Each note
changes the part of the record of which it is the latest. -/
lemma exists_recalls (seconds : Nat) (jobName : String) (m : Manifest) (notes : List Note)
    (hstarts : ∀ note ∈ notes, note.2.isStart = false) :
    ∃ r, toldAll ((seconds, .recordStarted jobName m) :: notes) none = some r ∧
      r.Recalls ((seconds, .recordStarted jobName m) :: notes) := by
  induction notes using List.reverseRecOn with
  | nil =>
    exact ⟨freshRecord jobName m seconds none, rfl,
      ⟨m, List.mem_singleton_self _, rfl⟩, rfl, rfl, rfl⟩
  | append_singleton notes note ih =>
    obtain ⟨hbefore, hnote⟩ := List.forall_mem_append.1 hstarts
    obtain ⟨r, htold, hrecalls⟩ := ih hbefore
    have hstart := hrecalls.start.imp fun _ h => h.imp_left (List.mem_append_left [note])
    -- what the note does not replace is as the notes before it made it
    rw [← List.cons_append, toldAll, List.foldl_append]
    change ∃ r', note.2.revise note.1 (toldAll _ none) = some r' ∧ _
    rw [htold]
    obtain ⟨now, call⟩ := note
    cases call with
    | recordStarted jobName' m' => exact nomatch hnote _ (List.mem_singleton_self _)
    | recordCompleted report =>
      refine ⟨_, rfl, hstart, ?_, ?_, ?_⟩
      · rw [latest_append]
        rfl
      · rw [latest_append]
        rfl
      · rw [latest_append]
        exact hrecalls.cleanedAt
    | recordAborted id e termination teardownError =>
      refine ⟨_, rfl, hstart, ?_, ?_, ?_⟩
      · rw [latest_append]
        exact hrecalls.outcome
      · rw [latest_append]
        rfl
      · rw [latest_append]
        exact hrecalls.cleanedAt
    | markCleaned id =>
      refine ⟨_, rfl, hstart, ?_, ?_, ?_⟩
      · rw [latest_append]
        exact hrecalls.outcome
      · rw [latest_append]
        exact hrecalls.ending
      · rw [latest_append]
        rfl

/-- Notes without a start before which something is noted make a record exactly if there is a start
among them, and if there is only one they make the record of which they are the notes. -/
lemma toldAll_recalls {notes : List Note}
    (hfirst : notes = [] ∨
      ∃ seconds jobName m rest, notes = (seconds, .recordStarted jobName m) :: rest)
    (honce : notes.countP (·.2.isStart) ≤ 1) :
    (toldAll notes none = none ↔ ∀ note ∈ notes, note.2.isStart = false) ∧
      ∀ r, toldAll notes none = some r → r.Recalls notes := by
  rcases hfirst with rfl | ⟨seconds, jobName, m, rest, rfl⟩
  · exact ⟨iff_of_true rfl (List.forall_mem_nil _), fun _ hr => nomatch hr⟩
  · have hrest : ∀ note ∈ rest, note.2.isStart = false := by
      rw [List.countP_cons_of_pos rfl] at honce
      have hnone := Nat.le_zero.1 (Nat.le_of_succ_le_succ honce)
      exact fun note hnote => Bool.eq_false_iff.2 (List.countP_eq_zero.1 hnone note hnote)
    obtain ⟨r, htold, hrecalls⟩ := exists_recalls seconds jobName m rest hrest
    rw [htold]
    refine ⟨iff_of_false nofun fun hnone => ?_, fun r' hr' => Option.some.inj hr' ▸ hrecalls⟩
    exact nomatch hnone _ List.mem_cons_self

/-! ## Histories without migrations -/

/-- Who does not migrate does not move the layout. -/
lemma Entry.movedTo_of_not_isMigration {r : Request} {result : Except Fault r.Value}
    (hstays : r.isMigration = false) : Entry.movedTo ⟨r, result⟩ = none := by
  cases r with
  | migrate target => exact nomatch hstays
  | tell now call => rfl
  | deployment id => rfl
  | listRecent limit => rfl
  | listRequiringInspection => rfl
  | currentVersion => rfl

/-- What at most one note makes of a record. -/
lemma toldAll_toList (note : Option Note) (old : Option DeploymentRecord) :
    toldAll note.toList old = note.elim old fun note => note.2.revise note.1 old := by
  cases note <;> rfl

namespace Remembers

/-- **Without migrations the layout stays, and the records are what was noted.** -/
lemma serveAll_of_unmoved (h : Remembers db version memory) {requests : List Request}
    (hstays : ∀ r ∈ requests, r.isMigration = false) :
    Remembers (Ledger.serveAll db requests).2 version fun id =>
      toldAll ((Ledger.serveAll db requests).1.filterMap (Entry.noted id)) (memory id) := by
  induction requests generalizing db memory with
  | nil => exact h
  | cons r rest ih =>
    obtain ⟨hr, hrest⟩ := List.forall_mem_cons.1 hstays
    rcases hrun : r.action.runOn .writing db with ⟨result, db₁⟩
    have h₁ := (h.serve hrun).remembers
    unfold Entry.move Entry.revise at h₁
    simp only [Entry.movedTo_of_not_isMigration hr] at h₁
    rw [serveAll_cons hrun]
    simp only [Entry.toldAll_cons, toldAll_toList]
    exact ih h₁ hrest

/-- The notes of an application without a record begin with a start. -/
lemma noted_eq_nil_or (h : Remembers db version memory) (hnone : memory id = none)
    (requests : List Request) :
    (Ledger.serveAll db requests).1.filterMap (Entry.noted id) = [] ∨
      ∃ seconds jobName m notes, (Ledger.serveAll db requests).1.filterMap (Entry.noted id) =
        (seconds, .recordStarted jobName m) :: notes := by
  induction requests generalizing db version memory with
  | nil => exact .inl rfl
  | cons r rest ih =>
    rcases hrun : r.action.runOn .writing db with ⟨result, db₁⟩
    rw [serveAll_cons hrun, List.filterMap_cons]
    obtain ⟨h₁, hknown⟩ := h.serve hrun
    cases hnoted : Entry.noted id ⟨r, result⟩ with
    | none =>
      refine ih h₁ ?_
      rw [hnone]
      refine (Entry.revise_none id ⟨r, result⟩).resolve_right ?_
      rintro ⟨_, _, _, hstart, -⟩
      exact nomatch hnoted.symm.trans hstart
    | some note =>
      have hstart := (hknown id note hnoted).resolve_right (by rw [hnone]; exact nofun)
      obtain ⟨seconds, call⟩ := note
      obtain ⟨jobName, m, rfl⟩ := Call.exists_of_isStart hstart
      exact .inr ⟨seconds, jobName, m, _, rfl⟩

/-- Migrations of a ledger without records make none. -/
lemma serveAll_migrations (h : Remembers db version fun _ => none) (targets : List Int) :
    ∃ version, Remembers (Ledger.serveAll db (targets.map .migrate)).2 version fun _ => none := by
  induction targets generalizing db version with
  | nil => exact ⟨version, h⟩
  | cons target rest ih =>
    rcases hrun : (Request.migrate target).action.runOn .writing db with ⟨result, db₁⟩
    have h₁ := (h.serve hrun).remembers
    have hnone : (fun id => Entry.revise id none ⟨.migrate target, result⟩) = fun _ => none := by
      funext id
      refine (Entry.revise_none id _).resolve_right ?_
      rintro ⟨_, _, _, hstart, -⟩
      cases result <;> exact nomatch hstart
    rw [hnone] at h₁
    rw [List.map_cons, serveAll_cons hrun]
    exact ih h₁

/-- An operation on one application changes nothing about another one. -/
lemma deployment_other (h : Remembers db latestVersion memory) (now : Int) (call : Call)
    (hother : call.application ≠ id) (access : Access) :
    (Ledger.deployment id).runOn access ((call.action now).runOn .writing db).2 =
      (.ok (memory id), ((call.action now).runOn .writing db).2) := by
  rcases hrun : (call.action now).runOn .writing db with ⟨fault | value, db'⟩
  · exact (h.unchanged (atomic_action now call .writing db fault db' hrun)).deployment id
  · obtain ⟨seconds, -, -, h'⟩ := h.action hrun
    have hsame : call.remember seconds memory id = memory id := if_neg (Ne.symm hother)
    rw [← hsame]
    exact h'.deployment id

end Remembers

/-! ## The ledger -/

/-- A ledger on which only migrations were made. -/
def migrated (targets : List Int) : Database :=
  (serveAll .empty (targets.map .migrate)).2

/-- What was noted of an application while a ledger served requests. -/
def notesOf (id : ApplicationId) (db : Database) (requests : List Request) : List Note :=
  (serveAll db requests).1.filterMap (Entry.noted id)

/-- **The ledger recalls what it was told.** On a ledger on which only migrations were made and that
has the latest layout, whatever is recorded and looked up: if the deployment of an application was
not started twice, then

1. there is a record of it exactly if a start was noted, and looking it up changes nothing;
2. the record is made of what was noted;
3. no operation on another application changes what is found.

**Proof sketch.** The tables represent a map of records, and without migrations the record of an
application in this map is what its notes make of nothing. Nothing is noted before a start. -/
theorem serveAll_recalls (targets : List Int) (requests : List Request) (id : ApplicationId)
    (hlatest : (migrated targets).version = latestVersion)
    (hstays : ∀ r ∈ requests, r.isMigration = false)
    (honce : (notesOf id (migrated targets) requests).countP (·.2.isStart) ≤ 1) :
    let notes := notesOf id (migrated targets) requests
    let db := (serveAll (migrated targets) requests).2
    ∃ found, (∀ access, (deployment id).runOn access db = (.ok found, db)) ∧
      (found = none ↔ ∀ note ∈ notes, note.2.isStart = false) ∧
      (∀ r, found = some r → r.Recalls notes) ∧
      ∀ now (call : Call), call.application ≠ id → ∀ access,
        let db' := ((call.action now).runOn .writing db).2
        (deployment id).runOn access db' = (.ok found, db') := by
  intro notes db
  obtain ⟨version, hempty⟩ := Remembers.empty.serveAll_migrations targets
  obtain rfl : version = latestVersion := hempty.version_eq.symm.trans hlatest
  have h : Remembers db latestVersion _ := hempty.serveAll_of_unmoved hstays
  obtain ⟨hnone, hrecalls⟩ := toldAll_recalls (hempty.noted_eq_nil_or rfl requests) honce
  exact ⟨_, fun _ => h.deployment id, hnone, hrecalls, fun now call => h.deployment_other now call⟩

/-- A deployment starts, fails and is cleaned up. -/
theorem serveAll_recalls_of_failure :
    let m : Manifest := ⟨default, "/s", [], .configured 2⟩
    let e : DeployError := .ofKind .cancelled "gone"
    let requests : List Request := [.tell 5000 (.recordStarted "job" m),
      .tell 6000 (.recordAborted default e none none), .tell 7000 (.markCleaned default)]
    ∃ r, (deployment default).runOn .reading (serveAll (migrated [2]) requests).2 =
        (.ok (some r), (serveAll (migrated [2]) requests).2) ∧
      r.jobName = "job" ∧ r.outcome = none ∧ r.ending = ⟨none, none, some e.display, some 6⟩ ∧
      r.cleanedAt = some 7 := by
  intro m e requests
  have hnotes : notesOf default (migrated [2]) requests = [(5, .recordStarted "job" m),
      (6, .recordAborted default e none none), (7, .markCleaned default)] := by decide +kernel
  obtain ⟨found, hfound, hnone, hrecalls, -⟩ :=
    serveAll_recalls [2] requests default (by decide) (by decide) (by rw [hnotes]; decide)
  rw [hnotes] at hnone hrecalls
  cases found with
  | none => exact nomatch hnone.1 rfl _ List.mem_cons_self
  | some r =>
    have hr := hrecalls r rfl
    obtain ⟨m', hmem, -⟩ := hr.start
    have hjob : r.jobName = "job" := by simp at hmem; exact hmem.2.1
    exact ⟨r, hfound .reading, hjob, hr.outcome, hr.ending, hr.cleanedAt⟩

/-- **A cleanup that comes before the start does not show in the record.** It succeeds, and its time
is not before 1970; but the answer is `false`, and when the deployment starts later its record has
no time of a cleanup. -/
theorem serveAll_forgets_early_cleanup :
    let m : Manifest := ⟨default, "/s", [], .configured 2⟩
    let requests : List Request :=
      [.tell 5000 (.markCleaned default), .tell 6000 (.recordStarted "job" m)]
    let run := serveAll (migrated [2]) requests
    run.1 = [⟨.tell 5000 (.markCleaned default), .ok false⟩,
        ⟨.tell 6000 (.recordStarted "job" m), .ok ()⟩] ∧
      ∃ r, (deployment default).runOn .reading run.2 = (.ok (some r), run.2) ∧
        r.cleanedAt ≠ some 5 ∧ r.cleanedAt = none := by
  intro m requests run
  refine ⟨rfl, freshRecord "job" m 6 none, ?_, nofun, rfl⟩
  obtain ⟨version, hempty⟩ := Remembers.empty.serveAll_migrations [2]
  obtain rfl : version = latestVersion := hempty.version_eq.symm
  have hstays : ∀ r ∈ requests, r.isMigration = false := by decide
  exact (hempty.serveAll_of_unmoved hstays).deployment default

end Ledger

end ClusterDeploy
