import ClusterDeploy.Dialogue
import ClusterDeploy.Proofs.Ledger.Layout

set_option relaxedAutoImplicit false
set_option autoImplicit false

/-!
# Histories of a ledger

A ledger serves requests one after the other: it is told of deployments, asked for records, and
moved from version to version. What it answered is written down, and from what is written down one
can tell which record it has of an application.

## Main definitions

* `Ledger.Request`, `Ledger.Entry`, `Ledger.serveAll` — requests, requests with what came of them,
  and histories.
* `Ledger.Note`, `Ledger.Entry.noted` — what a request noted of an application, and when.
* `Ledger.Entry.revise`, `Ledger.Entry.move` — what a request does to the record of an application,
  and to the version.
* `Ledger.Leaves` — what a request leaves of a database that represented a map.

## Main results

* `Ledger.Remembers.serve` — a request does to the tables what it does to the map that they
  represent.
* `Ledger.Remembers.serveAll` — the same of a whole history.
* `Ledger.exists_remembers` — whatever an empty ledger served, its tables represent some map.
-/

namespace ClusterDeploy.Ledger

/-! ## Requests -/

/-- What a ledger is asked. -/
inductive Request where
  /-- Note something, at a time in milliseconds since 1970. -/
  | tell (now : Int) (call : Call)
  | deployment (id : ApplicationId)
  | listRecent (limit : Nat)
  | listRequiringInspection
  | currentVersion
  /-- Move the layout to a version. -/
  | migrate (target : Int)

namespace Request

/-- The answers to a request. -/
abbrev Value : Request → Type
  | .tell _ call => call.Value
  | .deployment _ => Option DeploymentRecord
  | .listRecent _ => List DeploymentRecord
  | .listRequiringInspection => List DeploymentRecord
  | .currentVersion => Int
  | .migrate _ => Unit

/-- A request as a computation on the ledger. -/
def action : (r : Request) → Action r.Value
  | .tell now call => call.action now
  | .deployment id => Ledger.deployment id
  | .listRecent limit => Ledger.listRecent limit
  | .listRequiringInspection => Ledger.listRequiringInspection
  | .currentVersion => Ledger.currentVersion
  | .migrate target => applyMigration target

/-- Whether a request only looks something up. -/
def isLookup : Request → Bool
  | .tell _ _ => false
  | .migrate _ => false
  | _ => true

/-- Whether a request moves the layout. -/
def isMigration : Request → Bool
  | .migrate _ => true
  | _ => false

/-- To look something up changes nothing. -/
lemma passive_action {r : Request} (hlookup : r.isLookup = true) : Passive r.action := by
  cases r with
  | tell now call => exact nomatch hlookup
  | deployment id => exact passive_deployment id
  | listRecent limit => exact passive_listRecent limit
  | listRequiringInspection => exact passive_listRequiringInspection
  | currentVersion => exact passive_currentVersion
  | migrate target => exact nomatch hlookup

end Request

/-- A request with what came of it. -/
abbrev Entry := Dialogue.Exchange Request fun r => Except Fault r.Value

/-- Serves requests, one after the other: what came of them, and the database in the end. -/
def serveAll : Database → List Request → List Entry × Database
  | db, [] => ([], db)
  | db, r :: rest =>
    let (result, db') := r.action.runOn .writing db
    let (log, last) := serveAll db' rest
    (⟨r, result⟩ :: log, last)

/-- A history whose first request is known. -/
lemma serveAll_cons {db db₁ : Database} {r : Request} {result : Except Fault r.Value}
    (hrun : r.action.runOn .writing db = (result, db₁)) (rest : List Request) :
    serveAll db (r :: rest) = (⟨r, result⟩ :: (serveAll db₁ rest).1, (serveAll db₁ rest).2) := by
  change (⟨r, (r.action.runOn .writing db).1⟩ :: (serveAll (r.action.runOn .writing db).2 rest).1,
    (serveAll (r.action.runOn .writing db).2 rest).2) = _
  rw [hrun]

/-! ## What was noted -/

/-- What was noted, behind the second at which it was. -/
abbrev Note := Nat × Call

/-- What a list of notes makes of a record. -/
def toldAll (notes : List Note) (old : Option DeploymentRecord) :
    Option DeploymentRecord :=
  notes.foldl (fun old note => note.2.revise note.1 old) old

/-- Whether an operation records a start. -/
def Call.isStart : Call → Bool
  | .recordStarted _ _ => true
  | _ => false

/-- Whether an operation records a cleanup. -/
def Call.isCleaning : Call → Bool
  | .markCleaned _ => true
  | _ => false

/-- Whether an operation that succeeded noted anything. -/
def Call.notes : (call : Call) → call.Value → Bool
  | .recordStarted _ _, _ => true
  | .recordCompleted _, _ => true
  | .recordAborted _ _ _ _, _ => true
  | .markCleaned _, found => found

namespace Entry

/-- What was noted of an application. -/
def noted (id : ApplicationId) : Entry → Option Note
  | ⟨.tell now call, .ok value⟩ =>
    if call.application = id ∧ call.notes value = true then
      (toSeconds now).toOption.map fun seconds => (seconds, call)
    else none
  | _ => none

/-- The version to which the layout was moved. -/
def movedTo : Entry → Option Int
  | ⟨.migrate target, .ok _⟩ => some target
  | _ => none

/-- What became of the record of an application. -/
def revise (id : ApplicationId) (old : Option DeploymentRecord) (e : Entry) :
    Option DeploymentRecord :=
  match e.movedTo with
  | some target => keep target old
  | none => (e.noted id).elim old fun note => note.2.revise note.1 old

/-- Where the layout stood then. -/
def move (version : Int) (e : Entry) : Int :=
  e.movedTo.getD version

variable {id : ApplicationId} {r : Request}

/-- What a history told of an application, by its first request. -/
lemma toldAll_cons (e : Entry) (log : List Entry) (old : Option DeploymentRecord) :
    toldAll ((e :: log).filterMap (noted id)) old =
      toldAll (log.filterMap (noted id)) (toldAll (e.noted id).toList old) := by
  rw [List.filterMap_cons]
  cases e.noted id <;> rfl

/-- Nothing is noted of a request that failed, and nothing of one that looked something up. -/
lemma silent {result : Except Fault r.Value}
    (hsilent : r.isLookup = true ∨ ∃ fault, result = .error fault) :
    movedTo ⟨r, result⟩ = none ∧ ∀ id, noted id ⟨r, result⟩ = none := by
  rcases hsilent with hlookup | ⟨fault, rfl⟩
  · cases r with
    | tell now call => exact nomatch hlookup
    | migrate target => exact nomatch hlookup
    | deployment id => exact ⟨rfl, fun _ => rfl⟩
    | listRecent limit => exact ⟨rfl, fun _ => rfl⟩
    | listRequiringInspection => exact ⟨rfl, fun _ => rfl⟩
    | currentVersion => exact ⟨rfl, fun _ => rfl⟩
  · cases r with
    | tell now call => exact ⟨rfl, fun _ => rfl⟩
    | migrate target => exact ⟨rfl, fun _ => rfl⟩
    | deployment id => exact ⟨rfl, fun _ => rfl⟩
    | listRecent limit => exact ⟨rfl, fun _ => rfl⟩
    | listRequiringInspection => exact ⟨rfl, fun _ => rfl⟩
    | currentVersion => exact ⟨rfl, fun _ => rfl⟩

/-- Who moves the layout notes nothing. -/
lemma noted_of_movedTo {e : Entry} {target : Int} (hmoved : e.movedTo = some target) :
    e.noted id = none := by
  obtain ⟨r, result⟩ := e
  cases r with
  | migrate target => cases result <;> rfl
  | tell now call => cases result <;> exact nomatch hmoved
  | deployment id => exact nomatch hmoved
  | listRecent limit => exact nomatch hmoved
  | listRequiringInspection => exact nomatch hmoved
  | currentVersion => exact nomatch hmoved

/-- What was noted by an operation that succeeded. -/
lemma noted_tell {now : Int} {call : Call} {value : call.Value} {seconds : Nat}
    (hseconds : toSeconds now = .ok seconds) :
    noted id ⟨.tell now call, .ok value⟩ =
      if call.application = id ∧ call.notes value = true then some (seconds, call) else none := by
  change (if _ then (toSeconds now).toOption.map _ else none) = _
  rw [hseconds]
  rfl

end Entry

/-- What a request leaves of a database that represented a map: it represents what became of the
map. Of an application without a record nothing is noted but its start. -/
structure Leaves (version : Int) (memory : Memory) (e : Entry) (db : Database) : Prop where
  remembers : Remembers db (Entry.move version e) fun id => Entry.revise id (memory id) e
  known : ∀ id note, e.noted id = some note →
    note.2.isStart = true ∨ (memory id).isSome = true

variable {db db' : Database} {version : Int} {memory : Memory} {id : ApplicationId}

/-- A version that is not there cannot be the target. -/
lemma runOn_applyMigration_of_invalid {access : Access} {target : Int}
    (hinvalid : target < 0 ∨ latestVersion < target) :
    (applyMigration target).runOn access db = (.error (.invalidTarget target), db) := by
  have htarget : isTarget target = false := by
    rw [isTarget, Bool.and_eq_false_iff, decide_eq_false_iff_not, decide_eq_false_iff_not]
    omega
  unfold applyMigration
  rw [htarget]
  rfl

namespace Remembers

/-- An operation that is told changes the record of an application as it is noted. -/
private lemma remember_eq {now : Int} {call : Call} {value : call.Value} {seconds : Nat}
    (hseconds : toSeconds now = .ok seconds)
    (hanswers : Answers call value (memory call.application)) :
    call.remember seconds memory =
      fun id => Entry.revise id (memory id) ⟨.tell now call, .ok value⟩ := by
  funext id
  change _ = (Entry.noted id ⟨.tell now call, .ok value⟩).elim _ _
  rw [Entry.noted_tell hseconds]
  unfold Call.remember
  by_cases hid : id = call.application
  · subst hid
    cases call with
    | recordStarted jobName m => rw [if_pos rfl, if_pos ⟨rfl, rfl⟩]; rfl
    | recordCompleted report => rw [if_pos rfl, if_pos ⟨rfl, rfl⟩]; rfl
    | recordAborted id e termination teardownError => rw [if_pos rfl, if_pos ⟨rfl, rfl⟩]; rfl
    | markCleaned id =>
      obtain rfl : value = (memory id).isSome := hanswers
      cases hrecord : memory id with
      -- the cleanup of an unknown application: the answer is `false`, and no record comes of it
      | none =>
        rw [if_pos rfl, if_neg (by simp [Call.notes])]
        change (memory id).map _ = memory id
        rw [hrecord]
        rfl
      | some r => rw [if_pos rfl, if_pos ⟨rfl, rfl⟩]; rfl
  · rw [if_neg hid, if_neg fun h => hid h.1.symm]
    rfl

/-- A request of which nothing is noted leaves the map if it leaves the tables. -/
private lemma leaves_of_silent (h : Remembers db version memory) {r : Request}
    {result : Except Fault r.Value} (hsilent : r.isLookup = true ∨ ∃ fault, result = .error fault)
    (hsame : Unchanged db db') : Leaves version memory ⟨r, result⟩ db' := by
  obtain ⟨hmoved, hnoted⟩ := Entry.silent hsilent
  constructor
  · unfold Entry.move Entry.revise
    simp only [hmoved, hnoted]
    exact h.unchanged hsame
  · intro id note hnote
    rw [hnoted] at hnote
    exact nomatch hnote

/-- An operation that succeeds does to the map what is noted of it. -/
private lemma leaves_of_told (h : Remembers db version memory) {now : Int} {call : Call}
    {value : call.Value} (hrun : (call.action now).runOn .writing db = (.ok value, db')) :
    Leaves version memory ⟨.tell now call, .ok value⟩ db' := by
  obtain ⟨seconds, hseconds, hanswers, h'⟩ := h.action hrun
  rw [remember_eq hseconds hanswers] at h'
  refine ⟨h', fun id note hnote => ?_⟩
  rw [Entry.noted_tell hseconds] at hnote
  split at hnote
  · next hid =>
    obtain ⟨rfl, hnotes⟩ := hid
    obtain rfl := Option.some.inj hnote
    cases call with
    | recordStarted jobName m => exact .inl rfl
    | recordCompleted report => exact .inr hanswers
    | recordAborted id e termination teardownError => exact .inr hanswers
    | markCleaned id => exact .inr (hanswers.symm.trans hnotes)
  · exact nomatch hnote

/-- **A request does to the tables what it does to the map that they represent.**

**Proof sketch.** A request that fails changes nothing, and so does one that only looks something
up. What the others do is said by `Remembers.action` and `Remembers.applyMigration`. -/
lemma serve (h : Remembers db version memory) {r : Request} {result : Except Fault r.Value}
    (hrun : r.action.runOn .writing db = (result, db')) :
    Leaves version memory ⟨r, result⟩ db' := by
  by_cases hlookup : r.isLookup = true
  · have hsame := Request.passive_action hlookup .writing db
    rw [hrun] at hsame
    exact h.leaves_of_silent (.inl hlookup) hsame
  cases r with
  | deployment id => exact (hlookup rfl).elim
  | listRecent limit => exact (hlookup rfl).elim
  | listRequiringInspection => exact (hlookup rfl).elim
  | currentVersion => exact (hlookup rfl).elim
  | tell now call =>
    cases result with
    | error fault =>
      exact h.leaves_of_silent (.inr ⟨fault, rfl⟩) (atomic_action now call _ _ _ _ hrun)
    | ok value => exact h.leaves_of_told hrun
  | migrate target =>
    by_cases hvalid : 0 ≤ target ∧ target ≤ latestVersion
    · obtain ⟨db₁, hmigrate, -, h', -⟩ := h.applyMigration hvalid.1 hvalid.2
      obtain ⟨rfl, rfl⟩ := Prod.mk.inj (hrun.symm.trans hmigrate)
      exact ⟨h', fun _ _ hnote => nomatch hnote⟩
    · have hinvalid : (Ledger.applyMigration target).runOn .writing db = _ :=
        runOn_applyMigration_of_invalid (by omega)
      obtain ⟨rfl, rfl⟩ := Prod.mk.inj (hrun.symm.trans hinvalid)
      exact h.leaves_of_silent (.inr ⟨_, rfl⟩) (.refl _)

/-- **A history does to the tables what it does to the map that they represent.** -/
lemma serveAll (h : Remembers db version memory) (requests : List Request) :
    Remembers (Ledger.serveAll db requests).2
      ((Ledger.serveAll db requests).1.foldl Entry.move version)
      fun id => (Ledger.serveAll db requests).1.foldl (Entry.revise id) (memory id) := by
  induction requests generalizing db version memory with
  | nil => exact h
  | cons r rest ih =>
    rcases hrun : r.action.runOn .writing db with ⟨result, db₁⟩
    rw [serveAll_cons hrun]
    exact ih (h.serve hrun).remembers

end Remembers

/-- Whatever an empty ledger served, its tables represent some map. -/
lemma exists_remembers (requests : List Request) :
    ∃ version memory, Remembers (serveAll .empty requests).2 version memory :=
  ⟨_, _, Remembers.empty.serveAll requests⟩

end ClusterDeploy.Ledger
