import ClusterDeploy.Proofs.Ledger.Refinement
import Mathlib.Data.List.Nodup
import Mathlib.Tactic.Choose

set_option relaxedAutoImplicit false
set_option autoImplicit false

/-!
# Which deployments require inspection

Whether somebody has to look after a cluster is decided three times: of the report of a deployment,
of the record that the ledger keeps of it, and of the row that the record is read from. Whatever the
ledger served before, the three agree.

## Main definitions

* `Ledger.Call.suspects?` — what is told of the end of a deployment, as far as inspection goes.
* `Ledger.suspects` — the records that require inspection, in the order of the list.
* `Ledger.History` — databases that come of calls after a migration to the latest layout.
* `Ledger.Listed` — an application whose cluster somebody has to look after.

## Main results

* `Ledger.Remembers.of_suspects?` — the record of a deployment that ended is as its end was told.
* `Ledger.Remembers.serveAll_other` — what is told of others leaves the record of an application.
* `Ledger.Represents.exists_records` — the rows stand for records of different applications.
* `Ledger.Remembers.exists_listed` — the list is made of the records that require inspection, each
  once.
-/

namespace ClusterDeploy

namespace Ledger

variable {db db' : Database} {version : Int} {memory : Memory} {access : Access} {now : Int}
  {id : ApplicationId} {r : DeploymentRecord} {records : List DeploymentRecord}

/-! ## Telling of an end -/

/-- Whether somebody has to look after the cluster of a deployment, by what is told of its end. -/
def Call.suspects? : Call → Option Bool
  | .recordCompleted report => some report.requiresInspection
  | .recordAborted _ _ termination teardownError =>
    some (teardownError.isSome || termination == some .running)
  | _ => none

/-- A record is as suspect as the report that completes it. -/
lemma requiresInspection_completed (report : DeploymentReport) (seconds : Nat) :
    (r.completed report seconds).requiresInspection = report.requiresInspection := by
  unfold DeploymentRecord.requiresInspection DeploymentReport.requiresInspection
    DeploymentRecord.completed
  cases report.teardownError <;> cases report.termination <;> rfl

/-- A record is as suspect as the failure that ends it. -/
lemma requiresInspection_aborted (e : DeployError) (termination : Option Termination)
    (teardownError : Option DeployError) (seconds : Nat) :
    (r.aborted e termination teardownError seconds).requiresInspection =
      (teardownError.isSome || termination == some .running) := by
  cases teardownError <;> rfl

/-- **The record of a deployment that ended is as its end was told.** -/
lemma Remembers.of_suspects? (h : Remembers db version memory) {call : Call} {value : call.Value}
    {suspect : Bool} (hend : call.suspects? = some suspect)
    (hrun : (call.action now).runOn .writing db = (.ok value, db')) :
    ∃ memory' r, Remembers db' version memory' ∧ memory' call.application = some r ∧
      r.requiresInspection = suspect := by
  obtain ⟨seconds, -, hanswers, h'⟩ := h.action hrun
  have hrecord : ∀ change : DeploymentRecord → DeploymentRecord,
      call.revise seconds (memory call.application) = (memory call.application).map change →
      (memory call.application).isSome = true →
      ∃ old, call.remember seconds memory call.application = some (change old) := by
    intro change hrevise hsome
    obtain ⟨old, hold⟩ := Option.isSome_iff_exists.1 hsome
    refine ⟨old, ?_⟩
    rw [Call.remember, if_pos rfl, hrevise, hold]
    rfl
  cases call with
  | recordStarted jobName m => exact nomatch hend
  | markCleaned id => exact nomatch hend
  | recordCompleted report =>
    obtain ⟨old, hold⟩ := hrecord _ rfl hanswers
    obtain rfl := Option.some.inj hend
    exact ⟨_, _, h', hold, requiresInspection_completed report seconds⟩
  | recordAborted id e termination teardownError =>
    obtain ⟨old, hold⟩ := hrecord _ rfl hanswers
    obtain rfl := Option.some.inj hend
    exact ⟨_, _, h', hold, requiresInspection_aborted e termination teardownError seconds⟩

/-! ## Other applications -/

/-- Nothing is noted of an application by what is told of others. -/
lemma Entry.noted_other {request : Request} {result : Except Fault request.Value}
    (hother : ∀ now call, request = .tell now call → call.application ≠ id) :
    Entry.noted id ⟨request, result⟩ = none := by
  cases request with
  | tell now call =>
    cases result with
    | error fault => rfl
    | ok value => exact if_neg fun hnoted => hother now call rfl hnoted.1
  | deployment other => exact (silent (.inl rfl)).2 id
  | listRecent limit => exact (silent (.inl rfl)).2 id
  | listRequiringInspection => exact (silent (.inl rfl)).2 id
  | currentVersion => exact (silent (.inl rfl)).2 id
  | migrate target => cases result <;> rfl

/-- Nothing is noted of an application while a ledger is told of others. -/
lemma noted_serveAll_other {requests : List Request}
    (hother : ∀ now call, .tell now call ∈ requests → call.application ≠ id) :
    (serveAll db requests).1.filterMap (Entry.noted id) = [] := by
  induction requests generalizing db with
  | nil => rfl
  | cons request rest ih =>
    rcases hrun : request.action.runOn .writing db with ⟨result, db₁⟩
    have hnone : Entry.noted id ⟨request, result⟩ = none :=
      Entry.noted_other fun now call heq => hother now call (heq ▸ List.mem_cons_self)
    rw [serveAll_cons hrun, List.filterMap_cons, hnone]
    exact ih fun now call hmem => hother now call (List.mem_cons_of_mem _ hmem)

/-- **What is told of other applications leaves the record of an application**, unless the layout
is moved. -/
lemma Remembers.serveAll_other (h : Remembers db version memory) {requests : List Request}
    (hstays : ∀ request ∈ requests, request.isMigration = false)
    (hother : ∀ now call, .tell now call ∈ requests → call.application ≠ id) :
    ∃ memory', Remembers (Ledger.serveAll db requests).2 version memory' ∧
      memory' id = memory id := by
  refine ⟨_, h.serveAll_of_unmoved hstays, ?_⟩
  rw [noted_serveAll_other hother]
  rfl

/-! ## Histories -/

/-- Databases that come of calls after a migration to the latest layout. Calls may fail. -/
inductive History : Database → Prop where
  | migrated {db : Database} :
    (applyMigration latestVersion).runOn .writing .empty = (.ok (), db) → History db
  | called {db db' : Database} {now : Int} {call : Call} {result : Except Fault call.Value} :
    History db → (call.action now).runOn .writing db = (result, db') → History db'

/-- A migration to the latest layout makes empty tables. -/
lemma runOn_applyMigration_empty : (applyMigration latestVersion).runOn .writing .empty =
    (.ok (), ⟨some [1, 2], some ⟨true, []⟩, some [], true⟩) :=
  rfl

/-- **After any history the tables represent a map**, with the latest layout.

**Proof sketch.** Induction on the history. The migration makes empty tables; a call changes the map
or nothing. -/
lemma remembers_of_history (h : History db) : ∃ memory, Remembers db latestVersion memory := by
  induction h with
  | migrated hrun =>
    obtain ⟨db', hmigrate, -, h', -⟩ := Remembers.empty.applyMigration (by decide) (Int.le_refl _)
    obtain ⟨-, rfl⟩ := Prod.mk.inj (hrun.symm.trans hmigrate)
    exact ⟨_, h'⟩
  | @called db db' now call result _ hrun ih =>
    obtain ⟨memory, h⟩ := ih
    cases result with
    | error fault => exact ⟨memory, h.unchanged (atomic_action now call .writing db fault db' hrun)⟩
    | ok value =>
      obtain ⟨seconds, -, -, h'⟩ := h.action hrun
      exact ⟨_, h'⟩

/-! ## Rows and records -/

/-- An application has as many records as there are rows of these records that are its own. -/
lemma count_applicationId (records : List DeploymentRecord) (id : ApplicationId) :
    (records.map (·.applicationId)).count id =
      (records.map DeploymentRow.ofRecord).countP fun row => row.isOf id.display := by
  rw [List.count_eq_countP, List.countP_map, List.countP_map]
  refine List.countP_congr fun r _ => ?_
  rw [Function.comp_apply, Function.comp_apply, isOf_ofRecord, beq_iff_eq, decide_eq_true_eq]

namespace Represents

variable {rows : List DeploymentRow} {artifacts : List ArtifactRow}

/-- Each row stands for a record in the map. -/
lemma exists_record_of_mem (h : Represents rows artifacts memory) {row : DeploymentRow}
    (hrow : row ∈ rows) : ∃ r, memory r.applicationId = some r ∧ row = .ofRecord r := by
  obtain ⟨id, hof⟩ := h.named row hrow
  have hfiltered : row ∈ (memory id).toList.map DeploymentRow.ofRecord := by
    rw [← h.rows id]
    exact List.mem_filter.2 ⟨hrow, hof⟩
  obtain ⟨r, hr, rfl⟩ := List.mem_map.1 hfiltered
  have hrecord : memory id = some r := Option.mem_toList.1 hr
  exact ⟨r, (h.applicationId_eq hrecord).symm ▸ hrecord, rfl⟩

/-- Each record in the map has a row. -/
lemma ofRecord_mem (h : Represents rows artifacts memory) (hrecord : memory id = some r) :
    DeploymentRow.ofRecord r ∈ rows := by
  have hfiltered : DeploymentRow.ofRecord r ∈ rows.filter fun row => row.isOf id.display := by
    rw [h.rows id, hrecord]
    exact List.mem_singleton_self _
  exact (List.mem_filter.1 hfiltered).1

/-- An application has at most one row. -/
lemma countP_isOf_le_one (h : Represents rows artifacts memory) (id : ApplicationId) :
    (rows.countP fun row => row.isOf id.display) ≤ 1 := by
  rw [List.countP_eq_length_filter, h.rows id, List.length_map]
  exact Option.length_toList_le

/-- **The rows stand for the records in the map**, which are records of different applications.

**Proof sketch.** Each row stands for some record in the map. Conversely a record in the map has a
row, and the record for which this row stands is the same one, because the two are records of one
application. -/
lemma exists_records (h : Represents rows artifacts memory) :
    ∃ records : List DeploymentRecord, rows = records.map .ofRecord ∧
      (records.map (·.applicationId)).Nodup ∧
      ∀ r, r ∈ records ↔ memory r.applicationId = some r := by
  choose! read hread using fun row (hrow : row ∈ rows) => h.exists_record_of_mem hrow
  have hrows : rows = (rows.map read).map .ofRecord := by
    rw [List.map_map]
    exact (List.map_id rows).symm.trans (List.map_congr_left fun row hrow => (hread row hrow).2)
  refine ⟨rows.map read, hrows, List.nodup_iff_count_le_one.2 fun id => ?_, fun r => ?_⟩
  · rw [count_applicationId, ← hrows]
    exact h.countP_isOf_le_one id
  · constructor
    · intro hr
      obtain ⟨row, hrow, rfl⟩ := List.mem_map.1 hr
      exact (hread row hrow).1
    · intro hrecord
      have hrow := h.ofRecord_mem hrecord
      obtain ⟨hother, hsame⟩ := hread _ hrow
      have hid : (read (.ofRecord r)).applicationId = r.applicationId := by
        have hof := isOf_ofRecord (r := read (.ofRecord r)) r.applicationId
        rw [← hsame, isOf_ofRecord, decide_eq_true rfl] at hof
        exact of_decide_eq_true hof.symm
      rw [hid, hrecord] at hother
      rw [Option.some.inj hother]
      exact List.mem_map_of_mem hrow

end Represents

/-! ## Listing -/

/-- An application whose cluster somebody has to look after, as the ledger has it. -/
def Listed (db : Database) (id : ApplicationId) : Prop :=
  ∃ found, (listRequiringInspection.runOn .reading db).1 = .ok found ∧
    ∃ r ∈ found, r.applicationId = id

/-- The records that require inspection, in the order in which they are listed. -/
def suspects (records : List DeploymentRecord) : List DeploymentRecord :=
  (records.filter DeploymentRecord.requiresInspection).mergeSort
    fun a b => (DeploymentRow.ofRecord a).newer (.ofRecord b)

/-- The suspects are the records that have to be looked at. -/
lemma mem_suspects {r : DeploymentRecord} :
    r ∈ suspects records ↔ r ∈ records ∧ r.requiresInspection = true := by
  rw [suspects, List.mem_mergeSort, List.mem_filter]

/-- The suspect rows of records are those of the records that require inspection. -/
private lemma suspectRows_eq :
    ((records.map DeploymentRow.ofRecord).filter DeploymentRow.isSuspect).mergeSort
      DeploymentRow.newer = (suspects records).map .ofRecord := by
  have hfilter : (records.map DeploymentRow.ofRecord).filter DeploymentRow.isSuspect =
      (records.filter DeploymentRecord.requiresInspection).map .ofRecord := by
    rw [List.filter_map]
    congr 2
    funext r
    exact isSuspect_ofRecord
  rw [hfilter]
  exact (List.map_mergeSort (f := DeploymentRow.ofRecord) fun _ _ _ _ => rfl).symm

/-- **The records that require inspection are listed**, each with its artifacts, if these are read
for its application. -/
lemma Holds.runOn_listRequiringInspection {rows : List ArtifactRow}
    (h : Holds db (records.map .ofRecord) rows)
    (hartifacts : ∀ r ∈ records,
      (artifactsOf r.applicationId).runOn access db = (.ok r.artifacts, db)) :
    listRequiringInspection.runOn access db = (.ok (suspects records), db) := by
  rw [listRequiringInspection, runOn_bind_of_ok h.runOn_ensureReady,
    runOn_bind_of_ok h.runOn_getReadable, suspectRows_eq]
  exact runOn_readRecords fun r hr => hartifacts r (mem_suspects.1 hr).1

/-- What is listed are records of different applications. -/
lemma nodup_suspects
    (hnodup : (records.map (·.applicationId)).Nodup) :
    ((suspects records).map (·.applicationId)).Nodup := by
  have hperm := List.mergeSort_perm (records.filter DeploymentRecord.requiresInspection)
    fun a b => (DeploymentRow.ofRecord a).newer (.ofRecord b)
  refine (hperm.map (·.applicationId)).nodup_iff.2 ?_
  exact hnodup.sublist (List.filter_sublist.map _)

namespace Remembers

/-- **The list is made of the records that require inspection**, each once. -/
lemma exists_listed (h : Remembers db latestVersion memory) :
    ∃ found, (∀ access, listRequiringInspection.runOn access db = (.ok found, db)) ∧
      (found.map (·.applicationId)).Nodup ∧
      ∀ r, r ∈ found ↔ memory r.applicationId = some r ∧ r.requiresInspection = true := by
  generalize hversion : latestVersion = version at h
  cases h with
  | bare _ => exact nomatch hversion
  | initial _ _ => exact nomatch hversion
  | @cleaning rows artifacts _ hrep =>
    obtain ⟨records, rfl, hnodup, hmem⟩ := hrep.exists_records
    have hholds : Holds ⟨some [1, 2], some ⟨true, records.map .ofRecord⟩, some artifacts, true⟩
        (records.map .ofRecord) artifacts := ⟨⟨[1, 2], rfl, by decide⟩, rfl, rfl⟩
    refine ⟨suspects records, fun access => ?_, nodup_suspects hnodup, fun r => ?_⟩
    · refine hholds.runOn_listRequiringInspection fun r hr => ?_
      rw [hrep.runOn_artifactsOf rfl access, (hmem r).1 hr]
      rfl
    · rw [mem_suspects, hmem]

/-- A record is that of its application. -/
lemma applicationId_eq (h : Remembers db version memory) (hrecord : memory id = some r) :
    r.applicationId = id := by
  cases h with
  | bare _ => exact nomatch hrecord
  | initial hrep _ => exact hrep.applicationId_eq hrecord
  | cleaning hrep => exact hrep.applicationId_eq hrecord

/-- An application is listed exactly if its record requires inspection. -/
lemma listed_iff (h : Remembers db latestVersion memory) :
    Listed db id ↔ ∃ r, memory id = some r ∧ r.requiresInspection = true := by
  obtain ⟨found, hrun, -, hfound⟩ := h.exists_listed
  rw [Listed, hrun .reading]
  constructor
  · rintro ⟨_, ⟨⟩, r, hr, rfl⟩
    exact ⟨r, (hfound r).1 hr⟩
  · rintro ⟨r, hrecord, hinspect⟩
    have hid := h.applicationId_eq hrecord
    exact ⟨found, rfl, r, (hfound r).2 ⟨hid.symm ▸ hrecord, hinspect⟩, hid⟩

end Remembers

end Ledger

end ClusterDeploy
