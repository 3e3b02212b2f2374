import ClusterDeploy.Proofs.Ledger.Artifacts

set_option relaxedAutoImplicit false
set_option autoImplicit false

/-!
# What the operations of the ledger do

An operation on the ledger that fails leaves all rows, all columns and the version of the layout as
they were, whatever the database holds and at whatever point it fails. Looking up changes nothing at
all. What an operation did that succeeded can be said without any assumption on the database either.

## Main definitions

* `Ledger.Unchanged` — two databases with the same tables.
* `Ledger.Passive`, `Ledger.Atomic` — computations that change nothing, and computations that change
  nothing if they fail.

## Main results

* `Ledger.atomic_action` — the operations that record something are atomic.
* `Ledger.passive_deployment`, `Ledger.passive_listRecent`,
  `Ledger.passive_listRequiringInspection`, `Ledger.passive_currentVersion` — the operations that
  look something up are passive.
* `Ledger.exists_written_of_recordStarted`, `Ledger.exists_updated_of_recordCompleted`,
  `Ledger.exists_updated_of_recordAborted`, `Ledger.exists_updated_of_markCleaned` — what an
  operation did that succeeded.

## Implementation notes

The table of versions is made when somebody asks for the version. A database without this table
stands at version zero, just like one in which it is empty, so the two count as unchanged.
-/

namespace ClusterDeploy.Ledger

/-- Two databases with the same tables, the same columns and the same versions. -/
structure Unchanged (db db' : Database) : Prop where
  deployments : db'.deployments = db.deployments
  artifacts : db'.artifacts = db.artifacts
  startIndex : db'.startIndex = db.startIndex
  versions : db'.versions.getD [] = db.versions.getD []

/-- A computation that changes nothing. -/
def Passive {α : Type} (p : Action α) : Prop :=
  ∀ access db, Unchanged db (p.runOn access db).2

/-- A computation that changes nothing if it fails. -/
def Atomic {α : Type} (p : Action α) : Prop :=
  ∀ access db fault db', p.runOn access db = (.error fault, db') → Unchanged db db'

variable {α β : Type} {p : Action α} {f : α → Action β} {access : Access} {db db' db'' : Database}

namespace Unchanged

/-- A database is its own unchanged copy. -/
lemma refl (db : Database) : Unchanged db db :=
  ⟨rfl, rfl, rfl, rfl⟩

/-- What is unchanged twice is unchanged throughout. -/
lemma trans (h : Unchanged db db') (h' : Unchanged db' db'') : Unchanged db db'' :=
  ⟨h'.deployments.trans h.deployments, h'.artifacts.trans h.artifacts,
    h'.startIndex.trans h.startIndex, h'.versions.trans h.versions⟩

/-- A database that is opened gets a table of versions at most, and an empty one. -/
lemma opened (db : Database) : Unchanged db db.opened :=
  ⟨rfl, rfl, rfl, rfl⟩

/-- Databases with the same tables are the same once somebody asked for their versions. -/
lemma opened_eq (h : Unchanged db db') : db'.opened = db.opened := by
  unfold Database.opened
  rw [h.deployments, h.artifacts, h.startIndex, h.versions]

/-- A database in which some version is noted is the only one with the same tables. -/
lemma eq_of_versions (h : Unchanged db db') {first : Int} {rest : List Int}
    (hversions : db.versions = some (first :: rest)) : db' = db := by
  have hget := h.versions
  obtain ⟨versions, deployments, artifacts, startIndex⟩ := db
  obtain ⟨versions', deployments', artifacts', startIndex'⟩ := db'
  obtain rfl : versions = some (first :: rest) := hversions
  obtain rfl : deployments' = deployments := h.deployments
  obtain rfl : artifacts' = artifacts := h.artifacts
  obtain rfl : startIndex' = startIndex := h.startIndex
  rcases versions' with _ | numbers
  · exact nomatch hget
  · obtain rfl : numbers = first :: rest := hget
    rfl

end Unchanged

/-! ## Parts of computations -/

namespace Passive

/-- A computation that changes nothing changes nothing if it fails. -/
lemma atomic (hp : Passive p) : Atomic p := fun access db fault db' hrun => by
  have h := hp access db
  rwa [hrun] at h

/-- Computations that change nothing, one after the other, change nothing. -/
lemma bind (hp : Passive p) (hf : ∀ a, Passive (f a)) : Passive (p >>= f) := fun access db => by
  have h := hp access db
  rw [runOn_bind]
  rcases hrun : p.runOn access db with ⟨fault | a, db'⟩
  · rwa [hrun] at h
  · rw [hrun] at h
    exact h.trans (hf a access db')

/-- What changes nothing may come before a computation that changes nothing if it fails. -/
lemma bind_atomic (hp : Passive p) (hf : ∀ a, Atomic (f a)) : Atomic (p >>= f) :=
  fun access db fault db' hrun => by
    have h := hp access db
    rw [runOn_bind] at hrun
    rcases hfirst : p.runOn access db with ⟨fault | a, db₁⟩
    · rw [hfirst] at h hrun
      obtain ⟨-, rfl⟩ := Prod.mk.inj hrun
      exact h
    · rw [hfirst] at h hrun
      exact h.trans (hf a access db₁ fault db' hrun)

/-- A computation for each element changes nothing if none of them does. -/
lemma mapM {g : α → Action β} (hg : ∀ a, Passive (g a)) (l : List α) : Passive (l.mapM g) := by
  induction l with
  | nil => exact fun access db => .refl db
  | cons a l ih =>
    rw [List.mapM_cons]
    exact (hg a).bind fun b => ih.bind fun rest access db => .refl db

end Passive

/-- A value changes nothing. -/
lemma passive_pure (a : α) : Passive (pure a : Action α) := fun _ db => .refl db

/-- A fault changes nothing. -/
lemma passive_throw (fault : Fault) : Passive (throw fault : Action α) := fun _ db => .refl db

/-- A look at the database changes nothing. -/
lemma passive_get : Passive (get : Action Database) := fun _ db => .refl db

/-- Reading rows changes nothing. -/
lemma passive_ofReading (reading : Except Fault α) : Passive (ofReading reading) :=
  fun _ db => .refl db

/-- A failed transaction changes nothing, whatever was done in it. -/
lemma atomic_transaction (p : Action α) : Atomic (transaction p) :=
  fun access db fault db' hrun => by
    rw [runOn_transaction] at hrun
    rcases hfirst : p.runOn access db with ⟨fault' | a, db₁⟩
    · rw [hfirst] at hrun
      obtain ⟨-, rfl⟩ := Prod.mk.inj hrun
      exact .refl db
    · rw [hfirst] at hrun
      exact nomatch (Prod.mk.inj hrun).1

/-- A change of the database fails only where it may not be written. -/
lemma atomic_change (g : Database → Database) : Atomic (change g) :=
  fun access db fault db' hrun => by
    cases access with
    | reading =>
      obtain ⟨-, rfl⟩ := Prod.mk.inj hrun
      exact .refl db
    | writing => exact nomatch (Prod.mk.inj hrun).1

/-- What gives a value anyhow may come behind a computation that changes nothing if it fails. -/
lemma Atomic.bind_pure (hp : Atomic p) (g : α → β) : Atomic (p >>= fun a => pure (g a)) :=
  fun access db fault db' hrun => by
    rw [runOn_bind] at hrun
    rcases hfirst : p.runOn access db with ⟨fault' | a, db₁⟩
    · rw [hfirst] at hrun
      obtain ⟨-, rfl⟩ := Prod.mk.inj hrun
      exact hp access db fault' db₁ hfirst
    · rw [hfirst] at hrun
      exact nomatch (Prod.mk.inj hrun).1

/-! ## Reading tables -/

/-- A look at the table of the deployments changes nothing. -/
lemma passive_getDeployments : Passive getDeployments :=
  passive_get.bind fun db => by
    split
    · exact passive_pure _
    · exact passive_throw _

/-- A look at the table of the artifacts changes nothing. -/
lemma passive_getArtifacts : Passive getArtifacts :=
  passive_get.bind fun db => by
    split
    · exact passive_pure _
    · exact passive_throw _

/-- A look at the rows of the deployments changes nothing. -/
lemma passive_getReadable : Passive getReadable :=
  passive_getDeployments.bind fun table => by
    split
    · exact passive_pure _
    · exact passive_throw _

/-- An empty table of versions is made at most, which counts as no change. -/
lemma passive_ensureVersions : Passive ensureVersions := fun access db => by
  cases access with
  | writing =>
    rw [runOn_ensureVersions_writing]
    exact .opened db
  | reading =>
    rcases db with ⟨_ | numbers, _, _, _⟩
    · exact .refl _
    · exact .refl _

/-- Reading the version changes nothing. -/
lemma passive_readVersion : Passive readVersion := fun _ db => .refl db

/-- Asking for the version changes nothing. -/
lemma passive_currentVersion : Passive currentVersion :=
  passive_ensureVersions.bind fun _ => passive_readVersion

/-- Asking whether the database is ready changes nothing. -/
lemma passive_ensureReady : Passive ensureReady :=
  passive_ensureVersions.bind fun _ => passive_readVersion.bind fun _ => by
    split
    · exact passive_throw _
    · exact passive_pure _

/-- Reading records changes nothing. -/
lemma passive_readRecords (rows : List DeploymentRow) : Passive (readRecords rows) :=
  (passive_ofReading _).bind fun _ => .mapM (fun _ =>
    (passive_getArtifacts.bind fun _ => passive_ofReading _).bind fun _ => passive_pure _) _

/-! ## Looking up -/

/-- Looking for a deployment changes nothing. -/
lemma passive_deployment (id : ApplicationId) : Passive (deployment id) :=
  passive_ensureReady.bind fun _ => passive_getReadable.bind fun _ =>
    (passive_readRecords _).bind fun _ => passive_pure _

/-- Listing the last deployments changes nothing. -/
lemma passive_listRecent (limit : Nat) : Passive (listRecent limit) := by
  have hrest : Passive (do
      ensureReady
      let _ ← ofReading (toWord limit)
      let table ← getReadable
      readRecords ((table.rows.mergeSort DeploymentRow.newer).take limit)) :=
    passive_ensureReady.bind fun _ => (passive_ofReading _).bind fun _ =>
      passive_getReadable.bind fun _ => passive_readRecords _
  unfold listRecent
  split
  · exact passive_pure _
  · exact hrest

/-- Listing the deployments that have to be looked at changes nothing. -/
lemma passive_listRequiringInspection : Passive listRequiringInspection :=
  passive_ensureReady.bind fun _ => passive_getReadable.bind fun _ => passive_readRecords _

/-! ## Recording -/

/-- A change of the rows of an application changes nothing if it has none. -/
lemma updated_eq_self {rows : List DeploymentRow} {id : ApplicationId}
    {change : DeploymentRow → DeploymentRow}
    (hnone : (rows.any fun row => row.isOf id.display) = false) :
    Holds.updated id change rows = rows := by
  have hsame : ∀ row ∈ rows, (if row.isOf id.display then change row else row) = row :=
    fun row hrow => if_neg (List.any_eq_false.1 hnone row hrow)
  rw [Holds.updated, List.map_congr_left hsame, List.map_id']

/-- A change of one row is made as a whole or not at all. -/
lemma atomic_updateRow (id : ApplicationId) (change : DeploymentRow → DeploymentRow) :
    Atomic (updateRow id change) :=
  passive_getDeployments.bind_atomic fun _ => (atomic_change _).bind_pure _

/-- A change of the rows of an application that has to have one changes nothing if it fails. -/
lemma atomic_updateRow_or_throw (id : ApplicationId) (change : DeploymentRow → DeploymentRow)
    (missing : Fault) :
    Atomic (do
      let found ← updateRow id change
      if !found then throw missing) := fun access db fault db' hrun => by
  rw [runOn_bind] at hrun
  rcases hupdate : (updateRow id change).runOn access db with ⟨fault' | _ | _, db₁⟩
  · rw [hupdate] at hrun
    obtain ⟨-, rfl⟩ := Prod.mk.inj hrun
    exact atomic_updateRow id change access db fault' db₁ hupdate
  · rw [hupdate] at hrun
    obtain ⟨-, rfl⟩ := Prod.mk.inj hrun
    -- the rows were replaced before the failure, but by themselves
    obtain ⟨-, table, hdb, hnone, rfl⟩ := runOn_updateRow_eq_ok_iff.1 hupdate
    rw [updated_eq_self hnone.symm, ← hdb]
    exact .refl db
  · rw [hupdate] at hrun
    exact nomatch (Prod.mk.inj hrun).1

/-- **The operations that record something change nothing if they fail**, whatever the database
holds. -/
lemma atomic_action (now : Int) (call : Call) : Atomic (call.action now) := by
  cases call with
  | recordStarted jobName m =>
    exact passive_ensureReady.bind_atomic fun _ => atomic_transaction _
  | recordCompleted report =>
    exact passive_ensureReady.bind_atomic fun _ => (passive_ofReading _).bind_atomic fun _ =>
      atomic_updateRow_or_throw _ _ _
  | recordAborted id e termination teardownError =>
    exact passive_ensureReady.bind_atomic fun _ => (passive_ofReading _).bind_atomic fun _ =>
      atomic_updateRow_or_throw _ _ _
  | markCleaned id =>
    exact passive_ensureReady.bind_atomic fun _ => (passive_ofReading _).bind_atomic fun _ =>
      passive_getReadable.bind_atomic fun _ => atomic_updateRow _ _

/-! ## What operations did that succeeded -/

section Succeeded

variable {now : Int}

/-- **What the record of a start did that succeeded**: the clock stood right, the artifacts could be
stored, and they and the row of the deployment took the place of those that it had.

**Proof sketch.** The steps of the operation one after the other; each of them succeeded. -/
lemma exists_written_of_recordStarted {jobName : String} {m : Manifest}
    (hrun : (recordStarted now jobName m).runOn access db = (.ok (), db')) :
    0 < db.version ∧ ∃ seconds table artifacts new, toSeconds now = .ok seconds ∧
      db.deployments = some table ∧ db.artifacts = some artifacts ∧
      Written m.applicationId.display 0 m.artifacts new ∧ m.IsStorable ∧
      db' = { db.opened with
        deployments := some { table with
          rows := startRow m.applicationId.display (.ofStart jobName m seconds) table.rows }
        artifacts := some
          ((artifacts.filter fun row => !row.isOf m.applicationId.display) ++ new) } := by
  unfold recordStarted at hrun
  obtain ⟨⟨⟩, db₁, hready, hrun⟩ := runOn_bind_eq_ok_iff.1 hrun
  obtain ⟨rfl, hpos⟩ := eq_opened_of_ensureReady hready
  obtain ⟨seconds, db₂, hclock, hrun⟩ :=
    runOn_bind_eq_ok_iff.1 (runOn_transaction_eq_ok_iff.1 hrun)
  obtain ⟨hseconds, rfl⟩ := runOn_ofReading_eq_ok_iff.1 hclock
  obtain ⟨table, db₃, hget, hrun⟩ := runOn_bind_eq_ok_iff.1 hrun
  obtain ⟨htable, rfl⟩ := runOn_getDeployments_eq_ok_iff.1 hget
  obtain ⟨⟨⟩, db₄, hset, hrun⟩ := runOn_bind_eq_ok_iff.1 hrun
  obtain ⟨-, rfl⟩ := runOn_change_eq_ok_iff.1 hset
  obtain ⟨artifacts, db₅, hget, hrun⟩ := runOn_bind_eq_ok_iff.1 hrun
  obtain ⟨hartifacts, rfl⟩ := runOn_getArtifacts_eq_ok_iff.1 hget
  obtain ⟨⟨⟩, db₆, hset, hrun⟩ := runOn_bind_eq_ok_iff.1 hrun
  obtain ⟨-, rfl⟩ := runOn_change_eq_ok_iff.1 hset
  obtain ⟨new, hwritten, rfl, -, hdistinct⟩ := written_of_addArtifacts rfl hrun
  exact ⟨hpos, seconds, table, artifacts, new, hseconds, htable, hartifacts, hwritten,
    ⟨hwritten.fits, hdistinct⟩, rfl⟩

/-- What the change of a row did that has to be there, if it succeeded. -/
private lemma exists_updated_of_or_throw {id : ApplicationId}
    {change : Nat → DeploymentRow → DeploymentRow} {missing : Fault}
    (hrun : (do
      ensureReady
      let seconds ← ofReading (toSeconds now)
      let found ← updateRow id (change seconds)
      if !found then throw missing : Action Unit).runOn access db = (.ok (), db')) :
    0 < db.version ∧ ∃ seconds table, toSeconds now = .ok seconds ∧
      db.deployments = some table ∧ (table.rows.any fun row => row.isOf id.display) = true ∧
      db' = { db.opened with
        deployments := some { table with
          rows := Holds.updated id (change seconds) table.rows } } := by
  obtain ⟨⟨⟩, db₁, hready, hrun⟩ := runOn_bind_eq_ok_iff.1 hrun
  obtain ⟨rfl, hpos⟩ := eq_opened_of_ensureReady hready
  obtain ⟨seconds, db₂, hclock, hrun⟩ := runOn_bind_eq_ok_iff.1 hrun
  obtain ⟨hseconds, rfl⟩ := runOn_ofReading_eq_ok_iff.1 hclock
  obtain ⟨found, db₃, hupdate, hrun⟩ := runOn_bind_eq_ok_iff.1 hrun
  obtain ⟨-, table, htable, rfl, rfl⟩ := runOn_updateRow_eq_ok_iff.1 hupdate
  split at hrun
  · exact nomatch (Prod.mk.inj hrun).1
  · next hfound =>
    obtain ⟨-, rfl⟩ := runOn_pure_eq_ok_iff.1 hrun
    exact ⟨hpos, seconds, table, hseconds, htable, by simpa using hfound, rfl⟩

/-- What the record of a completion did that succeeded. -/
lemma exists_updated_of_recordCompleted {report : DeploymentReport}
    (hrun : (recordCompleted now report).runOn access db = (.ok (), db')) :
    0 < db.version ∧ ∃ seconds table, toSeconds now = .ok seconds ∧
      db.deployments = some table ∧
      (table.rows.any fun row => row.isOf report.applicationId.display) = true ∧
      db' = { db.opened with
        deployments := some { table with
          rows := Holds.updated report.applicationId (.complete report seconds) table.rows } } :=
  exists_updated_of_or_throw hrun

/-- What the record of a failure did that succeeded. -/
lemma exists_updated_of_recordAborted {id : ApplicationId} {e : DeployError}
    {termination : Option Termination} {teardownError : Option DeployError}
    (hrun : (recordAborted now id e termination teardownError).runOn access db = (.ok (), db')) :
    0 < db.version ∧ ∃ seconds table, toSeconds now = .ok seconds ∧
      db.deployments = some table ∧ (table.rows.any fun row => row.isOf id.display) = true ∧
      db' = { db.opened with
        deployments := some { table with
          rows := Holds.updated id (.abort e termination teardownError seconds) table.rows } } :=
  exists_updated_of_or_throw hrun

/-- What the record of a cleanup did that succeeded; it says whether the deployment is known. -/
lemma exists_updated_of_markCleaned {id : ApplicationId} {found : Bool}
    (hrun : (markCleaned now id).runOn access db = (.ok found, db')) :
    0 < db.version ∧ ∃ seconds table, toSeconds now = .ok seconds ∧
      db.deployments = some table ∧ table.hasCleanedAt = true ∧
      found = (table.rows.any fun row => row.isOf id.display) ∧
      db' = { db.opened with
        deployments := some { table with
          rows := Holds.updated id (fun row => { row with cleanedAt := .integer seconds })
            table.rows } } := by
  unfold markCleaned at hrun
  obtain ⟨⟨⟩, db₁, hready, hrun⟩ := runOn_bind_eq_ok_iff.1 hrun
  obtain ⟨rfl, hpos⟩ := eq_opened_of_ensureReady hready
  obtain ⟨seconds, db₂, hclock, hrun⟩ := runOn_bind_eq_ok_iff.1 hrun
  obtain ⟨hseconds, rfl⟩ := runOn_ofReading_eq_ok_iff.1 hclock
  obtain ⟨readable, db₃, hget, hrun⟩ := runOn_bind_eq_ok_iff.1 hrun
  obtain ⟨hreadable, hcolumn, rfl⟩ := runOn_getReadable_eq_ok_iff.1 hget
  obtain ⟨-, table, htable, rfl, rfl⟩ := runOn_updateRow_eq_ok_iff.1 hrun
  obtain rfl := Option.some.inj (hreadable.symm.trans htable)
  exact ⟨hpos, seconds, readable, hseconds, hreadable, hcolumn, rfl, rfl⟩

end Succeeded

end ClusterDeploy.Ledger
