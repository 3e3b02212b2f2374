import ClusterDeploy.Proofs.Ledger.Memory
import ClusterDeploy.Proofs.Ledger.Operations

set_option relaxedAutoImplicit false
set_option autoImplicit false

/-!
# The versions of the layout

Whatever was done with a ledger that was empty once, its layout is that of one version, and its
tables represent a map of records. Moving the layout to a version keeps of each record what the
versions on the way have room for.

## Main definitions

* `Ledger.versionsTo` — the versions that are noted when the layout stands at a version.
* `Ledger.Remembers` — a database with the layout of a version that represents a map.
* `Ledger.keep`, `Ledger.kept` — what is left of a record, and of a map, when the layout is moved
  down to a version.

## Main results

* `Ledger.Remembers.applyMigration` — moving the layout to a version.
* `Ledger.Remembers.action` — an operation that succeeds changes the map.
* `Ledger.Remembers.deployment` — looking up a record.
-/

namespace ClusterDeploy

/-- A record without the time of the cleanup. -/
def DeploymentRecord.uncleaned (r : DeploymentRecord) : DeploymentRecord :=
  { r with cleanedAt := none }

namespace Ledger

/-! ## Layouts -/

/-- The versions that are noted when the layout stands at a version: all from the first to it. -/
def versionsTo (version : Int) : List Int :=
  (List.range version.toNat).map fun n : Nat => (n : Int) + 1

/-- A database with the layout of a version that represents a map. Without tables there are no
records, and without a column for the time of the cleanup no record has one. -/
inductive Remembers : Database → Int → Memory → Prop where
  | bare {db : Database} : db.opened = ⟨some [], none, none, false⟩ →
    Remembers db 0 fun _ => none
  | initial {rows : List DeploymentRow} {artifacts : List ArtifactRow} {memory : Memory} :
    Represents rows artifacts memory →
    (∀ id r, memory id = some r → r.cleanedAt = none) →
    Remembers ⟨some [1], some ⟨false, rows⟩, some artifacts, true⟩ 1 memory
  | cleaning {rows : List DeploymentRow} {artifacts : List ArtifactRow} {memory : Memory} :
    Represents rows artifacts memory →
    Remembers ⟨some [1, 2], some ⟨true, rows⟩, some artifacts, true⟩ 2 memory

/-- What is left of a record when the layout is moved down to a version. -/
def keep (version : Int) (record : Option DeploymentRecord) : Option DeploymentRecord :=
  if version < 1 then none
  else if version < 2 then record.map (·.uncleaned)
  else record

/-- What is left of a map when the layout is moved down to a version. -/
def kept (version : Int) (memory : Memory) : Memory := fun id =>
  keep version (memory id)

variable {db db' : Database} {version : Int} {memory : Memory} {access : Access}

/-- What is left at one version and then at a lower one is what is left at the lower one. -/
lemma kept_kept {lower : Int} (hle : lower ≤ version) :
    kept lower (kept version memory) = kept lower memory := by
  funext id
  unfold kept keep
  by_cases hlower : lower < 1
  · rw [if_pos hlower, if_pos hlower]
  · rw [if_neg hlower, if_neg hlower, if_neg (show ¬ version < 1 by omega)]
    by_cases hversion : version < 2
    · rw [if_pos hversion, if_pos (show lower < 2 by omega), if_pos (show lower < 2 by omega)]
      cases memory id <;> rfl
    · rw [if_neg hversion]

/-- Without the times of the cleanups the rows represent the map without these times. -/
lemma Represents.forget {rows : List DeploymentRow} {artifacts : List ArtifactRow}
    (h : Represents rows artifacts memory) :
    Represents (rows.map fun row => { row with cleanedAt := .null }) artifacts
      fun id => (memory id).map (·.uncleaned) := by
  refine ⟨List.forall_mem_map.2 h.named, fun id => ?_, fun id => ?_⟩
  · rw [List.filter_map]
    refine (congrArg _ (h.rows id)).trans ?_
    cases memory id <;> rfl
  · have hwritten := h.artifacts id
    cases hrecord : memory id with
    | none => rwa [hrecord] at hwritten
    | some r => rwa [hrecord] at hwritten

namespace Remembers

/-- An empty database remembers nothing. -/
lemma empty : Remembers .empty 0 fun _ => none :=
  .bare rfl

/-- The version is the one that is read from the table of versions. -/
lemma version_eq (h : Remembers db version memory) : db.version = version := by
  cases h with
  | @bare db hdb =>
    change db.opened.version = 0
    rw [hdb]
    rfl
  | initial _ _ => rfl
  | cleaning _ => rfl

/-- The versions of a database are those up to its own. -/
lemma versions_eq (h : Remembers db version memory) : db.versions.getD [] = versionsTo version := by
  cases h with
  | @bare db hdb =>
    change db.opened.versions.getD [] = _
    rw [hdb]
    rfl
  | initial _ _ => rfl
  | cleaning _ => rfl

/-- A database with the same tables represents the same map. -/
lemma unchanged (h : Remembers db version memory) (hsame : Unchanged db db') :
    Remembers db' version memory := by
  cases h with
  | bare hdb => exact .bare (hsame.opened_eq.trans hdb)
  | initial hrep hnone =>
    obtain rfl := hsame.eq_of_versions rfl
    exact .initial hrep hnone
  | cleaning hrep =>
    obtain rfl := hsame.eq_of_versions rfl
    exact .cleaning hrep

/-- A record has no time of the cleanup where there is no column for it. -/
lemma cleanedAt_eq_none {id : ApplicationId} {r : DeploymentRecord}
    (h : Remembers db version memory) (hversion : version < 2) (hr : memory id = some r) :
    r.cleanedAt = none := by
  cases h with
  | bare _ => exact nomatch hr
  | initial _ hnone => exact hnone id r hr
  | cleaning _ => exact absurd hversion (by decide)

/-- Nothing is lost where the layout stands already. -/
lemma kept_eq (h : Remembers db version memory) : kept version memory = memory := by
  funext id
  cases h with
  | bare _ => rfl
  | cleaning _ => rfl
  | initial _ hnone =>
    change (memory id).map (·.uncleaned) = memory id
    cases hrecord : memory id with
    | none => rfl
    | some r =>
      rw [Option.map_some, DeploymentRecord.uncleaned, ← hnone id r hrecord]

/-! ## Moving the layout -/

/-- Putting the next version in place keeps all records. -/
lemma stepUp (h : Remembers db version memory) (hnext : version < latestVersion) :
    ∃ db', (Ledger.stepUp (version + 1)).runOn .writing db.opened = (.ok (), db') ∧
      db'.opened = db' ∧ Remembers db' (version + 1) memory := by
  cases h with
  | @bare db hdb =>
    rw [hdb]
    exact ⟨_, rfl, rfl, .initial .empty nofun⟩
  | initial hrep _ => exact ⟨_, rfl, rfl, .cleaning hrep⟩
  | cleaning _ => exact absurd hnext (by decide)

/-- Taking the last version back keeps what the version before it has room for. -/
lemma stepDown (h : Remembers db version memory) (hlast : 0 < version) :
    ∃ db', (Ledger.stepDown version).runOn .writing db.opened = (.ok (), db') ∧
      db'.opened = db' ∧ Remembers db' (version - 1) (kept (version - 1) memory) := by
  cases h with
  | bare _ => exact absurd hlast (by decide)
  | initial _ _ => exact ⟨_, rfl, rfl, .bare rfl⟩
  | cleaning hrep =>
    refine ⟨_, rfl, rfl, .initial hrep.forget fun id r hr => ?_⟩
    obtain ⟨_, -, rfl⟩ := Option.map_eq_some_iff.1 hr
    rfl

/-- Putting versions in place, one after the other, keeps all records. -/
lemma climb (h : Remembers db version memory) (count : Nat)
    (hcount : version + count ≤ latestVersion) :
    ∃ db', (Ledger.climb count version).runOn .writing db.opened = (.ok (), db') ∧
      db'.opened = db' ∧ Remembers db' (version + count) memory := by
  induction count generalizing db version with
  | zero => exact ⟨db.opened, rfl, rfl, by simpa using h.unchanged (.opened db)⟩
  | succ count ih =>
    obtain ⟨db₁, hstep, hopened, h₁⟩ := h.stepUp (by omega)
    obtain ⟨db₂, hrest, hopened₂, h₂⟩ := ih h₁ (by omega)
    refine ⟨db₂, ?_, hopened₂, ?_⟩
    · rw [Ledger.climb, runOn_bind_of_ok hstep, ← hopened]
      exact hrest
    · rwa [show version + (count + 1 : Nat) = version + 1 + count by omega]

/-- Taking versions back, one after the other, keeps what the last one has room for. -/
lemma descend (h : Remembers db version memory) (count : Nat) (hcount : count ≤ version) :
    ∃ db', (Ledger.descend count version).runOn .writing db.opened = (.ok (), db') ∧
      db'.opened = db' ∧ Remembers db' (version - count) (kept (version - count) memory) := by
  induction count generalizing db version memory with
  | zero =>
    refine ⟨db.opened, rfl, rfl, ?_⟩
    rw [show version - (0 : Nat) = version by omega, h.kept_eq]
    exact h.unchanged (.opened db)
  | succ count ih =>
    obtain ⟨db₁, hstep, hopened, h₁⟩ := h.stepDown (by omega)
    obtain ⟨db₂, hrest, hopened₂, h₂⟩ := ih h₁ (by omega)
    refine ⟨db₂, ?_, hopened₂, ?_⟩
    · rw [Ledger.descend, runOn_bind_of_ok hstep, ← hopened]
      exact hrest
    · rw [show version - (count + 1 : Nat) = version - 1 - count by omega]
      rwa [kept_kept (by omega)] at h₂

/-- Making the step to a version again that is in place does nothing. -/
lemma up_again (h : Remembers db version memory) {number : Int} (hfirst : 1 ≤ number)
    (hplaced : number ≤ version) :
    ∃ v, (definedVersion number).runOn .writing db = (.ok v, db) ∧
      v.up.runOn .writing db = (.ok (), db) := by
  cases h with
  | bare _ => omega
  | initial _ _ =>
    obtain rfl : number = 1 := by omega
    exact ⟨_, rfl, rfl⟩
  | cleaning _ =>
    obtain rfl | rfl : number = 1 ∨ number = 2 := by omega
    · exact ⟨_, rfl, rfl⟩
    · exact ⟨_, rfl, rfl⟩

/-- Making steps again that are in place, one after the other, does nothing. -/
lemma repair (h : Remembers db version memory) (count : Nat) {current : Int}
    (hcurrent : 0 ≤ current) (hcount : current + count ≤ version) :
    (Ledger.repair count current).runOn .writing db = (.ok (), db) := by
  induction count generalizing current with
  | zero => rfl
  | succ count ih =>
    obtain ⟨v, hdefined, hup⟩ := h.up_again (show 1 ≤ current + 1 by omega) (by omega)
    rw [Ledger.repair, runOn_bind_of_ok hdefined, runOn_bind_of_ok hup]
    exact ih (by omega) (by omega)

/-- **Moving the layout to a version** succeeds if there is such a version, and keeps what there is
room for. It leaves a table of versions. Where the layout stands already nothing changes.

**Proof sketch.** The steps that are made, up or down, are those from the version where the layout
stands to the target. If it stands there already all steps are made again, to no effect. -/
lemma applyMigration (h : Remembers db version memory) {target : Int} (hlow : 0 ≤ target)
    (hhigh : target ≤ latestVersion) :
    ∃ db', (Ledger.applyMigration target).runOn .writing db = (.ok (), db') ∧
      db'.opened = db' ∧ Remembers db' target (kept target memory) ∧
      (target = version → Unchanged db db') := by
  have htarget : isTarget target = true := by simp [isTarget, hlow, hhigh]
  have hopened : Remembers db.opened version memory := h.unchanged (.opened db)
  have hrun : ∀ {result : Except Fault Unit × Database},
      (if target = version then Ledger.repair target.toNat 0
        else if version < target then Ledger.climb (target - version).toNat version
        else Ledger.descend (version - target).toNat version).runOn .writing db.opened = result →
      (Ledger.applyMigration target).runOn .writing db = result := by
    rintro result rfl
    unfold Ledger.applyMigration
    rw [htarget, if_neg (by simp), runOn_bind_of_ok runOn_ensureVersions_writing,
      runOn_bind_of_ok runOn_readVersion, hopened.version_eq]
  obtain hlt | rfl | hgt := Int.lt_trichotomy version target
  · obtain ⟨db', hclimb, hlast, h'⟩ := h.climb (target - version).toNat (by omega)
    rw [show version + (target - version).toNat = target by omega] at h'
    refine ⟨db', hrun ?_, hlast, h'.kept_eq.symm ▸ h', by omega⟩
    rw [if_neg (by omega), if_pos hlt]
    exact hclimb
  -- at the target already: all steps are made again, and each finds that it was made
  · refine ⟨db.opened, hrun ?_, rfl, h.kept_eq.symm ▸ hopened, fun _ => .opened db⟩
    rw [if_pos rfl]
    exact hopened.repair _ (Int.le_refl 0) (by omega)
  · obtain ⟨db', hdescend, hlast, h'⟩ := h.descend (version - target).toNat (by omega)
    rw [show version - (version - target).toNat = target by omega] at h'
    refine ⟨db', hrun ?_, hlast, h', by omega⟩
    rw [if_neg (by omega), if_neg (by omega)]
    exact hdescend

/-! ## Operations -/

/-- Where there are tables, they may hold other rows, which represent another map. -/
lemma tables (h : Remembers db version memory) (hpos : 0 < db.version) :
    ∃ rows artifacts, db.deployments = some ⟨decide (2 ≤ version), rows⟩ ∧
      db.artifacts = some artifacts ∧ Represents rows artifacts memory ∧
      ∀ {rows' artifacts' memory'}, Represents rows' artifacts' memory' →
        (version < 2 → ∀ id r, memory' id = some r → r.cleanedAt = none) →
        Remembers { db.opened with
          deployments := some ⟨decide (2 ≤ version), rows'⟩
          artifacts := some artifacts' } version memory' := by
  have hversion := h.version_eq
  cases h with
  | bare _ => omega
  | initial hrep _ => exact ⟨_, _, rfl, rfl, hrep, fun h' hnone => .initial h' (hnone (by decide))⟩
  | cleaning hrep => exact ⟨_, _, rfl, rfl, hrep, fun h' _ => .cleaning h'⟩

/-- A change of the row of an application is a change of its record. -/
private lemma of_updated (h : Remembers db version memory) (hpos : 0 < db.version)
    {table : DeploymentTable} (htable : db.deployments = some table) (id : ApplicationId)
    (change : DeploymentRow → DeploymentRow) (change' : DeploymentRecord → DeploymentRecord)
    (hchange : ∀ r, change (.ofRecord r) = .ofRecord (change' r))
    (hkeeps : ∀ row, (change row).applicationId = row.applicationId)
    (hartifacts : ∀ r, (change' r).artifacts = r.artifacts)
    (hcleaned : version < 2 → ∀ r, (change' r).cleanedAt = r.cleanedAt) :
    (table.rows.any fun row => row.isOf id.display) = (memory id).isSome ∧
      Remembers { db.opened with
        deployments := some { table with rows := Holds.updated id change table.rows } } version
        fun other => if other = id then (memory other).map change' else memory other := by
  obtain ⟨rows, artifacts, hdb, hdb', hrep, hother⟩ := h.tables hpos
  obtain rfl := Option.some.inj (htable.symm.trans hdb)
  refine ⟨hrep.any_isOf id, ?_⟩
  have hkeepsOf : ∀ row : DeploymentRow, row.isOf id.display = true →
      (change row).isOf id.display = true := fun row hof => by
    rwa [DeploymentRow.isOf, hkeeps]
  have hnew := hother (hrep.update hchange hkeepsOf hartifacts) fun hversion other r hr => ?_
  · rwa [← hdb'] at hnew
  · split at hr
    · obtain ⟨old, hold, rfl⟩ := Option.map_eq_some_iff.1 hr
      rw [hcleaned hversion]
      exact h.cleanedAt_eq_none hversion hold
    · exact h.cleanedAt_eq_none hversion hr

/-- What an operation answers that succeeds: only of an application with a record it can be said how
its deployment ended. -/
def Answers : (call : Call) → call.Value → Option DeploymentRecord → Prop
  | .recordStarted _ _, _, _ => True
  | .recordCompleted _, _, old => old.isSome = true
  | .recordAborted _ _ _ _, _, old => old.isSome = true
  | .markCleaned _, found, old => found = old.isSome

/-- **An operation that succeeds changes the map.** -/
lemma action (h : Remembers db version memory) {now : Int} {call : Call} {value : call.Value}
    (hrun : (call.action now).runOn .writing db = (.ok value, db')) :
    ∃ seconds, toSeconds now = .ok seconds ∧ Answers call value (memory call.application) ∧
      Remembers db' version (call.remember seconds memory) := by
  cases call with
  | recordStarted jobName m =>
    obtain ⟨hpos, seconds, table, artifacts, new, hseconds, htable, hartifacts, hwritten, -, rfl⟩ :=
      exists_written_of_recordStarted hrun
    obtain ⟨rows, artifacts', hdb, hdb', hrep, hother⟩ := h.tables hpos
    obtain rfl := Option.some.inj (htable.symm.trans hdb)
    obtain rfl := Option.some.inj (hartifacts.symm.trans hdb')
    refine ⟨seconds, hseconds, trivial, hother (hrep.restart hwritten) ?_⟩
    -- where there is no column for it, nothing was marked as removed before
    intro hversion id r hr
    unfold Call.remember at hr
    split at hr
    · obtain rfl : freshRecord jobName m seconds (memory id) = r := Option.some.inj hr
      cases hold : memory id with
      | none => rfl
      | some old => exact (h.cleanedAt_eq_none hversion hold : old.cleanedAt = none)
    · exact h.cleanedAt_eq_none hversion hr
  | recordCompleted report =>
    obtain ⟨hpos, seconds, table, hseconds, htable, hany, rfl⟩ :=
      exists_updated_of_recordCompleted hrun
    obtain ⟨hsome, h'⟩ := h.of_updated hpos htable report.applicationId (.complete report seconds)
      (.completed report seconds) (fun _ => complete_ofRecord report seconds) (fun _ => rfl)
      (fun _ => rfl) fun _ _ => rfl
    exact ⟨seconds, hseconds, hsome.symm.trans hany, h'⟩
  | recordAborted id e termination teardownError =>
    obtain ⟨hpos, seconds, table, hseconds, htable, hany, rfl⟩ :=
      exists_updated_of_recordAborted hrun
    obtain ⟨hsome, h'⟩ := h.of_updated hpos htable id (.abort e termination teardownError seconds)
      (.aborted e termination teardownError seconds)
      (fun _ => abort_ofRecord e termination teardownError seconds) (fun _ => rfl) (fun _ => rfl)
      fun _ _ => rfl
    exact ⟨seconds, hseconds, hsome.symm.trans hany, h'⟩
  | markCleaned id =>
    obtain ⟨hpos, seconds, table, hseconds, htable, hcolumn, hfound, rfl⟩ :=
      exists_updated_of_markCleaned hrun
    -- the mark was written, so there is a column for it
    have hlatest : ¬ version < 2 := by
      obtain ⟨rows, _, hdb, -⟩ := h.tables hpos
      obtain rfl := Option.some.inj (htable.symm.trans hdb)
      exact Int.not_lt.2 (of_decide_eq_true hcolumn)
    obtain ⟨hsome, h'⟩ := h.of_updated hpos htable id
      (fun row => { row with cleanedAt := .integer seconds }) (.cleaned seconds) (fun _ => rfl)
      (fun _ => rfl) (fun _ => rfl) fun hversion => absurd hversion hlatest
    exact ⟨seconds, hseconds, hfound.trans hsome, h'⟩

/-! ## Looking up -/

/-- **The tables hold the records of the map**, whatever the layout. -/
lemma recordOf (h : Remembers db version memory) (id : ApplicationId) :
    db.recordOf id = memory id := by
  have hlast : ∀ {rows : List DeploymentRow} {artifacts : List ArtifactRow},
      db.artifacts = some artifacts → Represents rows artifacts memory →
      (((readRecords (rows.filter fun row => row.isOf id.display)).runOn .reading
        db).1.toOption.bind (·.getLast?)) = memory id := by
    intro rows artifacts hdb hrep
    rw [hrep.readRecords hdb id]
    cases memory id <;> rfl
  cases h with
  | bare hdb =>
    have hnone : db.deployments = none := congrArg Database.deployments hdb
    unfold Database.recordOf
    rw [hnone]
    rfl
  | initial hrep _ => exact hlast rfl hrep
  | cleaning hrep => exact hlast rfl hrep

/-- **With the latest layout the record of an application is found**, and nothing is changed. -/
lemma deployment (h : Remembers db latestVersion memory) (id : ApplicationId) :
    (Ledger.deployment id).runOn access db = (.ok (memory id), db) := by
  generalize hversion : latestVersion = version at h
  cases h with
  | bare _ => exact nomatch hversion
  | initial _ _ => exact nomatch hversion
  | @cleaning rows artifacts _ hrep =>
    have hready : ensureReady.runOn access ⟨some [1, 2], some ⟨true, rows⟩, some artifacts, true⟩ =
        (.ok (), _) :=
      runOn_ensureReady rfl (show (0 : Int) < greatestVersion [1, 2] by decide)
    rw [Ledger.deployment, runOn_bind_of_ok hready,
      runOn_bind_of_ok (runOn_getReadable rfl), runOn_bind_of_ok (hrep.readRecords rfl id)]
    cases memory id <;> rfl

end Remembers

end Ledger

end ClusterDeploy
