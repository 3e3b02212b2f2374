import ClusterDeploy.Proofs.Ledger.Strays

set_option relaxedAutoImplicit false
set_option autoImplicit false

/-!
# Lost tables are put back

Who migrates a ledger to the version where it stands repairs it: tables and the index that were lost
are made again, and what is there is left alone. The repaired ledger then behaves as one that never
had the rows that were lost, also where rows of artifacts outlived their deployments.

## Main definitions

* `Ledger.Database.standing` — a ledger with the layout of a version, and the rows in its tables.
* `Ledger.Loss`, `Ledger.Loss.drop` — what can be lost, and a database without it.
* `Ledger.Loss.left` — the records that are left.

## Main results

* `Ledger.runOn_applyMigration_drop` — what is lost is made again, and nothing else changes.
* `Ledger.Loss.exists_sound` — which ledger a repaired one behaves as.
* `Ledger.applyMigration_repairs` — migrating to the version where a ledger stands repairs it.
-/

namespace ClusterDeploy.Ledger

/-! ## Losses -/

/-- A ledger with the layout of a version, and the rows in its tables. -/
def Database.standing (version : Int) (rows : List DeploymentRow) (artifacts : List ArtifactRow) :
    Database :=
  ⟨some (versionsTo version), some ⟨decide (2 ≤ version), rows⟩, some artifacts, true⟩

/-- What a ledger can lose. -/
structure Loss where
  deployments : Bool
  artifacts : Bool
  startIndex : Bool
  deriving DecidableEq, Repr, Inhabited

namespace Loss

/-- A database without what is lost. The index is lost with the table of deployments. -/
def drop (l : Loss) (db : Database) : Database :=
  { db with
    deployments := if l.deployments then none else db.deployments
    artifacts := if l.artifacts then none else db.artifacts
    startIndex := db.startIndex && !l.startIndex && !l.deployments }

/-- The rows of deployments that are left. -/
def rowsLeft (l : Loss) (rows : List DeploymentRow) : List DeploymentRow :=
  if l.deployments then [] else rows

/-- The rows of artifacts that are left. -/
def artifactsLeft (l : Loss) (artifacts : List ArtifactRow) : List ArtifactRow :=
  if l.artifacts then [] else artifacts

/-- The records that are left: those of all deployments or of none, with their artifacts or without
any. -/
def left (l : Loss) (memory : Memory) : Memory := fun id =>
  if l.deployments then none
  else (memory id).map fun r => if l.artifacts then { r with artifacts := [] } else r

end Loss

variable {version : Int} {rows : List DeploymentRow} {artifacts : List ArtifactRow}
  {memory : Memory}

/-! ## The repair -/

/-- There are two versions with tables. -/
lemma version_cases (hversion : 1 ≤ version ∧ version ≤ latestVersion) :
    version = 1 ∨ version = 2 := by
  have hlatest : latestVersion = 2 := rfl
  omega

/-- **What is lost is made again**, and nothing else changes.

**Proof sketch.** The steps up to the version are made again. The first one makes what is missing.
The second one adds its column to the table, which has it only if it was not lost. -/
lemma runOn_applyMigration_drop (hversion : 1 ≤ version ∧ version ≤ latestVersion) (l : Loss) :
    (applyMigration version).runOn .writing (l.drop (.standing version rows artifacts)) =
      (.ok (), .standing version (l.rowsLeft rows) (l.artifactsLeft artifacts)) := by
  obtain ⟨deployments, lost, startIndex⟩ := l
  rcases version_cases hversion with rfl | rfl
  · cases deployments <;> cases lost <;> cases startIndex <;> rfl
  · cases deployments <;> cases lost <;> cases startIndex <;> rfl

/-- The layout of a version has the tables of this version with all their columns. -/
lemma columns_standing (hversion : 1 ≤ version ∧ version ≤ latestVersion) :
    (Database.standing version rows artifacts).columns = columnsOf version := by
  rcases version_cases hversion with rfl | rfl
  · rfl
  · rfl

/-- The layout of a version stands at this version. -/
lemma version_standing (hversion : 1 ≤ version ∧ version ≤ latestVersion) :
    (Database.standing version rows artifacts).version = version := by
  rcases version_cases hversion with rfl | rfl
  · rfl
  · rfl

/-! ## The repaired ledger -/

/-- Without their rows, no record has artifacts. -/
lemma Represents.withoutArtifacts (h : Represents rows artifacts memory) :
    Represents rows [] fun id => (memory id).map fun r => { r with artifacts := [] } := by
  refine ⟨h.named, fun id => ?_, fun id => ?_⟩
  · rw [h.rows id]
    cases memory id with
    | none => rfl
    | some r => rfl
  · cases memory id with
    | none => exact .nil 0
    | some r => exact .nil 0

/-- The rows of a ledger that remembers a map represent it, and so do other rows another map. -/
lemma Remembers.of_standing (h : Remembers (.standing version rows artifacts) version memory)
    (hpos : 0 < version) : Represents rows artifacts memory ∧
      ∀ {rows' artifacts' memory'}, Represents rows' artifacts' memory' →
        (version < 2 → ∀ id r, memory' id = some r → r.cleanedAt = none) →
        Remembers (.standing version rows' artifacts') version memory' := by
  obtain ⟨rows', artifacts', hrows, hartifacts, hrep, hother⟩ := h.tables (h.version_eq.symm ▸ hpos)
  obtain ⟨-, rfl⟩ := DeploymentTable.mk.inj (Option.some.inj hrows)
  obtain rfl := Option.some.inj hartifacts
  exact ⟨hrep, hother⟩

/-- **Which ledger a repaired one behaves as**: one that remembers the records that are left.

**Proof sketch.** If the table of deployments was lost there are no records, and whatever rows of
artifacts are left are stray. If it was not, the rows that are left represent the records that
are. -/
lemma Loss.exists_sound (l : Loss) (hpos : 0 < version)
    (h : Remembers (.standing version rows artifacts) version memory) :
    ∃ sound, Remembers sound version (l.left memory) ∧
      Littered (l.left memory)
        (.standing version (l.rowsLeft rows) (l.artifactsLeft artifacts)) sound := by
  obtain ⟨hrep, hother⟩ := h.of_standing hpos
  obtain ⟨deployments, lost, startIndex⟩ := l
  cases deployments with
  | true =>
    -- without the table of the deployments no record is left
    have hnone : ∀ (id : ApplicationId) (r : DeploymentRecord),
        Loss.left ⟨true, lost, startIndex⟩ memory id ≠ some r :=
      fun _ r => (Option.some_ne_none r).symm
    refine ⟨.standing version [] [], hother .empty fun _ id r hr => (hnone id r hr).elim, ?_⟩
    exact @Littered.strewn _ (.standing version [] []) _ _ rfl
      fun id r hr => (hnone id r hr).elim
  | false =>
    refine ⟨_, ?_, .tidy _⟩
    cases lost with
    | true =>
      refine hother hrep.withoutArtifacts fun hold id r hr => ?_
      have hr : ((memory id).map fun r => { r with artifacts := [] }) = some r := hr
      obtain ⟨r', hr', rfl⟩ := Option.map_eq_some_iff.1 hr
      have hnone : r'.cleanedAt = none := h.cleanedAt_eq_none hold hr'
      exact hnone
    | false =>
      have hsame : Loss.left ⟨false, false, startIndex⟩ memory = memory := by
        funext id
        exact Option.map_id'
      rw [hsame]
      exact h

/-- **Migrating to the version where a ledger stands repairs it.** Whatever rows are in the tables
of a ledger with the layout of a version, and whichever of its tables and its index are lost,

1. migrating to this version succeeds; it makes again what was lost, without rows, and leaves all
   other rows and the noted versions as they are;
2. then there are all tables with all columns of the version, and the index;
3. the start of a deployment is recorded exactly if the clock stands right and the artifacts can be
   stored;
4. if the tables stood for records before, the ledger answers all requests that may follow as a
   ledger does that remembers the records that are left, and never had any others.

**Proof sketch.** All steps are made again, each of which makes only what is missing. For the last
part, rows of artifacts that outlived their deployments are seen by no request. -/
theorem applyMigration_repairs (version : Int) (hversion : 1 ≤ version ∧ version ≤ latestVersion)
    (rows : List DeploymentRow) (artifacts : List ArtifactRow) (l : Loss) :
    let intact := Database.standing version rows artifacts
    let repaired := Database.standing version (l.rowsLeft rows) (l.artifactsLeft artifacts)
    (applyMigration version).runOn .writing (l.drop intact) = (.ok (), repaired) ∧
      (repaired.columns = columnsOf version ∧ repaired.startIndex = true ∧
        repaired.versions = (l.drop intact).versions) ∧
      (∀ now jobName (m : Manifest),
        ((recordStarted now jobName m).runOn .writing repaired).1 = .ok () ↔
          IsClock now ∧ m.IsStorable) ∧
      ∀ memory, Remembers intact version memory → ∃ sound,
        Remembers sound version (l.left memory) ∧
        ∀ requests, (serveAll repaired requests).1 = (serveAll sound requests).1 := by
  intro intact repaired
  refine ⟨runOn_applyMigration_drop hversion l, ⟨columns_standing hversion, rfl, rfl⟩,
    fun now jobName m => ?_, fun memory h => ?_⟩
  · have hready : 0 < repaired.version := by
      rw [version_standing hversion]
      omega
    exact runOn_recordStarted_eq_ok_iff hready rfl rfl
  · obtain ⟨sound, hsound, hlittered⟩ := l.exists_sound (by omega) h
    exact ⟨sound, hsound, hlittered.serveAll hsound⟩

/-- A deployment with an artifact was started when the table of deployments is lost: its record is
gone, and its artifact is not seen again. -/
theorem applyMigration_repairs_of_orphan :
    let a : StagedArtifact := ⟨⟨"job.jar", "job.jar", .userJar⟩, "/s/job.jar", "ab", 3, 1⟩
    let m : Manifest := ⟨default, "/s", [a], .configured 2⟩
    let l : Loss := ⟨true, false, false⟩
    let before := (serveAll .empty [.migrate 2, .tell 1000 (.recordStarted "job" m)]).2
    (1 ≤ (2 : Int) ∧ (2 : Int) ≤ latestVersion) ∧ ∃ rows artifacts,
      before = .standing 2 rows artifacts ∧ artifacts ≠ [] ∧
      (applyMigration 2).runOn .writing (l.drop before) = (.ok (), .standing 2 [] artifacts) ∧
      (serveAll (.standing 2 [] artifacts) [.deployment default]).1 =
        [⟨.deployment default, .ok none⟩] := by
  intro a m l before
  have hversion : 1 ≤ (2 : Int) ∧ (2 : Int) ≤ latestVersion := by decide
  let row : ArtifactRow := ⟨.text m.applicationId.display, .integer 0, .text "job.jar",
    .text ArtifactRole.userJar.name, .text "job.jar", .text "/s/job.jar", .text "ab", .integer 3,
    .integer 1⟩
  have hbefore : before = .standing 2 [.ofStart "job" m 1] [row] := by decide +kernel
  obtain ⟨hrun, -, -, hsound⟩ := applyMigration_repairs 2 hversion [.ofStart "job" m 1] [row] l
  have h : Remembers before 2 _ := Remembers.empty.serveAll _
  rw [hbefore] at h
  obtain ⟨sound, hremembers, hanswers⟩ := hsound _ h
  rw [← hbefore] at hrun
  refine ⟨hversion, _, _, hbefore, List.cons_ne_nil _ _, hrun, (hanswers _).trans ?_⟩
  have hnone : (Request.deployment default).action.runOn .writing sound = (.ok none, sound) :=
    hremembers.deployment default
  rw [serveAll_cons hnone]
  rfl

end ClusterDeploy.Ledger
