import ClusterDeploy.Proofs.Ledger.Manifests
import ClusterDeploy.Proofs.Ledger.Refinement

set_option relaxedAutoImplicit false
set_option autoImplicit false

/-!
# Deployments that start again

An application may be started again when the ledger has a record of it. The new record is to tell
of the new start only, as if the ledger had been empty. It does, but for one thing: once a
deployment of the application was cleaned up, the time of this cleanup is in every later record.

## Main definitions

* `DeploymentRecord.OnlyStarted` — records that tell of nothing but a start.
* `Ledger.startedOn` — what is recorded of a start, and the ledger that it leaves.

## Main results

* `Ledger.recordStarted_startsAfresh_iff` — when a deployment that starts again starts afresh.
* `Ledger.recordStarted_keepsCleanup` — a cleanup that outlives a start.
-/

namespace ClusterDeploy

/-- A record that tells of nothing but the start of a deployment: what was staged, the name of the
job, and the second. -/
structure DeploymentRecord.OnlyStarted (r : DeploymentRecord) (jobName : String) (m : Manifest)
    (seconds : Nat) : Prop where
  manifest : r.manifest = m
  jobName : r.jobName = jobName
  startedAt : r.startedAt = seconds
  outcome : r.outcome = none
  termination : r.termination = none
  teardownError : r.teardownError = none
  error : r.error = none
  finishedAt : r.finishedAt = none
  cleanedAt : r.cleanedAt = none

namespace Ledger

/-- What comes of it when the start of a deployment is recorded. -/
def startedOn (db : Database) (now : Int) (jobName : String) (m : Manifest) :
    Except Fault Unit × Database :=
  (recordStarted now jobName m).runOn .writing db

variable {seconds : Nat} {jobName : String} {m : Manifest} {old : Option DeploymentRecord}

/-- The record on a ledger that has none of the application tells of nothing but the start. -/
lemma onlyStarted_freshRecord :
    (freshRecord jobName m seconds none).OnlyStarted jobName m seconds :=
  ⟨rfl, rfl, rfl, rfl, rfl, rfl, rfl, rfl, rfl⟩

/-- The record of a deployment that starts again is the one on an empty ledger unless there was a
cleanup. -/
lemma freshRecord_eq_iff :
    freshRecord jobName m seconds old = freshRecord jobName m seconds none ↔
      ∀ r, old = some r → r.cleanedAt = none := by
  constructor
  · rintro hsame r rfl
    exact congrArg DeploymentRecord.cleanedAt hsame
  · intro hnever
    have hcleaned : old.bind (·.cleanedAt) = none := by
      cases old with
      | none => rfl
      | some r => exact hnever r rfl
    rw [freshRecord, hcleaned, freshRecord, Option.bind_none]

/-- **When a deployment that starts again starts afresh.** Whatever a ledger has served, if it has
the latest layout and the start of a deployment is recorded, then the same could be recorded on an
empty ledger, where the record would tell of nothing but the start. What is found is this record,
but with the time of the cleanup that the application had before; so it is the same exactly if
there was none.

**Proof sketch.** Whether a start is recorded does not depend on what the tables hold. They
represent a map of records, in which the record of the application is replaced, except for the time
of the cleanup. -/
theorem recordStarted_startsAfresh_iff (requests : List Request) (now : Int) (jobName : String)
    (m : Manifest) (hlatest : (serveAll .empty requests).2.version = latestVersion)
    (hok : (startedOn (serveAll .empty requests).2 now jobName m).1 = .ok ()) :
    let db := (serveAll .empty requests).2
    let again := (startedOn db now jobName m).2
    let first := startedOn (migrated [latestVersion]) now jobName m
    first.1 = .ok () ∧ ∃ seconds old found fresh, toSeconds now = .ok seconds ∧
      (∀ access, (deployment m.applicationId).runOn access db = (.ok old, db)) ∧
      (∀ access, (deployment m.applicationId).runOn access again = (.ok (some found), again)) ∧
      (∀ access,
        (deployment m.applicationId).runOn access first.2 = (.ok (some fresh), first.2)) ∧
      fresh.OnlyStarted jobName m seconds ∧
      found = { fresh with cleanedAt := old.bind (·.cleanedAt) } ∧
      (found = fresh ↔ ∀ r, old = some r → r.cleanedAt = none) := by
  intro db again first
  obtain ⟨version, memory, h⟩ := exists_remembers requests
  obtain rfl : version = latestVersion := h.version_eq.symm.trans hlatest
  obtain ⟨version, hempty⟩ := Remembers.empty.serveAll_migrations [latestVersion]
  obtain rfl : latestVersion = version := hempty.version_eq
  have hready : 0 < db.version := by
    rw [hlatest]
    decide
  obtain ⟨rows, artifacts, htable, hartifacts, -⟩ := h.tables hready
  have hfirst : first.1 = .ok () :=
    (runOn_recordStarted_eq_ok_iff (by decide) rfl rfl).2
      ((runOn_recordStarted_eq_ok_iff hready htable hartifacts).1 hok)
  obtain ⟨seconds, hseconds, hfound⟩ := h.deployment_of_recordStarted hok
  obtain ⟨seconds', hseconds', hfresh⟩ := hempty.deployment_of_recordStarted hfirst
  obtain rfl := Except.ok.inj (hseconds.symm.trans hseconds')
  exact ⟨hfirst, seconds, memory m.applicationId, _, _, hseconds,
    fun access => h.deployment m.applicationId, hfound, hfresh, onlyStarted_freshRecord, rfl,
    freshRecord_eq_iff⟩

/-- A deployment that was completed starts again afresh. -/
theorem recordStarted_startsAfresh_iff_of_completed :
    let a : StagedArtifact := ⟨⟨"job.jar", "job.jar", .userJar⟩, "/s/job.jar", "ab", 3, 1⟩
    let old : Manifest := ⟨default, "/t", [a], .storageDefault 3⟩
    let m : Manifest := ⟨default, "/s", [a], .configured 2⟩
    let requests : List Request := [.migrate latestVersion, .tell 1000 (.recordStarted "old" old),
      .tell 2000 (.recordCompleted ⟨default, old, .failed [1], .killed, none⟩)]
    let run := startedOn (serveAll .empty requests).2 5000 "job" m
    (serveAll .empty requests).2.version = latestVersion ∧ run.1 = .ok () ∧
      ∃ r : DeploymentRecord, r.OnlyStarted "job" m 5 ∧
        (deployment default).runOn .reading run.2 = (.ok (some r), run.2) := by
  intro a old m requests run
  have hlatest : (serveAll .empty requests).2.version = latestVersion := by decide +kernel
  have hok : run.1 = .ok () := by decide +kernel
  obtain ⟨-, seconds, before, found, fresh, hseconds, hbefore, hfound, -, honly, -, hiff⟩ :=
    recordStarted_startsAfresh_iff requests 5000 "job" m hlatest hok
  obtain rfl : 5 = seconds := Except.ok.inj hseconds
  have hremembers : Remembers (serveAll .empty requests).2 latestVersion _ :=
    Remembers.empty.serveAll requests
  obtain rfl : _ = before := Except.ok.inj
    (congrArg Prod.fst ((hremembers.deployment default).symm.trans (hbefore .reading)))
  have hnever : ((serveAll .empty requests).1.foldl (Entry.revise default) none).bind
      (·.cleanedAt) = none := by decide +kernel
  obtain rfl : found = fresh := hiff.2 fun r hr => (Option.bind_eq_none_iff.1 hnever) r hr
  exact ⟨hlatest, hok, found, honly, hfound .reading⟩

/-- **A cleanup outlives a start.** An application is deployed, cleaned up and deployed again: the
record of the second deployment has the time of the cleanup of the first one, and is not the one on
an empty ledger. -/
theorem recordStarted_keepsCleanup :
    let old : Manifest := ⟨default, "/t", [], .storageDefault 3⟩
    let m : Manifest := ⟨default, "/s", [], .configured 2⟩
    let requests : List Request := [.migrate latestVersion, .tell 1000 (.recordStarted "old" old),
      .tell 2000 (.markCleaned default)]
    let again := startedOn (serveAll .empty requests).2 5000 "job" m
    let first := startedOn (migrated [latestVersion]) 5000 "job" m
    (serveAll .empty requests).2.version = latestVersion ∧
      again.1 = .ok () ∧ first.1 = .ok () ∧
      ∃ found fresh : DeploymentRecord,
        (deployment default).runOn .reading again.2 = (.ok (some found), again.2) ∧
        (deployment default).runOn .reading first.2 = (.ok (some fresh), first.2) ∧
        found.cleanedAt = some 2 ∧ fresh.cleanedAt = none ∧ found ≠ fresh := by
  intro old m requests again first
  have hlatest : (serveAll .empty requests).2.version = latestVersion := by decide +kernel
  have hremembers : Remembers (serveAll .empty requests).2 latestVersion _ :=
    Remembers.empty.serveAll requests
  have hempty : Remembers (migrated [latestVersion]) latestVersion _ :=
    Remembers.empty.serveAll [.migrate latestVersion]
  have hagain : again.1 = .ok () := by decide +kernel
  have hfirst : first.1 = .ok () := by decide +kernel
  obtain ⟨seconds, -, hfound⟩ := hremembers.deployment_of_recordStarted hagain
  obtain ⟨seconds', -, hfresh⟩ := hempty.deployment_of_recordStarted hfirst
  have hcleaned : ((serveAll .empty requests).1.foldl (Entry.revise default) none).bind
      (·.cleanedAt) = some 2 := by decide +kernel
  refine ⟨hlatest, hagain, hfirst, _, _, hfound .reading, hfresh .reading, hcleaned, rfl,
    fun hsame => ?_⟩
  exact nomatch hcleaned.symm.trans (congrArg DeploymentRecord.cleanedAt hsame)

end Ledger

end ClusterDeploy
