import ClusterDeploy.CommandLine.Program
import ClusterDeploy.Proofs.Dialogue.Runs
import ClusterDeploy.Proofs.Ledger.Requests

set_option relaxedAutoImplicit false
set_option autoImplicit false

/-!
# Manifests survive the ledger

A manifest that is recorded is found again with the record of its application: the same artifacts in
the same order, each with all that was said of it. Whatever was recorded of the application before
is no obstacle, and nothing of it is left in the manifest.

## Main definitions

* `Ledger.IsClock` — times at which something can be recorded.
* `CommandLine.checked` — what is written when a deployment was checked.

## Main results

* `Ledger.exists_runOn_addArtifacts` — artifacts that fit, under new names, can be added.
* `Ledger.runOn_recordStarted_fst` — what the record of a start comes down to.
* `Ledger.runOn_recordStarted_eq_ok_iff` — when the start of a deployment is recorded.
* `CommandLine.ends_verify_iff` — the runs of the check of a deployment.
* `Ledger.recordStarted_keepsManifest` — what is checked of a recorded deployment is what was
  staged.
-/

namespace ClusterDeploy

namespace CommandLine

open Dialogue (Ends)

/-- What is written when the artifacts of a deployment were checked. -/
def checked (application : ApplicationId) : Except DeployError Unit → Output
  | .error e => fail [] e.display
  | .ok () => ⟨[s!"{application.display}: staged artifacts intact"], .success⟩

/-- **The runs of the check of a deployment.** The ledger is asked for its record, and then the
artifacts in the manifest of the record are checked, if there is one. -/
lemma ends_verify_iff {c : Connection} {id : ApplicationId}
    {course : List (Dialogue.Exchange Question Answer)} {output : Output} :
    Ends (verify c id) course output ↔
      (∃ e : DeployError, course = [⟨.deployment c.ledger id, .error e⟩] ∧
        output = fail [] e.display) ∨
      (course = [⟨.deployment c.ledger id, .ok none⟩] ∧
        output = fail [] s!"no deployment recorded for {id.display}") ∨
      ∃ (r : DeploymentRecord) (answer : Except DeployError Unit),
        course = [⟨.deployment c.ledger id, .ok (some r)⟩, ⟨.verify c r.manifest, answer⟩] ∧
          output = checked id answer := by
  unfold verify
  refine Dialogue.ends_question_bind_iff.trans ⟨?_, ?_⟩
  · rintro ⟨e | _ | r, rest, rfl, hrest⟩
    · obtain ⟨rfl, rfl⟩ := Dialogue.ends_pure_iff.1 hrest
      exact .inl ⟨e, rfl, rfl⟩
    · obtain ⟨rfl, rfl⟩ := Dialogue.ends_pure_iff.1 hrest
      exact .inr (.inl ⟨rfl, rfl⟩)
    · obtain ⟨answer, last, rfl, hend⟩ := Dialogue.ends_question_bind_iff.1 hrest
      rcases answer with e | ⟨⟨⟩⟩ <;> obtain ⟨rfl, rfl⟩ := Dialogue.ends_pure_iff.1 hend
      · exact .inr (.inr ⟨r, .error e, rfl, rfl⟩)
      · exact .inr (.inr ⟨r, .ok (), rfl, rfl⟩)
  · rintro (⟨e, rfl, rfl⟩ | ⟨rfl, rfl⟩ | ⟨r, answer, rfl, rfl⟩)
    · exact ⟨.error e, [], rfl, .done _⟩
    · exact ⟨.ok none, [], rfl, .done _⟩
    · refine ⟨.ok (some r), _, rfl, Dialogue.ends_question_bind_iff.2 ⟨answer, [], rfl, ?_⟩⟩
      rcases answer with e | ⟨⟨⟩⟩ <;> exact .done _

end CommandLine

namespace Ledger

/-- Times at or after 1970 that a clock with signed seconds can show, in milliseconds. -/
def IsClock (now : Int) : Prop :=
  0 ≤ now ∧ now.toNat / 1000 < Text.signedBound

variable {key : String} {position : Nat} {a : StagedArtifact} {l : List StagedArtifact}
  {row : ArtifactRow} {rows artifacts : List ArtifactRow} {db : Database} {now : Int}

/-! ## Numbers that fit -/

/-- A number is stored exactly if it has less than 63 bits. -/
lemma toWord_eq_ok_iff {n : Nat} {cell : Cell} :
    toWord n = .ok cell ↔ n < Text.signedBound ∧ cell = .integer n := by
  unfold toWord
  by_cases hn : n < Text.signedBound
  · rw [if_pos hn]
    exact ⟨fun h => ⟨hn, (Except.ok.inj h).symm⟩, fun h => congrArg _ h.2.symm⟩
  · rw [if_neg hn]
    exact iff_of_false nofun fun h => hn h.1

/-- A time is one that clocks show exactly if it can be stored. -/
lemma isClock_iff : IsClock now ↔ ∃ seconds, toSeconds now = .ok seconds := by
  unfold IsClock toSeconds
  by_cases hnow : now < 0
  · rw [if_pos hnow]
    exact iff_of_false (fun h => absurd hnow (Int.not_lt.2 h.1)) nofun
  · rw [if_neg hnow]
    by_cases hfar : Text.signedBound ≤ now.toNat / 1000
    · rw [if_pos hfar]
      exact iff_of_false (fun h => absurd h.2 (Nat.not_lt.2 hfar)) nofun
    · rw [if_neg hfar]
      exact iff_of_true ⟨Int.not_lt.1 hnow, Nat.not_le.1 hfar⟩ ⟨_, rfl⟩

/-- An artifact whose numbers fit in a signed word has a row. -/
lemma exists_ofArtifact
    (hfits : a.len.toNat < Text.signedBound ∧ a.modificationTime.toNat < Text.signedBound) :
    ∃ row, ArtifactRow.ofArtifact key position a = .ok row := by
  have hword : ∀ {n : Nat}, n < Text.signedBound → toWord n = .ok (.integer n) := fun hn =>
    toWord_eq_ok_iff.2 ⟨hn, rfl⟩
  unfold ArtifactRow.ofArtifact
  rw [hword hfits.1, hword hfits.2]
  exact ⟨_, rfl⟩

/-! ## Adding artifacts -/

/-- An artifact with a row is added if its name is new. -/
lemma runOn_addArtifact (hdb : db.artifacts = some artifacts)
    (hrow : ArtifactRow.ofArtifact key position a = .ok row)
    (hnew : ∀ other ∈ artifacts, other.isOf key = true →
      other.remoteName ≠ .text a.entry.remoteName) :
    (addArtifact key position a).runOn .writing db =
      (.ok (), { db with artifacts := some (artifacts ++ [row]) }) := by
  have hname := (fits_of_ofArtifact hrow).2.2.1
  have hfree : ¬ (artifacts.any fun other =>
      other.isOf key && other.remoteName == row.remoteName) = true := by
    rw [List.any_eq_true]
    rintro ⟨other, hother, hsame⟩
    obtain ⟨hof, hsame⟩ := Bool.and_eq_true_iff.1 hsame
    exact hnew other hother hof ((eq_of_beq hsame).trans hname)
  unfold addArtifact
  rw [runOn_bind_of_ok ((runOn_ofReading _).trans (by rw [hrow])),
    runOn_bind_of_ok (runOn_getArtifacts hdb), if_neg hfree]
  rfl

/-- **Artifacts that fit, under new names, can be added.**

**Proof sketch.** By induction on the artifacts. The row of the first one has its name, which none
of the others has. -/
lemma exists_runOn_addArtifacts (hdb : db.artifacts = some artifacts)
    (hfits : ∀ a ∈ l,
      a.len.toNat < Text.signedBound ∧ a.modificationTime.toNat < Text.signedBound)
    (hdistinct : (l.map (·.entry.remoteName)).Nodup)
    (hnew : ∀ a ∈ l, ∀ other ∈ artifacts, other.isOf key = true →
      other.remoteName ≠ .text a.entry.remoteName) :
    ∃ db', (addArtifacts key position l).runOn .writing db = (.ok (), db') := by
  induction l generalizing db artifacts position with
  | nil => exact ⟨db, rfl⟩
  | cons a l ih =>
    obtain ⟨hfit, hfits⟩ := List.forall_mem_cons.1 hfits
    obtain ⟨hfresh, hnew⟩ := List.forall_mem_cons.1 hnew
    obtain ⟨hfirst, hdistinct⟩ := List.nodup_cons.1 hdistinct
    obtain ⟨row, hrow⟩ : ∃ row, ArtifactRow.ofArtifact key position a = .ok row :=
      exists_ofArtifact hfit
    rw [addArtifacts, runOn_bind_of_ok (runOn_addArtifact hdb hrow hfresh)]
    refine ih rfl hfits hdistinct fun b hb other hother hof => ?_
    rcases List.mem_append.1 hother with hold | hlast
    · exact hnew b hb other hold hof
    · rw [List.mem_singleton.1 hlast, (fits_of_ofArtifact hrow).2.2.1]
      intro hsame
      exact hfirst (List.mem_map.2 ⟨b, hb, (Cell.text.inj hsame).symm⟩)

/-! ## Recording -/

/-- Where the layout is in place it stays. -/
lemma runOn_ensureReady_writing (hready : 0 < db.version) :
    ensureReady.runOn .writing db = (.ok (), db.opened) := by
  unfold ensureReady
  rw [runOn_bind_of_ok runOn_ensureVersions_writing, runOn_bind_of_ok runOn_readVersion,
    if_neg (show ¬ db.opened.version ≤ 0 from Int.not_le.2 hready)]
  rfl

/-- What came of the record of a start is what came of adding the artifacts, behind all rows but
those of the application. -/
lemma runOn_recordStarted_fst {jobName : String} {m : Manifest} {table : DeploymentTable}
    {seconds : Nat} (hready : 0 < db.version) (htable : db.deployments = some table)
    (hartifacts : db.artifacts = some artifacts) (hseconds : toSeconds now = .ok seconds) :
    ((recordStarted now jobName m).runOn .writing db).1 =
      ((addArtifacts m.applicationId.display 0 m.artifacts).runOn .writing
        { db.opened with
          deployments := some { table with
            rows := startRow m.applicationId.display (.ofStart jobName m seconds) table.rows }
          artifacts := some
            (artifacts.filter fun row => !row.isOf m.applicationId.display) }).1 := by
  have hset : ∀ {table : DeploymentTable} {db : Database}, (setDeployments table).runOn .writing
      db = (.ok (), { db with deployments := some table }) := rfl
  have hset' : ∀ {rows : List ArtifactRow} {db : Database}, (setArtifacts rows).runOn .writing
      db = (.ok (), { db with artifacts := some rows }) := rfl
  have htable' : getDeployments.runOn .writing db.opened = (.ok table, db.opened) :=
    runOn_getDeployments htable
  have hget : ∀ {table : DeploymentTable}, getArtifacts.runOn .writing
      { db.opened with deployments := some table } = (.ok artifacts, _) :=
    runOn_getArtifacts hartifacts
  unfold recordStarted
  rw [runOn_bind_of_ok (runOn_ensureReady_writing hready), runOn_transaction,
    runOn_bind_of_ok ((runOn_ofReading _).trans (by rw [hseconds])),
    runOn_bind_of_ok htable', runOn_bind_of_ok hset,
    runOn_bind_of_ok hget, runOn_bind_of_ok hset']
  dsimp only
  rcases (addArtifacts m.applicationId.display 0 m.artifacts).runOn .writing _ with ⟨_ | _, _⟩
  · rfl
  · rfl

/-- **When the start of a deployment is recorded**: the clock stands right, all numbers fit and no
name is used twice. What the tables hold already does not matter.

**Proof sketch.** Of the steps that can fail one reads the clock, and the others add artifacts. They
are added after all rows of the application were removed, so a name is new if it was not used in
the same manifest. -/
lemma runOn_recordStarted_eq_ok_iff {jobName : String} {m : Manifest} {table : DeploymentTable}
    (hready : 0 < db.version) (htable : db.deployments = some table)
    (hartifacts : db.artifacts = some artifacts) :
    ((recordStarted now jobName m).runOn .writing db).1 = .ok () ↔
      IsClock now ∧ m.IsStorable := by
  constructor
  · intro hok
    obtain ⟨-, seconds, _, _, _, hseconds, -, -, -, hstorable, -⟩ :=
      exists_written_of_recordStarted (Prod.ext hok rfl)
    exact ⟨isClock_iff.2 ⟨seconds, hseconds⟩, hstorable⟩
  · rintro ⟨hclock, hstorable⟩
    obtain ⟨seconds, hseconds⟩ := isClock_iff.1 hclock
    have hadd : ∃ db', (addArtifacts m.applicationId.display 0 m.artifacts).runOn .writing
        { db.opened with
          deployments := some { table with
            rows := startRow m.applicationId.display (.ofStart jobName m seconds) table.rows }
          artifacts := some (artifacts.filter fun row => !row.isOf m.applicationId.display) } =
        (.ok (), db') := by
      refine exists_runOn_addArtifacts rfl hstorable.fits hstorable.distinct ?_
      intro a _ other hother hof
      have hnot := (List.mem_filter.1 hother).2
      rw [hof] at hnot
      exact nomatch hnot
    obtain ⟨db', hadd⟩ := hadd
    rw [runOn_recordStarted_fst hready htable hartifacts hseconds, hadd]

/-! ## Finding what was recorded -/

/-- **What is found when the start of a deployment was recorded**, with the latest layout: of a
record that the application had before only the time of the cleanup stays. -/
lemma Remembers.deployment_of_recordStarted {memory : Memory} {jobName : String} {m : Manifest}
    (h : Remembers db latestVersion memory)
    (hok : ((recordStarted now jobName m).runOn .writing db).1 = .ok ()) :
    ∃ seconds, toSeconds now = .ok seconds ∧ ∀ access,
      (Ledger.deployment m.applicationId).runOn access
          ((recordStarted now jobName m).runOn .writing db).2 =
        (.ok (some (freshRecord jobName m seconds (memory m.applicationId))),
          ((recordStarted now jobName m).runOn .writing db).2) := by
  obtain ⟨seconds, hseconds, -, h'⟩ := h.action
    (show ((Call.recordStarted jobName m).action now).runOn .writing db =
      (.ok (), ((recordStarted now jobName m).runOn .writing db).2) from Prod.ext hok rfl)
  refine ⟨seconds, hseconds, fun access => (h'.deployment m.applicationId).trans ?_⟩
  rw [Call.remember, if_pos (show m.applicationId = Call.application (.recordStarted jobName m)
    from rfl)]
  rfl

/-- **What is checked of a recorded deployment is what was staged.** Whatever an empty ledger has
served, if it has the latest layout then

1. with a clock at or after 1970 the start of a deployment is recorded exactly if the names of the
   artifacts are distinct and their numbers fit in signed words, and otherwise it is not;
2. once it is recorded, the manifest in the record of the application is the one that was given, and
   looking it up changes nothing;
3. who checks the deployment asks the ledger for its record first; answered with this record, they
   check exactly this manifest, and what is written says what came of it.

**Proof sketch.** With the latest layout both tables are there, and nothing else is asked of them.
They represent a map of records, in which the start of a deployment gives its application a record
with the manifest. -/
theorem recordStarted_keepsManifest (requests : List Request) (now : Int) (jobName : String)
    (m : Manifest) (hlatest : (serveAll .empty requests).2.version = latestVersion) :
    let run := (recordStarted now jobName m).runOn .writing (serveAll .empty requests).2
    (IsClock now → (run.1 = .ok () ↔ m.IsStorable)) ∧
    (run.1 = .ok () → IsClock now) ∧
    (run.1 = .ok () → ∃ r : DeploymentRecord, r.manifest = m ∧
      (∀ access, (deployment m.applicationId).runOn access run.2 = (.ok (some r), run.2)) ∧
      ∀ (c : CommandLine.Connection)
        (course : List (Dialogue.Exchange CommandLine.Question CommandLine.Answer))
        (output : CommandLine.Output),
        (Dialogue.Ends (CommandLine.verify c m.applicationId) course output →
          ∃ answer rest, course = ⟨.deployment c.ledger m.applicationId, answer⟩ :: rest) ∧
        (Dialogue.Ends (CommandLine.verify c m.applicationId)
            (⟨.deployment c.ledger m.applicationId, .ok (some r)⟩ :: course) output ↔
          ∃ answer : Except DeployError Unit, course = [⟨.verify c m, answer⟩] ∧
            output = CommandLine.checked m.applicationId answer)) := by
  intro run
  obtain ⟨version, memory, h⟩ := exists_remembers requests
  obtain rfl : version = latestVersion := h.version_eq.symm.trans hlatest
  have hready : 0 < (serveAll .empty requests).2.version := by
    rw [hlatest]
    decide
  obtain ⟨rows, artifacts, htable, hartifacts, -⟩ := h.tables hready
  have hiff : run.1 = .ok () ↔ IsClock now ∧ m.IsStorable :=
    runOn_recordStarted_eq_ok_iff hready htable hartifacts
  refine ⟨fun hclock => hiff.trans (and_iff_right hclock), fun hok => (hiff.1 hok).1,
    fun hok => ?_⟩
  obtain ⟨seconds, -, hfound⟩ := h.deployment_of_recordStarted hok
  refine ⟨freshRecord jobName m seconds (memory m.applicationId), rfl, hfound,
    fun c course output => ⟨fun hrun => ?_, ?_⟩⟩
  · obtain ⟨answer, rest, hcourse, -⟩ := Dialogue.ends_question_bind_iff.1 hrun
    exact ⟨answer, rest, hcourse⟩
  · rw [CommandLine.ends_verify_iff]
    constructor
    · rintro (⟨e, hcourse, -⟩ | ⟨hcourse, -⟩ | ⟨r', answer, hcourse, rfl⟩)
      · exact nomatch (List.cons.inj hcourse).1
      · exact nomatch (List.cons.inj hcourse).1
      · obtain ⟨hfirst, rfl⟩ := List.cons.inj hcourse
        cases hfirst
        exact ⟨answer, rfl, rfl⟩
    · rintro ⟨answer, rfl, rfl⟩
      exact .inr (.inr ⟨_, answer, rfl, rfl⟩)

/-- A deployment that was recorded and cleaned up starts again with other artifacts. -/
theorem recordStarted_keepsManifest_of_restart :
    let a : StagedArtifact := ⟨⟨"job.jar", "job.jar", .userJar⟩, "/s/job.jar", "ab", 3, 1⟩
    let b : StagedArtifact := ⟨⟨"dist", "b.jar", .bundle⟩, "/s/b.jar", "", 0, 2⟩
    let old : Manifest := ⟨default, "/t", [b, a], .storageDefault 3⟩
    let m : Manifest := ⟨default, "/s", [a, b], .configured 2⟩
    let requests : List Request := [.migrate latestVersion, .tell 1000 (.recordStarted "old" old),
      .tell 2000 (.markCleaned default)]
    let run := (recordStarted 5000 "job" m).runOn .writing (serveAll .empty requests).2
    (serveAll .empty requests).2.version = latestVersion ∧ run.1 = .ok () ∧
      ∃ r : DeploymentRecord, r.manifest = m ∧
        (deployment default).runOn .reading run.2 = (.ok (some r), run.2) := by
  intro a b old m requests run
  have hlatest : (serveAll .empty requests).2.version = latestVersion := by decide +kernel
  obtain ⟨hiff, -, hkeeps⟩ := recordStarted_keepsManifest requests 5000 "job" m hlatest
  have hok : run.1 = .ok () := (hiff ⟨by decide, by decide⟩).2 ⟨by decide, by decide⟩
  obtain ⟨r, hmanifest, hfound, -⟩ := hkeeps hok
  exact ⟨hlatest, hok, r, hmanifest, hfound .reading⟩

end Ledger

end ClusterDeploy
