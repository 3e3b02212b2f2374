import ClusterDeploy.Proofs.Deployment.Course

set_option relaxedAutoImplicit false
set_option autoImplicit false

/-!
# What the ledger is told

With a ledger a deployment is recorded before its cluster is created, and once more when it is over.
What it records in the end is what it gives, and what became of its cluster.

## Main definitions

* `Deployment.ToldOfCluster` — what an aborted deployment tells of its cluster.
* `Deployment.Recorded` — how the course of a deployment, its result and its records fit together.

## Main results

* `Deployment.run_recorded` — the protocol of a deployment with its ledger.
-/

namespace ClusterDeploy

namespace Deployment

open Dialogue (Ends)

/-- What an aborted deployment tells of its cluster: nothing if there was none, that it was killed
if that worked in time, and that it may still be running if not. -/
structure ToldOfCluster (course : Task.Course) (termination : Option Termination)
    (teardownError : Option DeployError) : Prop where
  none_iff : termination = none ↔ course.handles = []
  no_error : termination ≠ some .running → teardownError = none
  killed_iff : termination = some .killed ∧ teardownError = none ↔
    some (.ok ()) ∈ course.killResults
  running_iff : termination = some .running ∧ teardownError.isSome = true ↔
    ∃ came ∈ course.killResults, came ≠ some (.ok ())

/-- How the course of a deployment, its result and its records fit together. -/
structure Recorded (config : Config) (request : DeploymentRequest) (course : Task.Course)
    (result : Except DeployError DeploymentReport) : Prop where
  /-- Before a cluster is created the artifacts were staged, the deployment was not seen cancelled,
  and its start was recorded. -/
  creation : ∀ {before after : Task.Course} {cluster : ClusterRequest}
    {created : Attempt ClusterHandle}, course = before ++ creation cluster created :: after →
      ∃ ending application m, ending.within config.askTimeout = some (.ok application) ∧
        before = [allocation config ending, staging config request application (.ok m),
          cancellation false, recording (.recordStarted request.job.name m) (.ok ())]
  /-- The ledger is told nothing. Or it is told of the start, with the manifest of what was staged
  for the application that was allocated: in vain, or with success and then, at the very end, it is
  told of the result for this application. -/
  recordings : course.recordings = [] ∨
    ∃ ending application m, ending.within config.askTimeout = some (.ok application) ∧
      [allocation config ending, staging config request application (.ok m),
        cancellation false] <+: course ∧
      ((∃ mishap, course.recordings =
          [recording (.recordStarted request.job.name m) (.error mishap)]) ∨
        ∃ call answer before,
          course.recordings =
            [recording (.recordStarted request.job.name m) (.ok ()), recording call answer] ∧
          course = before ++ [recording call answer] ∧
          (∀ h ∈ course.handles, Supervisor.released h ∈ before) ∧
          match result with
          | .ok report => call = .recordCompleted report
          | .error e => ∃ termination teardownError,
              call = .recordAborted application e termination teardownError ∧
                ToldOfCluster course termination teardownError)

/-! ## From the creation of a cluster to its end -/

variable {config : Config} {job : Job} {application : ApplicationId} {m : Manifest}
  {course : Task.Course} {result : Except DeployError DeploymentReport}
  {teardown : Option SupervisionReport} {h : ClusterHandle}

/-- The creation of a cluster comes first, and is the only one; the ledger is told nothing before
the cluster has come to its end. -/
lemma Lived.eq_creation (hlife : Lived config job application m course result teardown) :
    ∃ created rest, course = creation (Launch.request config job m) created :: rest ∧
      ∀ x ∈ rest, x.isCreation = false ∧ x.isRecording = false := by
  have hkill : ∀ {s : Supervisor} {h : ClusterHandle} {kill : Task.Course}
      {report : SupervisionReport}, Ends (s.terminateNow h) kill report →
        ∀ x ∈ kill, x.isCreation = false ∧ x.isRecording = false := fun hrun =>
    Supervisor.forall_mem_of_ends_terminateNow (fun _ => ⟨rfl, rfl⟩) ⟨rfl, rfl⟩ hrun
  cases hlife with
  | uncreated _ => exact ⟨_, [], rfl, fun _ hx => absurd hx List.not_mem_nil⟩
  | unsubmitted _ hrun =>
    exact ⟨_, _, rfl, List.forall_mem_cons.2 ⟨⟨rfl, rfl⟩, hkill hrun⟩⟩
  | cancelled _ hrun =>
    exact ⟨_, _, rfl, List.forall_mem_cons.2 ⟨⟨rfl, rfl⟩,
      List.forall_mem_cons.2 ⟨⟨rfl, rfl⟩, hkill hrun⟩⟩⟩
  | unwatched _ _ hrun =>
    exact ⟨_, _, rfl, List.forall_mem_cons.2 ⟨⟨rfl, rfl⟩, List.forall_mem_cons.2 ⟨⟨rfl, rfl⟩,
      List.forall_mem_cons.2 ⟨⟨rfl, rfl⟩, hkill hrun⟩⟩⟩⟩
  | completed _ _ hrun =>
    have hconclude := Supervisor.forall_mem_of_ends_conclude
      (p := fun x => x.isCreation = false ∧ x.isRecording = false)
      (fun _ _ => ⟨rfl, rfl⟩) (fun _ => ⟨rfl, rfl⟩) (fun _ => ⟨rfl, rfl⟩) ⟨rfl, rfl⟩ hrun
    exact ⟨_, _, rfl, List.forall_mem_cons.2 ⟨⟨rfl, rfl⟩, List.forall_mem_cons.2 ⟨⟨rfl, rfl⟩,
      List.forall_mem_cons.2 ⟨⟨rfl, rfl⟩, hconclude⟩⟩⟩⟩

/-- What is told of a cluster that was to be killed. -/
private lemma told_of_verdict {s : Supervisor} {ending : Ending Unit} (hone : course.handles = [h])
    (hkill : course.killResults = [ending.within s.callTimeout]) :
    ToldOfCluster course (some (s.verdict h ending).1) (s.verdict h ending).2 := by
  by_cases hend : ending.within s.callTimeout = some (.ok ())
  · rw [Supervisor.verdict_of_success hend]
    constructor <;> simp [hone, hkill, hend]
  · obtain ⟨e, -, hverdict⟩ := Supervisor.verdict_of_failure (h := h) hend
    rw [hverdict]
    constructor <;> simp [hone, hkill, hend, Ne.symm hend]

/-- A deployment that fails tells what became of its cluster. -/
lemma told_of_lived {e : DeployError}
    (hlife : Lived config job application m course (.error e) teardown) :
    ToldOfCluster course (teardown.map (·.termination)) (teardown.bind (·.teardownError)) := by
  cases hlife with
  | uncreated hcreated =>
    obtain ⟨mishap, rfl⟩ := Task.exists_mishap_of_settle hcreated
    constructor <;> simp
  | unsubmitted _ hrun =>
    obtain ⟨ending, rfl, rfl⟩ := Supervisor.ends_terminateNow_iff.1 hrun
    exact told_of_verdict (by simp) (by simp)
  | cancelled _ hrun =>
    obtain ⟨ending, rfl, rfl⟩ := Supervisor.ends_terminateNow_iff.1 hrun
    exact told_of_verdict (by simp) (by simp)
  | unwatched _ _ hrun =>
    obtain ⟨ending, rfl, rfl⟩ := Supervisor.ends_terminateNow_iff.1 hrun
    exact told_of_verdict (by simp) (by simp)

/-- There is at most one cluster, and its connection is closed. -/
lemma Lived.released_mem (hlife : Lived config job application m course result teardown) :
    course.handles = [] ∨ ∃ h, course.handles = [h] ∧ Supervisor.released h ∈ course := by
  cases hlife with
  | uncreated hcreated =>
    obtain ⟨mishap, rfl⟩ := Task.exists_mishap_of_settle hcreated
    exact .inl rfl
  | @unsubmitted h _ _ _ _ _ hrun =>
    obtain ⟨ending, rfl, -⟩ := Supervisor.ends_terminateNow_iff.1 hrun
    exact .inr ⟨h, by simp, by simp⟩
  | @cancelled h _ _ _ _ _ hrun =>
    obtain ⟨ending, rfl, -⟩ := Supervisor.ends_terminateNow_iff.1 hrun
    exact .inr ⟨h, by simp, by simp⟩
  | @unwatched h _ _ _ _ _ _ _ _ hrun =>
    obtain ⟨ending, rfl, -⟩ := Supervisor.ends_terminateNow_iff.1 hrun
    exact .inr ⟨h, by simp, by simp⟩
  | @completed h _ _ _ _ conclusion _ _ _ hrun =>
    have hnone : Task.Course.handles conclusion = [] :=
      List.filterMap_eq_nil_iff.2 (Supervisor.forall_mem_of_ends_conclude
        (p := fun x => x.handle? = none) (by simp) (by simp) (by simp) (by simp) hrun)
    refine .inr ⟨h, by simp [hnone], ?_⟩
    obtain ⟨polls, count, ⟨-, rfl, -⟩ | ⟨-, ending, rfl, -⟩⟩ := Supervisor.ends_conclude_iff.1 hrun
    · simp
    · simp

/-! ## The whole deployment -/

/-- A list with one element of some kind is split at such an element in one way only. -/
lemma eq_of_split {α : Type} {p : α → Bool} {l before after rest : List α} {x y : α}
    (hl : ∀ z ∈ l, p z = false) (hrest : ∀ z ∈ rest, p z = false)
    (hsplit : l ++ y :: rest = before ++ x :: after) (hx : p x = true) : before = l := by
  induction l generalizing before with
  | nil =>
    match before with
    | [] => rfl
    | z :: before =>
      obtain ⟨-, htail⟩ := List.cons.inj hsplit
      have hmem : x ∈ rest := by simp [htail]
      exact absurd ((hrest x hmem).symm.trans hx) Bool.false_ne_true
  | cons z l ih =>
    obtain ⟨hz, hl⟩ := List.forall_mem_cons.1 hl
    match before with
    | [] =>
      obtain ⟨rfl, -⟩ := List.cons.inj hsplit
      exact absurd (hz.symm.trans hx) Bool.false_ne_true
    | w :: before =>
      obtain ⟨rfl, htail⟩ := List.cons.inj hsplit
      rw [ih hl htail]

/-- No cluster is created where no step does that. -/
private lemma not_creation_of_forall {before after : Task.Course} {cluster : ClusterRequest}
    {created : Attempt ClusterHandle} (hnone : ∀ x ∈ course, x.isCreation = false)
    (hsplit : course = before ++ creation cluster created :: after) : False := by
  have hmem : creation cluster created ∈ course := by simp [hsplit]
  exact Bool.false_ne_true ((hnone _ hmem).symm.trans rfl)

/-- Nothing before the creation of a cluster creates one. -/
lemma handles_prologue {request : DeploymentRequest} {ending : Ending ApplicationId}
    {staged : Attempt Manifest} {cancelled : Bool} :
    Task.Course.handles (allocation config ending :: staging config request application staged ::
      cancellation cancelled :: course) = course.handles := by
  have hallocation : (allocation config ending).handle? = none := by simp
  have hstaging : (staging config request application staged).handle? = none := by
    cases staged <;> rfl
  rw [Task.Course.handles_cons, Task.Course.handles_cons, Task.Course.handles_cons, hallocation,
    hstaging]
  rfl

/-- What is told of a cluster depends on its creation and on its kills only. -/
private lemma ToldOfCluster.congr {other : Task.Course} {termination : Option Termination}
    {teardownError : Option DeployError} (htold : ToldOfCluster course termination teardownError)
    (hhandles : other.handles = course.handles)
    (hkills : other.killResults = course.killResults) :
    ToldOfCluster other termination teardownError := by
  obtain ⟨hnone, herror, hkilled, hrunning⟩ := htold
  constructor
  · rw [hnone, hhandles]
  · exact herror
  · rw [hkilled, hkills]
  · rw [hrunning, hkills]

/-- The records of a deployment that made an attempt to create a cluster.

**Proof sketch.** The steps from the creation of the cluster to its end tell the ledger nothing
(`Lived.eq_creation`), and what they say of the cluster is what is told (`told_of_lived`). -/
private lemma recorded_of_lived {request : DeploymentRequest} {ending : Ending ApplicationId}
    (hallocated : ending.within config.askTimeout = some (.ok application))
    (hlife : Lived config request.job application m course result teardown)
    (answer : Attempt (closing application teardown result).Value) :
    Recorded config request
      (allocation config ending :: staging config request application (.ok m) ::
        cancellation false :: ([recording (.recordStarted request.job.name m) (.ok ())] ++
          (course ++ [recording (closing application teardown result) answer]))) result := by
  have htold := fun e (he : result = .error e) => told_of_lived (he ▸ hlife)
  have hreleased := hlife.released_mem
  obtain ⟨created, rest, hcourse, hrest⟩ := hlife.eq_creation
  have hsilent : Task.Course.recordings rest = [] :=
    List.filter_eq_nil_iff.2 fun x hx => Bool.eq_false_iff.1 (hrest x hx).2
  refine ⟨fun {before after cluster created'} hsplit => ?_,
    .inr ⟨ending, application, m, hallocated, List.prefix_append [_, _, _] _, .inr ?_⟩⟩
  · refine ⟨ending, application, m, hallocated, ?_⟩
    rw [hcourse] at hsplit
    -- No other step creates a cluster, so the course can be split at one only.
    refine eq_of_split (p := Task.Step.isCreation) (by simp) (fun x hx => ?_) hsplit rfl
    rcases List.mem_append.1 hx with hx | hx
    · exact (hrest x hx).1
    · rw [List.mem_singleton.1 hx]
      rfl
  · refine ⟨_, answer, allocation config ending ::
      staging config request application (.ok m) :: cancellation false ::
      recording (.recordStarted request.job.name m) (.ok ()) :: course, ?_, rfl, fun h hh => ?_, ?_⟩
    · simp [hcourse, hsilent]
    · have hhandles : h ∈ course.handles := by
        rw [handles_prologue] at hh
        simpa using hh
      rcases hreleased with hnone | ⟨h', hone, hmem⟩
      · rw [hnone] at hhandles
        exact absurd hhandles List.not_mem_nil
      · rw [hone, List.mem_singleton] at hhandles
        exact List.mem_append_right [_, _, _, _] (hhandles ▸ hmem)
    · cases result with
      | ok report => rfl
      | error e => exact ⟨_, _, rfl, (htold e rfl).congr (by simp) (by simp)⟩

/-- **The protocol of a deployment with its ledger.** Whatever its collaborators and the ledger do,
a cluster is created only after the artifacts were staged, the deployment was not seen cancelled and
its start was recorded. It is recorded with the manifest of what was staged for the application that
was allocated. If the start was recorded, the ledger is told once more, as the last thing that the
deployment does and after the connection to its cluster was closed: the report that it gives, or for
this application the failure that it gives with what became of the cluster. Otherwise it is told
nothing more.

**Proof sketch.** A case for each way in which a deployment ends (`ran_of_ends`). On all but the
last one no cluster is created; the last one is `recorded_of_lived`. -/
theorem run_recorded (config : Config) (request : DeploymentRequest) (course : Task.Course)
    (result : Except DeployError DeploymentReport)
    (hrun : Ends (run true config request) course result) :
    Recorded config request course result := by
  cases ran_of_ends hrun with
  | unallocated _ =>
    exact ⟨fun hsplit => (not_creation_of_forall (by simp) hsplit).elim, .inl rfl⟩
  | unstaged _ _ =>
    exact ⟨fun hsplit => (not_creation_of_forall (by simp) hsplit).elim, .inl rfl⟩
  | cancelled _ =>
    exact ⟨fun hsplit => (not_creation_of_forall (by simp) hsplit).elim, .inl rfl⟩
  | @unrecorded ending application m _ _ hallocated hopened =>
    obtain ⟨mishap, rfl⟩ := exists_mishap_of_ends_record hopened
    exact ⟨fun hsplit => (not_creation_of_forall (by simp) hsplit).elim,
      .inr ⟨ending, application, m, Task.settleWithin_eq_ok_iff.1 hallocated,
        List.prefix_append [_, _, _] _, .inl ⟨mishap, by simp⟩⟩⟩
  | lived hallocated hopened hlife hclosed =>
    obtain ⟨⟨⟩, rfl⟩ := exists_value_of_ends_record hopened
    obtain ⟨answer, rfl, -⟩ := ends_record_true_iff.1 hclosed
    exact recorded_of_lived (Task.settleWithin_eq_ok_iff.1 hallocated) hlife answer

/-- The creation of a cluster dies, and so does the ledger when it is told. -/
theorem run_recorded_of_creation_died :
    let config : Config := .default
    let request : DeploymentRequest := default
    let m : Manifest := default
    let e : DeployError := Attempt.deathError .clusterCreation (some m.applicationId)
    Recorded config request
      [allocation config (.ended 10 (.ok m.applicationId)),
        staging config request m.applicationId (.ok m), cancellation false,
        recording (.recordStarted request.job.name m) (.ok ()),
        creation (Launch.request config request.job m) (.error .died),
        recording (.recordAborted m.applicationId e none none) (.error .died)]
      (.error e) := by
  intro config request m e
  exact run_recorded config request _ _ (.ask (.ask (.ask (.ask (.ask (.ask (.done _)))))))

end Deployment

end ClusterDeploy
