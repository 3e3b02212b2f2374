import ClusterDeploy.Deployment
import ClusterDeploy.Proofs.Supervision

set_option relaxedAutoImplicit false
set_option autoImplicit false

/-!
# Courses of deployments

A deployment ends in one of nine ways. This module lists them: what is asked on each of them, in
order, and what the deployment gives. All statements about whole deployments start from this list.

## Main definitions

* `Deployment.Lived` — the courses from the creation of a cluster to its end.
* `Deployment.closing` — what the ledger is told in the end.
* `Deployment.Ran` — the courses of deployments.

## Main results

* `Deployment.ran_of_ends` — every run of a deployment is such a course.

## Implementation notes

What the ledger is told is part of these courses, whether or not there is a ledger: without one it
takes no step (`Deployment.ends_record_iff`).
-/

namespace ClusterDeploy

namespace Deployment

open Dialogue (Ends)

/-! ## Steps -/

/-- The reservation of an application id. -/
abbrev allocation (config : Config) (ending : Ending ApplicationId) : Task.Step :=
  ⟨.bounded (.platform .newApplication) config.askTimeout none, ending⟩

/-- The staging of the artifacts of a request. -/
abbrev staging (config : Config) (request : DeploymentRequest) (application : ApplicationId)
    (result : Attempt Manifest) : Task.Step :=
  ⟨.background (.stage application config.stagingPrefix request.entries config.replication) none,
    result⟩

/-- A look at whether the deployment is cancelled. -/
abbrev cancellation (cancelled : Bool) : Task.Step :=
  ⟨.isCancelled, cancelled⟩

/-- A call to the ledger. -/
abbrev recording (call : Ledger.Call) (result : Attempt call.Value) : Task.Step :=
  ⟨.background (.ledger call) none, result⟩

/-- The creation of a cluster. -/
abbrev creation (request : ClusterRequest) (result : Attempt ClusterHandle) : Task.Step :=
  ⟨.background (.platform (.createCluster request)) none, result⟩

/-- The submission of a job to a cluster. -/
abbrev submission (config : Config) (h : ClusterHandle) (job : Job) (ending : Ending RunningJob) :
    Task.Step :=
  ⟨.bounded (.platform (.submitJob h job)) config.askTimeout (some h), ending⟩

/-- The wait for the end of a job. -/
abbrev watching (config : Config) (h : ClusterHandle) (job : RunningJob) (watched : Watched) :
    Task.Step :=
  ⟨.watch job config.resultTimeout (some h), watched⟩

/-! ## From the creation of a cluster to its end -/

/-- The courses from the creation of a cluster to its end, with what the deployment gives and with
what is reported of the cluster if there was one. -/
inductive Lived (config : Config) (job : Job) (application : ApplicationId) (m : Manifest) :
    Task.Course → Except DeployError DeploymentReport → Option SupervisionReport → Prop where
  /-- The cluster could not be created. -/
  | uncreated {result : Attempt ClusterHandle} {e : DeployError} :
    (result.settle .clusterCreation (some m.applicationId)).mapError Rollout.asDeploymentError =
      .error e →
    Lived config job application m [creation (Launch.request config job m) result] (.error e) none
  /-- The job could not be submitted. -/
  | unsubmitted {h : ClusterHandle} {ending : Ending RunningJob} {e : DeployError}
      {kill : Task.Course} {teardown : SupervisionReport} :
    (Task.settleWithin .submission (some h.applicationId) config.askTimeout ending).mapError
      Rollout.asDeploymentError = .error e →
    Ends ((Supervisor.ofConfig config).terminateNow h) kill teardown →
    Lived config job application m
      (creation (Launch.request config job m) (.ok h) :: submission config h job ending :: kill)
      (.error e) (some teardown)
  /-- The deployment was cancelled before its job was waited for. -/
  | cancelled {h : ClusterHandle} {ending : Ending RunningJob} {running : RunningJob}
      {kill : Task.Course} {teardown : SupervisionReport} :
    (Task.settleWithin .submission (some h.applicationId) config.askTimeout ending).mapError
      Rollout.asDeploymentError = .ok running →
    Ends ((Supervisor.ofConfig config).terminateNow h) kill teardown →
    Lived config job application m
      (creation (Launch.request config job m) (.ok h) :: submission config h job ending ::
        cancellation true :: kill)
      (.error (Task.cancelledError application .submission)) (some teardown)
  /-- There was no outcome of the job. -/
  | unwatched {h : ClusterHandle} {ending : Ending RunningJob} {running : RunningJob}
      {watched : Watched} {e : DeployError} {kill : Task.Course} {teardown : SupervisionReport} :
    (Task.settleWithin .submission (some h.applicationId) config.askTimeout ending).mapError
      Rollout.asDeploymentError = .ok running →
    Watcher.outcome application running.id config.resultTimeout watched = .error e →
    Ends ((Supervisor.ofConfig config).terminateNow h) kill teardown →
    Lived config job application m
      (creation (Launch.request config job m) (.ok h) :: submission config h job ending ::
        cancellation false :: watching config h running watched :: kill)
      (.error e) (some teardown)
  /-- The job has an outcome. -/
  | completed {h : ClusterHandle} {ending : Ending RunningJob} {running : RunningJob}
      {watched : Watched} {outcome : JobOutcome} {conclusion : Task.Course}
      {supervision : SupervisionReport} :
    (Task.settleWithin .submission (some h.applicationId) config.askTimeout ending).mapError
      Rollout.asDeploymentError = .ok running →
    Watcher.outcome application running.id config.resultTimeout watched = .ok outcome →
    Ends ((Supervisor.ofConfig config).conclude h) conclusion supervision →
    Lived config job application m
      (creation (Launch.request config job m) (.ok h) :: submission config h job ending ::
        cancellation false :: watching config h running watched :: conclusion)
      (.ok ⟨application, m, outcome, supervision.termination, supervision.teardownError⟩)
      (some supervision)

/-- What the ledger is told in the end: the report, or the failure with what became of the cluster.
-/
def closing (application : ApplicationId) (teardown : Option SupervisionReport) :
    Except DeployError DeploymentReport → Ledger.Call
  | .ok report => .recordCompleted report
  | .error e => .recordAborted application e (teardown.map (·.termination))
      (teardown.bind (·.teardownError))

/-! ## From start to end -/

/-- The courses of deployments, with what they give. -/
inductive Ran (hasLedger : Bool) (config : Config) (request : DeploymentRequest) :
    Task.Course → Except DeployError DeploymentReport → Prop where
  /-- There was no application id. -/
  | unallocated {ending : Ending ApplicationId} {e : DeployError} :
    Task.settleWithin .allocation none config.askTimeout ending = .error e →
    Ran hasLedger config request [allocation config ending] (.error e)
  /-- The artifacts could not be staged. -/
  | unstaged {ending : Ending ApplicationId} {application : ApplicationId}
      {result : Attempt Manifest} {e : DeployError} :
    Task.settleWithin .allocation none config.askTimeout ending = .ok application →
    (result.settle .staging (some application)).mapError Task.asStagingError = .error e →
    Ran hasLedger config request
      [allocation config ending, staging config request application result] (.error e)
  /-- The deployment was cancelled before there was a cluster. -/
  | cancelled {ending : Ending ApplicationId} {application : ApplicationId} {m : Manifest} :
    Task.settleWithin .allocation none config.askTimeout ending = .ok application →
    Ran hasLedger config request
      [allocation config ending, staging config request application (.ok m), cancellation true]
      (.error (Task.cancelledError application .staging))
  /-- The start could not be recorded. -/
  | unrecorded {ending : Ending ApplicationId} {application : ApplicationId} {m : Manifest}
      {opening : Task.Course} {e : DeployError} :
    Task.settleWithin .allocation none config.askTimeout ending = .ok application →
    Ends (record hasLedger m.applicationId (.recordStarted request.job.name m)) opening
      (.error e) →
    Ran hasLedger config request
      (allocation config ending :: staging config request application (.ok m) ::
        cancellation false :: opening) (.error e)
  /-- There was an attempt to create a cluster. -/
  | lived {ending : Ending ApplicationId} {application : ApplicationId} {m : Manifest}
      {opening life last : Task.Course} {result : Except DeployError DeploymentReport}
      {teardown : Option SupervisionReport} {closed : Except DeployError Unit} :
    Task.settleWithin .allocation none config.askTimeout ending = .ok application →
    Ends (record hasLedger m.applicationId (.recordStarted request.job.name m)) opening
      (.ok ()) →
    Lived config request.job application m life result teardown →
    Ends (record hasLedger application (closing application teardown result)) last closed →
    Ran hasLedger config request
      (allocation config ending :: staging config request application (.ok m) ::
        cancellation false :: (opening ++ (life ++ last))) result

/-! ## Inversion -/

variable {hasLedger : Bool} {config : Config} {job : Job} {application : ApplicationId}
  {m : Manifest} {course : Task.Course}

/-- Without a ledger there is nothing to record. -/
lemma ends_record_false_iff {call : Ledger.Call} {r : Except DeployError Unit} :
    Ends (record false application call) course r ↔ course = [] ∧ r = .ok () :=
  Dialogue.ends_pure_iff

/-- With a ledger recording is one step. -/
lemma ends_record_true_iff {call : Ledger.Call} {r : Except DeployError Unit} :
    Ends (record true application call) course r ↔
      ∃ result : Attempt call.Value, course = [recording call result] ∧
        r = (result.settle .ledger (some application)).map fun _ => () := by
  unfold record
  rw [if_pos rfl, Dialogue.ends_bind_pure_iff]
  constructor
  · rintro ⟨settled, hrun, rfl⟩
    obtain ⟨result, rfl, rfl⟩ := Task.ends_background_iff.1 hrun
    exact ⟨result, rfl, rfl⟩
  · rintro ⟨result, rfl, rfl⟩
    exact ⟨_, Task.ends_background_iff.2 ⟨result, rfl, rfl⟩, rfl⟩

/-- What is recorded was answered with a value. -/
lemma exists_value_of_ends_record {call : Ledger.Call}
    (hrun : Ends (record true application call) course (.ok ())) :
    ∃ value, course = [recording call (.ok value)] := by
  obtain ⟨result, rfl, hresult⟩ := ends_record_true_iff.1 hrun
  cases result with
  | error mishap => cases mishap <;> exact nomatch hresult
  | ok value => exact ⟨value, rfl⟩

/-- What could not be recorded was answered with a failure, or not at all. -/
lemma exists_mishap_of_ends_record {call : Ledger.Call} {e : DeployError}
    (hrun : Ends (record true application call) course (.error e)) :
    ∃ mishap, course = [recording call (.error mishap)] := by
  obtain ⟨result, rfl, hresult⟩ := ends_record_true_iff.1 hrun
  cases result with
  | error mishap => exact ⟨mishap, rfl⟩
  | ok value => exact nomatch hresult

/-- Each step of a record is the report of its call. -/
lemma exists_answer_of_mem_record {call : Ledger.Call} {r : Except DeployError Unit}
    {x : Task.Step} (hrun : Ends (record hasLedger application call) course r) (hx : x ∈ course) :
    ∃ answer, x = recording call answer := by
  cases hasLedger with
  | false =>
    obtain ⟨rfl, -⟩ := ends_record_false_iff.1 hrun
    exact absurd hx List.not_mem_nil
  | true =>
    obtain ⟨answer, rfl, -⟩ := ends_record_true_iff.1 hrun
    exact ⟨answer, List.mem_singleton.1 hx⟩

/-- Each step of a record that was made is its call, answered with a value. -/
lemma exists_value_of_mem_record {call : Ledger.Call} {x : Task.Step}
    (hrun : Ends (record hasLedger application call) course (.ok ())) (hx : x ∈ course) :
    ∃ value, x = recording call (.ok value) := by
  cases hasLedger with
  | false =>
    obtain ⟨rfl, -⟩ := ends_record_false_iff.1 hrun
    exact absurd hx List.not_mem_nil
  | true =>
    obtain ⟨value, rfl⟩ := exists_value_of_ends_record hrun
    exact ⟨value, List.mem_singleton.1 hx⟩

/-- Whatever the ledger answers, an aborted deployment gives the failure that ended it. -/
lemma ends_abort_iff {e : DeployError} {teardown : Option SupervisionReport}
    {result : Except DeployError DeploymentReport} :
    Ends (abort hasLedger application e teardown) course result ↔
      result = .error e ∧
        ∃ closed, Ends (record hasLedger application (closing application teardown (.error e)))
          course closed := by
  unfold abort
  rw [Dialogue.ends_bind_iff]
  constructor
  · rintro ⟨c₁, c₂, closed, rfl, hrecord, hrest⟩
    obtain ⟨rfl, rfl⟩ := Dialogue.ends_pure_iff.1 hrest
    exact ⟨rfl, closed, by rwa [List.append_nil]⟩
  · rintro ⟨rfl, closed, hrecord⟩
    exact ⟨course, [], closed, (List.append_nil course).symm, hrecord, .done _⟩

/-- The creation of a cluster is one step. -/
lemma ends_createCluster_iff {request : ClusterRequest} {r : Except DeployError ClusterHandle} :
    Ends (Rollout.createCluster request) course r ↔
      ∃ result, course = [creation request result] ∧
        r = (result.settle .clusterCreation (some request.applicationId)).mapError
          Rollout.asDeploymentError := by
  unfold Rollout.createCluster
  rw [Dialogue.ends_bind_pure_iff]
  constructor
  · rintro ⟨settled, hrun, rfl⟩
    obtain ⟨result, rfl, rfl⟩ := Task.ends_background_iff.1 hrun
    exact ⟨result, rfl, rfl⟩
  · rintro ⟨result, rfl, rfl⟩
    exact ⟨_, Task.ends_background_iff.2 ⟨result, rfl, rfl⟩, rfl⟩

/-- The submission of a job is one step. -/
lemma ends_submitJob_iff {h : ClusterHandle} {r : Except DeployError RunningJob} :
    Ends (Rollout.submitJob h job config.askTimeout) course r ↔
      ∃ ending, course = [submission config h job ending] ∧
        r = (Task.settleWithin .submission (some h.applicationId) config.askTimeout
          ending).mapError Rollout.asDeploymentError := by
  unfold Rollout.submitJob
  rw [Dialogue.ends_bind_pure_iff]
  constructor
  · rintro ⟨settled, hrun, rfl⟩
    obtain ⟨ending, rfl, rfl⟩ := Task.ends_bounded_iff.1 hrun
    exact ⟨ending, rfl, rfl⟩
  · rintro ⟨ending, rfl, rfl⟩
    exact ⟨_, Task.ends_bounded_iff.2 ⟨ending, rfl, rfl⟩, rfl⟩

/-- The staging of artifacts is one step. -/
lemma ends_stage_iff {request : DeploymentRequest} {r : Except DeployError Manifest} :
    Ends (Task.stage application config.stagingPrefix request.entries config.replication) course
        r ↔
      ∃ result, course = [staging config request application result] ∧
        r = (result.settle .staging (some application)).mapError Task.asStagingError := by
  unfold Task.stage Task.staging
  rw [Dialogue.ends_bind_pure_iff]
  constructor
  · rintro ⟨settled, hrun, rfl⟩
    obtain ⟨result, rfl, rfl⟩ := Task.ends_background_iff.1 hrun
    exact ⟨result, rfl, rfl⟩
  · rintro ⟨result, rfl, rfl⟩
    exact ⟨_, Task.ends_background_iff.2 ⟨result, rfl, rfl⟩, rfl⟩

/-- The wait for the end of a job is one step. -/
lemma ends_awaitOutcome_iff {h : ClusterHandle} {running : RunningJob}
    {r : Except DeployError JobOutcome} :
    Ends (Watcher.awaitOutcome application running config.resultTimeout (some h)) course r ↔
      ∃ watched, course = [watching config h running watched] ∧
        r = Watcher.outcome application running.id config.resultTimeout watched := by
  unfold Watcher.awaitOutcome
  rw [Dialogue.ends_bind_pure_iff]
  exact exists_congr fun watched => and_congr_left fun _ => Task.ends_ask_iff

variable (job) in
/-- The end of a cluster with a job on it, after the steps that brought it up.

**Proof sketch.** A case for each of the three ways on: the deployment is cancelled, the wait for
the job fails, or it gives an outcome. -/
lemma lived_of_ends_finish {h : ClusterHandle} {ending : Ending RunningJob} {running : RunningJob}
    (hsubmit : (Task.settleWithin .submission (some h.applicationId) config.askTimeout
      ending).mapError Rollout.asDeploymentError = .ok running)
    {result : Except DeployError DeploymentReport}
    (hrun : Ends (finish hasLedger config application m (Supervisor.ofConfig config) ⟨h, running⟩)
      course result) :
    ∃ life last teardown closed, course = life ++ last ∧
      Lived config job application m
        (creation (Launch.request config job m) (.ok h) :: submission config h job ending :: life)
        result (some teardown) ∧
      Ends (record hasLedger application (closing application (some teardown) result)) last
        closed := by
  unfold finish at hrun
  obtain ⟨isCancelled, rest, rfl, hrest⟩ := Dialogue.ends_question_bind_iff.1 hrun
  cases isCancelled with
  | true =>
    obtain ⟨kill, last, teardown, rfl, hkill, habort⟩ := Dialogue.ends_bind_iff.1 hrest
    obtain ⟨rfl, closed, hclosed⟩ := ends_abort_iff.1 habort
    exact ⟨_ :: kill, last, teardown, closed, rfl, .cancelled hsubmit hkill, hclosed⟩
  | false =>
    obtain ⟨c₁, c₂, awaited, rfl, hawait, hrest⟩ := Dialogue.ends_bind_iff.1 hrest
    obtain ⟨watched, rfl, hawaited⟩ := ends_awaitOutcome_iff.1 hawait
    cases awaited with
    | error e =>
      obtain ⟨kill, last, teardown, rfl, hkill, habort⟩ := Dialogue.ends_bind_iff.1 hrest
      obtain ⟨rfl, closed, hclosed⟩ := ends_abort_iff.1 habort
      exact ⟨_ :: _ :: kill, last, teardown, closed, rfl, .unwatched hsubmit hawaited.symm hkill,
        hclosed⟩
    | ok outcome =>
      obtain ⟨conclusion, last, supervision, rfl, hconclude, hrest⟩ :=
        Dialogue.ends_bind_iff.1 hrest
      obtain ⟨last, c₃, closed, rfl, hrecord, hend⟩ := Dialogue.ends_bind_iff.1 hrest
      obtain ⟨rfl, rfl⟩ := Dialogue.ends_pure_iff.1 hend
      exact ⟨_ :: _ :: conclusion, last, supervision, closed, by simp,
        .completed hsubmit hawaited.symm hconclude, hrecord⟩

/-- The courses from the creation of a cluster to the last word about it. -/
lemma lived_of_ends_launch {result : Except DeployError DeploymentReport}
    (hrun : Ends (launch hasLedger config job application m) course result) :
    ∃ life last teardown closed, course = life ++ last ∧
      Lived config job application m life result teardown ∧
      Ends (record hasLedger application (closing application teardown result)) last closed := by
  unfold launch at hrun
  obtain ⟨c₁, c₂, launched, rfl, hrollout, hrest⟩ := Dialogue.ends_bind_iff.1 hrun
  unfold Rollout.launch at hrollout
  obtain ⟨c₃, c₄, created, rfl, hcreate, hsubmission⟩ := Dialogue.ends_bind_iff.1 hrollout
  obtain ⟨creating, rfl, hcreated⟩ := ends_createCluster_iff.1 hcreate
  cases created with
  | error e =>
    obtain ⟨rfl, rfl⟩ := Dialogue.ends_pure_iff.1 hsubmission
    obtain ⟨rfl, closed, hclosed⟩ := ends_abort_iff.1 hrest
    exact ⟨_, c₂, none, closed, rfl, .uncreated hcreated.symm, hclosed⟩
  | ok h =>
    obtain rfl := Task.settle_eq_ok_iff.1 (Task.mapError_eq_ok_iff.1 hcreated.symm)
    obtain ⟨c₅, c₆, submitted, rfl, hsubmit, hlaunched⟩ := Dialogue.ends_bind_iff.1 hsubmission
    obtain ⟨ending, rfl, hsubmitted⟩ := ends_submitJob_iff.1 hsubmit
    cases submitted with
    | error e =>
      obtain ⟨kill, c₇, teardown, rfl, hkill, hend⟩ := Dialogue.ends_bind_iff.1 hlaunched
      obtain ⟨rfl, rfl⟩ := Dialogue.ends_pure_iff.1 hend
      obtain ⟨rfl, closed, hclosed⟩ := ends_abort_iff.1 hrest
      exact ⟨_ :: _ :: kill, c₂, some teardown, closed, by simp,
        .unsubmitted hsubmitted.symm hkill, hclosed⟩
    | ok running =>
      obtain ⟨rfl, rfl⟩ := Dialogue.ends_pure_iff.1 hlaunched
      obtain ⟨life, last, teardown, closed, rfl, hlife, hclosed⟩ :=
        lived_of_ends_finish job hsubmitted.symm hrest
      exact ⟨_ :: _ :: life, last, some teardown, closed, rfl, hlife, hclosed⟩

/-- **Every run of a deployment** is one of the listed courses. -/
lemma ran_of_ends {request : DeploymentRequest} {result : Except DeployError DeploymentReport}
    (hrun : Ends (run hasLedger config request) course result) :
    Ran hasLedger config request course result := by
  unfold run at hrun
  obtain ⟨c₁, c₂, allocated, rfl, hallocate, hrest⟩ := Dialogue.ends_bind_iff.1 hrun
  obtain ⟨ending, rfl, hallocated⟩ := Task.ends_bounded_iff.1 hallocate
  cases allocated with
  | error e =>
    obtain ⟨rfl, rfl⟩ := Dialogue.ends_pure_iff.1 hrest
    exact .unallocated hallocated.symm
  | ok application =>
    obtain ⟨c₃, c₄, staged, rfl, hstage, hlook⟩ := Dialogue.ends_bind_iff.1 hrest
    obtain ⟨staging, rfl, hstaged⟩ := ends_stage_iff.1 hstage
    cases staged with
    | error e =>
      obtain ⟨rfl, rfl⟩ := Dialogue.ends_pure_iff.1 hlook
      exact .unstaged hallocated.symm hstaged.symm
    | ok m =>
      obtain rfl := Task.settle_eq_ok_iff.1 (Task.mapError_eq_ok_iff.1 hstaged.symm)
      obtain ⟨isCancelled, rest, rfl, hopen⟩ := Dialogue.ends_question_bind_iff.1 hlook
      cases isCancelled with
      | true =>
        obtain ⟨rfl, rfl⟩ := Dialogue.ends_pure_iff.1 hopen
        exact .cancelled hallocated.symm
      | false =>
        obtain ⟨opening, c₅, opened, rfl, hrecord, hlaunch⟩ := Dialogue.ends_bind_iff.1 hopen
        cases opened with
        | error e =>
          obtain ⟨rfl, rfl⟩ := Dialogue.ends_pure_iff.1 hlaunch
          rw [List.append_nil]
          exact .unrecorded hallocated.symm hrecord
        | ok _ =>
          obtain ⟨life, last, teardown, closed, rfl, hlife, hclosed⟩ :=
            lived_of_ends_launch hlaunch
          exact .lived hallocated.symm hrecord hlife hclosed

end Deployment

end ClusterDeploy
