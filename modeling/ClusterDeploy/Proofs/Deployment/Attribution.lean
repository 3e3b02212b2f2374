import ClusterDeploy.Platform.Simulated
import ClusterDeploy.Proofs.Deployment.Cleaning
import ClusterDeploy.Proofs.Deployment.Recording
import ClusterDeploy.Proofs.Staging.Failing

set_option relaxedAutoImplicit false
set_option autoImplicit false

/-!
# Where an error comes from

A call of a collaborator that fails at one of the stages of a deployment ends it. The layers between
the call and the caller of the deployment fill in what the failure does not say itself, and some of
them give it another kind. This module says what comes out, for every stage at once.

## Main definitions

* `Platform.Gives` — a platform gives a cluster: the simulated one or a resource manager does.
* `Task.Course.allocated?` — the application id that a deployment was given.
* `Task.Course.knownAt` — the application id that a deployment goes by at a stage.
* `Task.Step.mishap?` — what went wrong in a step.
* `Deployment.Fails` — a call of a collaborator fails at a stage.
* `Deployment.kindAt`, `Deployment.attributed` — what the caller is told of a failure.
* `Deployment.StagesItself` — what a deployment hears of its staging is what comes of it.

## Main results

* `Platform.Gives.applicationId_eq` — a platform gives a cluster of the application that it is told.
* `Deployment.Lived.eq_attributed` — what comes of a failure from the creation of a cluster on.
* `Deployment.run_attributesFailure` — what a deployment gives if a call fails.

## Implementation notes

The failure of the submission names the application of the cluster that the platform gave, and that
of the start the application of the manifest. The latter is the application that was allocated,
because staging works for the application that it is told. Of the former this is known as soon as it
is known which platform gave the cluster: nothing but the platform says which application the
cluster has.
-/

namespace ClusterDeploy

open Dialogue (Ends)

/-- What went wrong with an operation that ended within a limit. -/
def Ending.mishap? {α : Type} (limit : Millis) (ending : Ending α) : Option Mishap :=
  match ending.within limit with
  | some (.error mishap) => some mishap
  | _ => none

/-- Within its limit the operation failed. -/
lemma Ending.mishap?_eq_some_iff {α : Type} {limit : Millis} {ending : Ending α} {mishap : Mishap} :
    ending.mishap? limit = some mishap ↔ ending.within limit = some (.error mishap) := by
  unfold mishap?
  rcases ending.within limit with _ | ⟨_ | _⟩ <;> simp

/-! ## Platforms -/

/-- A platform is asked for a cluster and gives one. It may be a simulated platform, in whatever
state it is, or a resource manager, whatever is said with it. -/
inductive Platform.Gives (request : ClusterRequest) (h : ClusterHandle) : Prop where
  | simulated (p : SimulatedPlatform) :
    (p.answer (.createCluster request)).1 = .ok h → Gives request h
  | managed (rm : ResourceManager) (said : Http.Conversation) :
    Ends (rm.answer (.createCluster request)).run said (.ok h) → Gives request h

/-- A simulated platform gives a cluster of the application that it is told. -/
lemma SimulatedPlatform.applicationId_of_createCluster {p : SimulatedPlatform}
    {request : ClusterRequest} {h : ClusterHandle} (hgives : (p.createCluster request).1 = .ok h) :
    h.applicationId = request.applicationId := by
  simp only [createCluster] at hgives
  split at hgives
  · exact nomatch hgives
  · exact nomatch hgives
  · exact congrArg ClusterHandle.applicationId (Except.ok.inj hgives).symm

/-- **A platform gives a cluster of the application that it is told.** -/
lemma Platform.Gives.applicationId_eq {request : ClusterRequest} {h : ClusterHandle}
    (hgives : Gives request h) : h.applicationId = request.applicationId := by
  cases hgives with
  | simulated p hanswer => exact SimulatedPlatform.applicationId_of_createCluster hanswer
  | managed rm said hrun => exact ResourceManager.applicationId_of_ends_createCluster hrun

namespace Task

/-- The application id that a step gave, in time. -/
def Step.allocated? : Step → Option ApplicationId
  | ⟨.bounded (.platform .newApplication) limit _, ending⟩ =>
    match ending.within limit with
    | some (.ok application) => some application
    | _ => none
  | _ => none

/-- The application id that a deployment was given, if it was. -/
def Course.allocated? (c : Course) : Option ApplicationId :=
  c.findSome? Step.allocated?

/-- The application id that a deployment goes by at a stage, where it was given one: at the
submission of its job it is that of the cluster that was created, and else the one that was given.
-/
def Course.knownAt (c : Course) (application : Option ApplicationId) : Stage → Option ApplicationId
  | .submission => c.handles.head?.map (·.applicationId)
  | _ => application

/-- What went wrong in a step, and the stage of a deployment at which this is. -/
def Step.mishap? : Step → Option (Stage × Mishap)
  | ⟨.bounded (.platform .newApplication) limit _, ending⟩ =>
    (ending.mishap? limit).map (.allocation, ·)
  | ⟨.background (.stage _ _ _ _) _, .error mishap⟩ => some (.staging, mishap)
  | ⟨.background (.ledger (.recordStarted _ _)) _, .error mishap⟩ => some (.ledger, mishap)
  | ⟨.background (.platform (.createCluster _)) _, .error mishap⟩ => some (.clusterCreation, mishap)
  | ⟨.bounded (.platform (.submitJob _ _)) limit _, ending⟩ =>
    (ending.mishap? limit).map (.submission, ·)
  | ⟨.watch _ _ _, .resolved (.error e)⟩ => some (.resultWait, .failed e)
  | _ => none

end Task

namespace Deployment

section Attribution

variable {hasLedger : Bool} {config : Config} {request : DeploymentRequest} {job : Job}
  {application : ApplicationId} {m : Manifest} {course : Task.Course} {x : Task.Step}
  {result : Except DeployError DeploymentReport} {teardown : Option SupervisionReport}
  {stage : Stage} {mishap : Mishap}

/-! ## What the caller is told -/

/-- The kind of a failure at a stage, as the caller of a deployment sees it. -/
def kindAt : Stage → ErrorKind → ErrorKind
  | .staging, .storageFailure => .staging
  | .clusterCreation, .internal => .internal
  | .clusterCreation, .cancelled => .cancelled
  | .clusterCreation, _ => .deployment
  | .submission, .internal => .internal
  | .submission, .cancelled => .cancelled
  | .submission, _ => .deployment
  | _, kind => kind

/-- What the caller of a deployment is told of a failure at a stage. -/
def attributed (stage : Stage) (application : Option ApplicationId) : Mishap → DeployError
  | .failed e =>
    ⟨e.application.or application, e.stage.or (some stage), kindAt stage e.kind, e.message⟩
  | .died => Attempt.deathError stage application

/-- A layer that gives a failure the kind of its stage. -/
lemma mapError_settle {α : Type} {application : Option ApplicationId}
    {f : DeployError → DeployError} (hf : ∀ e, f e = { e with kind := kindAt stage e.kind }) :
    (Attempt.settle stage application (.error mishap) : Except DeployError α).mapError f =
      .error (attributed stage application mishap) := by
  have hinternal : kindAt stage .internal = .internal := by cases stage <;> rfl
  cases mishap with
  | failed e => exact congrArg Except.error (hf _)
  | died =>
    refine congrArg Except.error ((hf _).trans ?_)
    rw [show (Attempt.deathError stage application).kind = .internal from rfl, hinternal]
    rfl

/-- A failure that no layer gives another kind. -/
lemma settle_of_kindAt {α : Type} {application : Option ApplicationId}
    (hkind : ∀ kind, kindAt stage kind = kind) :
    (Attempt.settle stage application (.error mishap) : Except DeployError α) =
      .error (attributed stage application mishap) := by
  rw [← mapError_settle (f := id) fun e => by rw [hkind]; rfl]
  cases mishap <;> rfl

/-- Staging gives a failure the kind of its stage. -/
lemma asStagingError_eq (e : DeployError) :
    Task.asStagingError e = { e with kind := kindAt .staging e.kind } := by
  obtain ⟨_, _, kind, _⟩ := e
  cases kind <;> rfl

/-- The creation of a cluster and the submission of a job give a failure the kind of their stage. -/
lemma asDeploymentError_eq (e : DeployError)
    (hstage : stage = .clusterCreation ∨ stage = .submission) :
    Rollout.asDeploymentError e = { e with kind := kindAt stage e.kind } := by
  obtain ⟨_, _, kind, _⟩ := e
  rcases hstage with rfl | rfl <;> cases kind <;> rfl

/-- Within its limit an operation fails like one without. -/
lemma settleWithin_of_mishap {α : Type} {application : Option ApplicationId} {limit : Millis}
    {ending : Ending α} (hmishap : ending.mishap? limit = some mishap) :
    Task.settleWithin stage application limit ending =
      Attempt.settle stage application (.error mishap) := by
  rw [Task.settleWithin, Ending.mishap?_eq_some_iff.1 hmishap]

/-- An operation that gave a value in time did not fail. -/
lemma mishap?_of_settleWithin {α : Type} {application : Option ApplicationId} {limit : Millis}
    {ending : Ending α} {a : α}
    (hvalue : Task.settleWithin stage application limit ending = .ok a) :
    ending.mishap? limit = none := by
  rw [Ending.mishap?, Task.settleWithin_eq_ok_iff.1 hvalue]

/-! ## Calls that fail -/

/-- A call of a collaborator fails at a stage: a step of the deployment, or a call of the storage
that staging makes. -/
inductive Fails (config : Config) (request : DeploymentRequest) (course : Task.Course) :
    Stage → Mishap → Prop where
  | step {x : Task.Step} {stage : Stage} {mishap : Mishap} :
    x ∈ course → x.mishap? = some (stage, mishap) → Fails config request course stage mishap
  | storage {application : ApplicationId} {result : Attempt Manifest} {call : Storage.Call}
      {asked : List (Dialogue.Exchange Work.Question Work.Answer)} {mishap : Mishap} :
    staging config request application result ∈ course →
    Ends (Staging.stage application config.stagingPrefix request.entries config.replication).run
      asked result →
    ⟨.storage call, .error mishap⟩ ∈ asked → Fails config request course .staging mishap

/-- A call of the storage that fails makes staging fail. -/
lemma Fails.exists_step (h : Fails config request course stage mishap) :
    ∃ x ∈ course, x.mishap? = some (stage, mishap) := by
  cases h with
  | step hx hfails => exact ⟨_, hx, hfails⟩
  | storage hmem hrun hfails =>
    obtain rfl := Staging.eq_of_storage_failed hrun hfails
    exact ⟨_, hmem, rfl⟩

/-- What a deployment hears of its staging is what comes of it, whatever the storage answers. -/
def StagesItself (config : Config) (request : DeploymentRequest) (course : Task.Course) : Prop :=
  ∀ {application : ApplicationId} {result : Attempt Manifest},
    staging config request application result ∈ course → ∃ asked,
      Ends (Staging.stage application config.stagingPrefix request.entries config.replication).run
        asked result

/-! ## Steps that fail -/

/-- A bounded step that went wrong at its stage. -/
private lemma eq_of_map_mishap? {α : Type} {limit : Millis} {ending : Ending α} {at_ : Stage}
    (hfails : (ending.mishap? limit).map (at_, ·) = some (stage, mishap)) :
    at_ = stage ∧ ending.mishap? limit = some mishap := by
  obtain ⟨mishap', hmishap, hpair⟩ := Option.map_eq_some_iff.1 hfails
  obtain ⟨rfl, rfl⟩ := Prod.mk.inj hpair
  exact ⟨rfl, hmishap⟩

/-- What is given if no application id is allocated. -/
lemma eq_attributed_of_allocation {ending : Ending ApplicationId} {e : DeployError}
    (hresult : Task.settleWithin .allocation none config.askTimeout ending = .error e)
    (hfails : (allocation config ending).mishap? = some (stage, mishap)) :
    stage = .allocation ∧ e = attributed stage none mishap := by
  obtain ⟨rfl, hmishap⟩ := eq_of_map_mishap? hfails
  rw [settleWithin_of_mishap hmishap, settle_of_kindAt fun _ => rfl] at hresult
  exact ⟨rfl, (Except.error.inj hresult).symm⟩

/-- What is given if staging fails. -/
lemma eq_attributed_of_staging {staged : Attempt Manifest} {e : DeployError}
    (hresult : (staged.settle .staging (some application)).mapError Task.asStagingError = .error e)
    (hfails : (staging config request application staged).mishap? = some (stage, mishap)) :
    stage = .staging ∧ e = attributed stage (some application) mishap := by
  cases staged with
  | ok m => exact nomatch hfails
  | error mishap' =>
    obtain ⟨rfl, rfl⟩ := Prod.mk.inj (Option.some.inj hfails)
    rw [mapError_settle asStagingError_eq] at hresult
    exact ⟨rfl, (Except.error.inj hresult).symm⟩

/-- What is given if the start cannot be recorded. -/
lemma eq_attributed_of_recording {name : String} {answer : Attempt Unit} {e : DeployError}
    {id : Option ApplicationId}
    (hresult : (Attempt.settle .ledger id answer).map (fun _ => ()) = .error e)
    (hfails : (recording (.recordStarted name m) answer).mishap? = some (stage, mishap)) :
    stage = .ledger ∧ e = attributed stage id mishap := by
  cases answer with
  | ok u => exact nomatch hfails
  | error mishap' =>
    obtain ⟨rfl, rfl⟩ := Prod.mk.inj (Option.some.inj hfails)
    rw [settle_of_kindAt fun _ => rfl] at hresult
    exact ⟨rfl, (Except.error.inj hresult).symm⟩

/-- What is given if the cluster cannot be created. -/
lemma eq_attributed_of_creation {cluster : ClusterRequest} {created : Attempt ClusterHandle}
    {e : DeployError} {id : Option ApplicationId}
    (hresult : (created.settle .clusterCreation id).mapError Rollout.asDeploymentError = .error e)
    (hfails : (creation cluster created).mishap? = some (stage, mishap)) :
    stage = .clusterCreation ∧ e = attributed stage id mishap := by
  cases created with
  | ok h => exact nomatch hfails
  | error mishap' =>
    obtain ⟨rfl, rfl⟩ := Prod.mk.inj (Option.some.inj hfails)
    rw [mapError_settle fun e => asDeploymentError_eq e (.inl rfl)] at hresult
    exact ⟨rfl, (Except.error.inj hresult).symm⟩

/-- What is given if the job cannot be submitted. -/
lemma eq_attributed_of_submission {h : ClusterHandle} {ending : Ending RunningJob}
    {e : DeployError} {id : Option ApplicationId}
    (hresult : (Task.settleWithin .submission id config.askTimeout ending).mapError
      Rollout.asDeploymentError = .error e)
    (hfails : (submission config h job ending).mishap? = some (stage, mishap)) :
    stage = .submission ∧ e = attributed stage id mishap := by
  obtain ⟨rfl, hmishap⟩ := eq_of_map_mishap? hfails
  rw [settleWithin_of_mishap hmishap,
    mapError_settle fun e => asDeploymentError_eq e (.inr rfl)] at hresult
  exact ⟨rfl, (Except.error.inj hresult).symm⟩

/-- A job that was submitted in time. -/
lemma mishap?_submission_of_ok {h : ClusterHandle} {ending : Ending RunningJob}
    {running : RunningJob} {id : Option ApplicationId}
    (hresult : (Task.settleWithin .submission id config.askTimeout ending).mapError
      Rollout.asDeploymentError = .ok running) :
    (submission config h job ending).mishap? = none := by
  change (ending.mishap? config.askTimeout).map _ = none
  rw [mishap?_of_settleWithin (Task.mapError_eq_ok_iff.1 hresult)]
  rfl

/-- What is given if the wait for a job fails. -/
lemma eq_attributed_of_watching {h : ClusterHandle} {running : RunningJob} {watched : Watched}
    {outcome : Except DeployError JobOutcome} {jobId : String}
    (hresult : Watcher.outcome application jobId config.resultTimeout watched = outcome)
    (hfails : (watching config h running watched).mishap? = some (stage, mishap)) :
    stage = .resultWait ∧ outcome = .error (attributed stage (some application) mishap) := by
  rcases watched with _ | _ | (e | outcome')
  · exact nomatch hfails
  · exact nomatch hfails
  · obtain ⟨rfl, rfl⟩ := Prod.mk.inj (Option.some.inj hfails)
    exact ⟨rfl, hresult.symm⟩
  · exact nomatch hfails

/-! ## The ways in which a deployment ends -/

/-- Nothing goes wrong at a stage of the deployment while its cluster is killed. -/
lemma mishap?_of_ends_terminateNow {s : Supervisor} {h : ClusterHandle} {kill : Task.Course}
    {report : SupervisionReport} (hrun : Ends (s.terminateNow h) kill report) :
    ∀ x ∈ kill, Task.Step.mishap? x = none :=
  Supervisor.forall_mem_of_ends_terminateNow (p := fun x => x.mishap? = none) (fun _ => rfl) rfl
    hrun

/-- Nor while its end is waited for. -/
lemma mishap?_of_ends_conclude {s : Supervisor} {h : ClusterHandle} {conclusion : Task.Course}
    {report : SupervisionReport} (hrun : Ends (s.conclude h) conclusion report) :
    ∀ x ∈ conclusion, Task.Step.mishap? x = none :=
  Supervisor.forall_mem_of_ends_conclude (p := fun x => x.mishap? = none) (fun _ _ => rfl)
    (fun _ => rfl) (fun _ => rfl) rfl hrun

/-- From the creation of a cluster to its end: what a deployment gives if a step fails.

**Proof sketch.** A case for each way on. In each of them one step may fail, and then this is the
way; the steps of the teardown are at no stage of the deployment. -/
lemma Lived.eq_attributed (hlife : Lived config job application m course result teardown)
    (hid : m.applicationId = application) (hx : x ∈ course)
    (hfails : x.mishap? = some (stage, mishap)) :
    result = .error (attributed stage (course.knownAt (some application) stage) mishap) := by
  have hnot : x.mishap? ≠ none := by simp [hfails]
  subst hid
  cases hlife with
  | uncreated hcreated =>
    obtain rfl := List.mem_singleton.1 hx
    obtain ⟨rfl, hattributed⟩ := eq_attributed_of_creation hcreated hfails
    rw [hattributed]
    rfl
  | unsubmitted hsubmitted hkill =>
    simp only [List.mem_cons] at hx
    rcases hx with rfl | rfl | hx
    · exact absurd rfl hnot
    · obtain ⟨rfl, hattributed⟩ := eq_attributed_of_submission hsubmitted hfails
      rw [hattributed]
      rfl
    · exact absurd (mishap?_of_ends_terminateNow hkill x hx) hnot
  | cancelled hsubmitted hkill =>
    simp only [List.mem_cons] at hx
    rcases hx with rfl | rfl | rfl | hx
    · exact absurd rfl hnot
    · exact absurd (mishap?_submission_of_ok hsubmitted) hnot
    · exact absurd rfl hnot
    · exact absurd (mishap?_of_ends_terminateNow hkill x hx) hnot
  | unwatched hsubmitted hwatched hkill =>
    simp only [List.mem_cons] at hx
    rcases hx with rfl | rfl | rfl | rfl | hx
    · exact absurd rfl hnot
    · exact absurd (mishap?_submission_of_ok hsubmitted) hnot
    · exact absurd rfl hnot
    · obtain ⟨rfl, hattributed⟩ := eq_attributed_of_watching hwatched hfails
      rw [Except.error.inj hattributed]
      rfl
    · exact absurd (mishap?_of_ends_terminateNow hkill x hx) hnot
  | completed hsubmitted hwatched hconclude =>
    simp only [List.mem_cons] at hx
    rcases hx with rfl | rfl | rfl | rfl | hx
    · exact absurd rfl hnot
    · exact absurd (mishap?_submission_of_ok hsubmitted) hnot
    · exact absurd rfl hnot
    · exact nomatch (eq_attributed_of_watching hwatched hfails).2
    · exact absurd (mishap?_of_ends_conclude hconclude x hx) hnot

/-- A deployment goes by the application id that it was given all the time, if it is a platform that
gave it its cluster. -/
lemma Lived.knownAt_eq (hlife : Lived config job application m course result teardown)
    (hid : m.applicationId = application)
    (hgives : ∀ cluster h, creation cluster (.ok h) ∈ course → Platform.Gives cluster h)
    (hx : x ∈ course) (hfails : x.mishap? = some (stage, mishap)) :
    course.knownAt (some application) stage = some application := by
  subst hid
  have hcreated : ∀ {h : ClusterHandle} {rest : Task.Course},
      course = creation (Launch.request config job m) (.ok h) :: rest →
        course.knownAt (some m.applicationId) stage = some m.applicationId := by
    rintro h rest rfl
    have hname : h.applicationId = m.applicationId :=
      (hgives _ h List.mem_cons_self).applicationId_eq
    cases stage with
    | submission => exact congrArg some hname
    | _ => rfl
  cases hlife with
  | uncreated hfailed =>
    obtain rfl := List.mem_singleton.1 hx
    obtain ⟨rfl, -⟩ := eq_attributed_of_creation hfailed hfails
    rfl
  | _ => exact hcreated rfl

/-- The application id that a deployment was given. -/
lemma allocated?_cons {ending : Ending ApplicationId} {id : Option ApplicationId}
    (hallocated : Task.settleWithin .allocation id config.askTimeout ending = .ok application) :
    Task.Course.allocated? (allocation config ending :: course) = some application := by
  have hfirst : (allocation config ending).allocated? = some application := by
    simp only [Task.Step.allocated?, Task.settleWithin_eq_ok_iff.1 hallocated]
  rw [Task.Course.allocated?, List.findSome?_cons, hfirst]

/-- Nothing went wrong when the application id was given. -/
lemma mishap?_allocation_of_ok {ending : Ending ApplicationId} {id : Option ApplicationId}
    (hallocated : Task.settleWithin .allocation id config.askTimeout ending = .ok application) :
    (allocation config ending).mishap? = none := by
  change (ending.mishap? config.askTimeout).map _ = none
  rw [mishap?_of_settleWithin hallocated]
  rfl

/-- There is no application id if the request for one failed. -/
lemma allocated?_of_error {ending : Ending ApplicationId} {id : Option ApplicationId}
    {e : DeployError}
    (hfailed : Task.settleWithin .allocation id config.askTimeout ending = .error e) :
    Task.Course.allocated? [allocation config ending] = none := by
  have hfirst : (allocation config ending).allocated? = none := by
    unfold Task.settleWithin at hfailed
    simp only [Task.Step.allocated?]
    rcases hwithin : ending.within config.askTimeout with _ | (mishap | application)
    · rfl
    · rfl
    · rw [hwithin] at hfailed
      exact nomatch hfailed
  rw [Task.Course.allocated?, List.findSome?_cons, hfirst]
  rfl

/-- The clusters that a deployment goes by are those of its course. -/
lemma knownAt_congr {other : Task.Course} {id : Option ApplicationId}
    (hhandles : course.handles = other.handles) :
    course.knownAt id stage = other.knownAt id stage := by
  cases stage with
  | submission => exact congrArg (fun handles => handles.head?.map (·.applicationId)) hhandles
  | _ => rfl

/-- The records of a deployment create no cluster. -/
lemma handles_lived {ending : Ending ApplicationId} {opening life last : Task.Course}
    {id id' : ApplicationId} {call call' : Ledger.Call} {closed : Except DeployError Unit}
    (hopened : Ends (record hasLedger id call) opening (.ok ()))
    (hclosed : Ends (record hasLedger id' call') last closed) :
    Task.Course.handles (allocation config ending :: staging config request application (.ok m) ::
      cancellation false :: (opening ++ (life ++ last))) = life.handles := by
  have hrecord : ∀ {id : ApplicationId} {call : Ledger.Call} {c : Task.Course}
      {r : Except DeployError Unit}, Ends (record hasLedger id call) c r → c.handles = [] := by
    intro id call c r hrun
    refine List.filterMap_eq_nil_iff.2 fun x hx => ?_
    obtain ⟨answer, rfl⟩ := exists_answer_of_mem_record hrun hx
    rfl
  rw [handles_prologue, Task.Course.handles_append, Task.Course.handles_append, hrecord hopened,
    hrecord hclosed, List.nil_append, List.append_nil]

/-- The record of the end of a deployment is at no stage of it. -/
lemma mishap?_closing {answer : Attempt (closing application teardown result).Value} :
    (recording (closing application teardown result) answer).mishap? = none := by
  cases result <;> rfl

end Attribution

/-- **Where an error comes from.** If a call of a collaborator fails at one of the stages of a
deployment, then the deployment gives this failure, whatever comes of the teardown and of the record
of its end. The message is that of the failure. The application and the stage are its own, if it
names them, and else the stage and the application id that the deployment goes by at this stage.
With a platform that gives clusters as the simulated one or a resource manager does, this is the
application id that the deployment was given. The kind is that of the failure but for the storage
while staging and for the platform while the cluster is brought up. A call that dies is an internal
failure of the stage.

**Proof sketch.** A case for each way in which a deployment ends (`ran_of_ends`), and for each step
on it. At most one step of each can have failed at a stage, and what the deployment then gives is
the failure as seen through the layers of this stage. Only the submission of the job knows the
application from the cluster, and platforms give clusters of the application that they are told. -/
theorem run_attributesFailure (hasLedger : Bool) (config : Config) (request : DeploymentRequest)
    (course : Task.Course) (result : Except DeployError DeploymentReport)
    (hrun : Ends (run hasLedger config request) course result)
    (hstages : StagesItself config request course) (stage : Stage) (mishap : Mishap)
    (hfails : Fails config request course stage mishap) :
    result = .error (attributed stage (course.knownAt course.allocated? stage) mishap) ∧
      ((∀ cluster h, creation cluster (.ok h) ∈ course → Platform.Gives cluster h) →
        result = .error (attributed stage course.allocated? mishap)) := by
  obtain ⟨x, hx, hmishap⟩ := hfails.exists_step
  have hnot : x.mishap? ≠ none := by simp [hmishap]
  have hid : ∀ {application m}, staging config request application (.ok m) ∈ course →
      m.applicationId = application := by
    intro application m hmem
    obtain ⟨asked, hstaged⟩ := hstages hmem
    exact Staging.applicationId_of_ends_stage hstaged
  -- before the submission the application id is the one that was given
  have hearly {P : Prop} (hknown : course.knownAt course.allocated? stage = course.allocated?)
      (hresult : result = .error (attributed stage course.allocated? mishap)) :
      result = .error (attributed stage (course.knownAt course.allocated? stage) mishap) ∧
        (P → result = .error (attributed stage course.allocated? mishap)) :=
    ⟨hknown.symm ▸ hresult, fun _ => hresult⟩
  cases ran_of_ends hrun with
  | unallocated hfailed =>
    obtain rfl := List.mem_singleton.1 hx
    obtain ⟨rfl, rfl⟩ := eq_attributed_of_allocation hfailed hmishap
    exact hearly rfl (by rw [allocated?_of_error hfailed])
  | unstaged hallocated hfailed =>
    simp only [List.mem_cons, List.not_mem_nil, or_false] at hx
    rcases hx with rfl | rfl
    · exact absurd (mishap?_allocation_of_ok hallocated) hnot
    · obtain ⟨rfl, rfl⟩ := eq_attributed_of_staging hfailed hmishap
      exact hearly rfl (by rw [allocated?_cons hallocated])
  | cancelled hallocated =>
    simp only [List.mem_cons, List.not_mem_nil, or_false] at hx
    rcases hx with rfl | rfl | rfl
    · exact absurd (mishap?_allocation_of_ok hallocated) hnot
    · exact absurd rfl hnot
    · exact absurd rfl hnot
  | unrecorded hallocated hopened =>
    cases hasLedger with
    | false => exact nomatch (ends_record_false_iff.1 hopened).2
    | true =>
      obtain ⟨answer, rfl, hfailed⟩ := ends_record_true_iff.1 hopened
      rw [hid (List.mem_cons_of_mem _ List.mem_cons_self)] at hfailed
      simp only [List.mem_cons, List.not_mem_nil, or_false] at hx
      rcases hx with rfl | rfl | rfl | rfl
      · exact absurd (mishap?_allocation_of_ok hallocated) hnot
      · exact absurd rfl hnot
      · exact absurd rfl hnot
      · obtain ⟨rfl, rfl⟩ := eq_attributed_of_recording hfailed.symm hmishap
        exact hearly rfl (by rw [allocated?_cons hallocated])
  | @lived _ application m opening life last _ _ _ hallocated hopened hlife hclosed =>
    have hid : m.applicationId = application := hid (by simp)
    rw [allocated?_cons hallocated]
    simp only [List.mem_cons, List.mem_append] at hx
    rcases hx with rfl | rfl | rfl | hx | hx | hx
    · exact absurd (mishap?_allocation_of_ok hallocated) hnot
    · exact absurd rfl hnot
    · exact absurd rfl hnot
    · obtain ⟨value, rfl⟩ := exists_value_of_mem_record hopened hx
      exact absurd rfl hnot
    · rw [knownAt_congr (handles_lived hopened hclosed)]
      refine ⟨hlife.eq_attributed hid hx hmishap, fun hgives => ?_⟩
      rw [hlife.eq_attributed hid hx hmishap, hlife.knownAt_eq hid (fun _ _ hmem => ?_) hx hmishap]
      exact hgives _ _ (by simp [hmem])
    · obtain ⟨answer, rfl⟩ := exists_answer_of_mem_record hclosed hx
      exact absurd mishap?_closing hnot

open Runtime.Leftover (application manifest request)

/-- A job that is refused by a simulated platform; then the cluster cannot be killed, and the ledger
dies when it is told. -/
theorem run_attributesFailure_of_refused :
    let script : PlatformScript :=
      { PlatformScript.default with rejectSubmissions := some "refused" }
    let platform := (SimulatedPlatform.start 1 script).allocate.2
    let refusal : DeployError := SimulatedPlatform.failure application "refused"
    let h : ClusterHandle := ⟨application, s!"memory://{application.display}"⟩
    let s : Supervisor := .ofConfig .default
    let teardown := s.verdict h (.ended 1 (.error .died))
    let result : DeployError := ⟨some application, some .submission, .deployment, "refused"⟩
    let course : Task.Course :=
      [allocation .default (.ended 1 (.ok application)),
        staging .default request application (.ok manifest), cancellation false,
        recording (.recordStarted request.job.name manifest) (.ok ()),
        creation (Launch.request .default request.job manifest) (.ok h),
        submission .default h request.job (.ended 1 (.error (.failed refusal))),
        s.killed h (.ended 1 (.error .died)), Supervisor.released h,
        recording (.recordAborted application result (some teardown.1) teardown.2) (.error .died)]
    Ends (run true .default request) course (.error result) ∧
      StagesItself .default request course ∧
      Fails .default request course .submission (.failed refusal) ∧
      (platform.createCluster (Launch.request .default request.job manifest)).1 = .ok h ∧
      .error result = (.error (attributed .submission course.allocated? (.failed refusal)) :
        Except DeployError DeploymentReport) := by
  intro script platform refusal h s teardown result course
  have hrun : Ends (run true .default request) course (.error result) :=
    .ask (.ask (.ask (.ask (.ask (.ask (.ask (.ask (.ask (.done _)))))))))
  have hstages : StagesItself .default request course := by
    intro id staged hmem
    obtain ⟨rfl, rfl⟩ : id = application ∧ staged = .ok manifest := by simpa [course] using hmem
    exact ⟨_, Runtime.Leftover.ends_staging⟩
  have hfails : Fails .default request course .submission (.failed refusal) :=
    .step (x := submission .default h request.job (.ended 1 (.error (.failed refusal))))
      (by simp [course]) rfl
  have hcreated : (platform.createCluster (Launch.request .default request.job manifest)).1 =
      .ok h := rfl
  obtain ⟨-, hgiven⟩ := run_attributesFailure true .default request course (.error result) hrun
    hstages .submission (.failed refusal) hfails
  refine ⟨hrun, hstages, hfails, hcreated, hgiven fun cluster h' hmem => ?_⟩
  obtain ⟨rfl, rfl⟩ : cluster = Launch.request .default request.job manifest ∧ h' = h := by
    simpa [course] using hmem
  exact .simulated platform hcreated

end Deployment

end ClusterDeploy
