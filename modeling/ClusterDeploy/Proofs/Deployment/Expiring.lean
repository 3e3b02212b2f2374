import Mathlib.Tactic.Set
import ClusterDeploy.Proofs.Deployment.Cancelling

set_option relaxedAutoImplicit false
set_option autoImplicit false

/-!
# Calls that outlive the ask timeout

Before there is an outcome, a deployment waits for two calls to the platform no longer than its ask
timeout: the reservation of an application id, and the submission of its job. Either of them that
takes longer ends the deployment. A cluster is killed and released then; and a submission that is
too late is a failure of the deployment, but a reservation that is too late stays a timeout. The
creation of a cluster has no such limit.

## Main definitions

* `Deployment.isLimited` — the calls that have the limit.
* `Deployment.GivesUp` — how a deployment ends after one of them was too late.

## Main results

* `Deployment.givesUp_of_ends` — every deployment with a call that was too late ends like this.
* `Deployment.run_expired` — whatever takes however long.

## Implementation notes

A deployment in time is followed up to any question that it asks (`Task.Replied`,
`Dialogue.Reaches`). So what is said of the question does not presume that the deployment comes to
an end, which is part of what is shown.
-/

namespace ClusterDeploy

open Rehearsal (Call)

namespace Ending

variable {α : Type} {limit : Millis} {ending : Ending α}

/-- Somebody who waits no longer than a limit waits in vain for what takes as long, or forever. -/
lemma within_eq_none_iff :
    ending.within limit = none ↔ ∀ took result, ending = .ended took result → limit ≤ took := by
  cases ending with
  | endless => exact iff_of_true rfl nofun
  | ended took result => simp [within]

/-- Who waits in vain waits up to the limit. -/
lemma elapsed_of_within_eq_none (hlate : ending.within limit = none) :
    ending.elapsed limit = limit := by
  cases ending with
  | endless => rfl
  | ended took result => exact Nat.min_eq_right (within_eq_none_iff.1 hlate took result rfl)

end Ending

namespace Deployment

open Dialogue (Ends Reaches)

/-- Whether a deployment waits for a call no longer than its ask timeout, before there is an
outcome. -/
def isLimited : Platform.Call → Bool
  | .newApplication => true
  | .submitJob _ _ => true
  | _ => false

/-- How a deployment ends after a call was too late. -/
inductive GivesUp (config : Config) : Platform.Call → Task.Course → DeployError → Prop where
  /-- Nothing else was called. The failure is a timeout. -/
  | allocation {ending : Ending ApplicationId} :
    GivesUp config .newApplication [allocation config ending]
      ⟨none, some .allocation, .timeout,
        s!"{Stage.allocation.name} did not complete within {config.askTimeout}ms"⟩
  /-- The cluster was killed once and its connection closed once. The failure is one of the
  deployment. -/
  | submission {h : ClusterHandle} {job : Job} {course : Task.Course} :
    course.handles = [h] → Call.kills course.calls = [h] → Call.releases course.calls = [h] →
    GivesUp config (.submitJob h job) course
      ⟨some h.applicationId, some .submission, .deployment,
        s!"{Stage.submission.name} did not complete within {config.askTimeout}ms"⟩

variable {hasLedger : Bool} {config : Config} {request : DeploymentRequest} {job : Job}
  {application : ApplicationId} {m : Manifest} {course : Task.Course}
  {result : Except DeployError DeploymentReport} {teardown : Option SupervisionReport}
  {x : Task.Step} {call : Platform.Call}

/-- A failure as a deployment says it is the deployment's unless it waited for something else. -/
lemma GivesUp.kind_eq_deployment_iff {e : DeployError} (hfailed : GivesUp config call course e) :
    e.kind = .deployment ↔ call ≠ .newApplication := by
  cases hfailed <;> simp

/-! ## How calls are waited for -/

/-- How a deployment waits for a call, if a step is one: the creation of a cluster takes its time,
and the limit of other calls before there is an outcome is the ask timeout. -/
structure Awaits (config : Config) (x : Task.Step) : Prop where
  limited : ∀ call, x.question.operation? = some (.platform call) → isLimited call = true →
    ∃ held, x.question = .bounded (.platform call) config.askTimeout held
  unlimited : ∀ request, x.question.operation? = some (.platform (.createCluster request)) →
    x.question = .background (.platform (.createCluster request)) none

/-- What is neither a limited call nor the creation of a cluster. -/
private lemma awaits_of_forall
    (hother : ∀ call, x.question.operation? = some (.platform call) →
      isLimited call = false ∧ ∀ request, call ≠ .createCluster request) : Awaits config x :=
  ⟨fun call hcall hlimited => absurd (hlimited.symm.trans (hother call hcall).1) Bool.noConfusion,
    fun request hcall => absurd rfl ((hother _ hcall).2 request)⟩

/-- The limit of the allocation of an id is the ask timeout. -/
private lemma awaits_allocation {ending : Ending ApplicationId} :
    Awaits config (allocation config ending) := by
  constructor <;> simp

/-- The creation of a cluster takes its time. -/
private lemma awaits_creation {request : ClusterRequest} {created : Attempt ClusterHandle} :
    Awaits config (creation request created) := by
  constructor <;> simp [isLimited]

/-- The limit of the submission of a job is the ask timeout. -/
private lemma awaits_submission {h : ClusterHandle} {ending : Ending RunningJob} :
    Awaits config (submission config h job ending) := by
  constructor <;> simp

/-- Nothing that is recorded is a call to the platform. -/
private lemma awaits_of_ends_record {call : Ledger.Call} {r : Except DeployError Unit}
    (hrun : Ends (record hasLedger application call) course r) : ∀ x ∈ course, Awaits config x := by
  intro x hx
  obtain ⟨answer, rfl⟩ := exists_answer_of_mem_record hrun hx
  exact awaits_of_forall nofun

/-- No call with which a cluster is killed is limited by the ask timeout. -/
private lemma awaits_of_ends_terminateNow {s : Supervisor} {h : ClusterHandle}
    {report : SupervisionReport} (hrun : Ends (s.terminateNow h) course report) :
    ∀ x ∈ course, Awaits config x :=
  Supervisor.forall_mem_of_ends_terminateNow
    (fun _ => awaits_of_forall (by simp [isLimited])) (awaits_of_forall (by simp)) hrun

/-- No call with which the end of a cluster is awaited is limited by the ask timeout. -/
private lemma awaits_of_ends_conclude {s : Supervisor} {h : ClusterHandle}
    {report : SupervisionReport} (hrun : Ends (s.conclude h) course report) :
    ∀ x ∈ course, Awaits config x :=
  Supervisor.forall_mem_of_ends_conclude
    (fun _ _ => awaits_of_forall (by simp [isLimited])) (fun _ => awaits_of_forall (by simp))
    (fun _ => awaits_of_forall (by simp [isLimited])) (awaits_of_forall (by simp)) hrun

/-- Every step from the creation of a cluster on waits as is said. -/
private lemma awaits_of_lived (hlife : Lived config job application m course result teardown) :
    ∀ x ∈ course, Awaits config x := by
  have hlook : ∀ {cancelled : Bool}, Awaits config (cancellation cancelled) :=
    awaits_of_forall nofun
  have hwatch : ∀ {h : ClusterHandle} {running : RunningJob} {watched : Watched},
      Awaits config (watching config h running watched) := awaits_of_forall nofun
  cases hlife with
  | uncreated _ => exact List.forall_mem_singleton.2 awaits_creation
  | unsubmitted _ hkill =>
    simp only [List.forall_mem_cons]
    exact ⟨awaits_creation, awaits_submission, awaits_of_ends_terminateNow hkill⟩
  | cancelled _ hkill =>
    simp only [List.forall_mem_cons]
    exact ⟨awaits_creation, awaits_submission, hlook, awaits_of_ends_terminateNow hkill⟩
  | unwatched _ _ hkill =>
    simp only [List.forall_mem_cons]
    exact ⟨awaits_creation, awaits_submission, hlook, hwatch, awaits_of_ends_terminateNow hkill⟩
  | completed _ _ hconclude =>
    simp only [List.forall_mem_cons]
    exact ⟨awaits_creation, awaits_submission, hlook, hwatch, awaits_of_ends_conclude hconclude⟩

/-- **Every step of a deployment** waits as is said. -/
private lemma awaits_of_ran (hran : Ran hasLedger config request course result) :
    ∀ x ∈ course, Awaits config x := by
  have hstage : ∀ {application : ApplicationId} {staged : Attempt Manifest},
      Awaits config (staging config request application staged) := awaits_of_forall nofun
  have hlook : ∀ {cancelled : Bool}, Awaits config (cancellation cancelled) :=
    awaits_of_forall nofun
  cases hran with
  | unallocated _ => exact List.forall_mem_singleton.2 awaits_allocation
  | unstaged _ _ => simp [awaits_allocation, hstage]
  | cancelled _ => simp [awaits_allocation, hstage, hlook]
  | unrecorded _ hopened =>
    simp only [List.forall_mem_cons]
    exact ⟨awaits_allocation, hstage, hlook, awaits_of_ends_record hopened⟩
  | lived _ hopened hlife hclosed =>
    simp only [List.forall_mem_cons, List.forall_mem_append]
    exact ⟨awaits_allocation, hstage, hlook, awaits_of_ends_record hopened,
      awaits_of_lived hlife, awaits_of_ends_record hclosed⟩

/-! ## What is too late -/

/-- Whether a limited call was too late in a step. -/
private def overdue : Task.Step → Bool
  | ⟨.bounded (.platform call) limit _, ending⟩ => isLimited call && (ending.within limit).isNone
  | _ => false

/-- Nothing that is recorded is too late, and no job is waited for meanwhile. -/
private lemma overdue_recorded {call : Ledger.Call} {r : Except DeployError Unit}
    (hrun : Ends (record hasLedger application call) course r) :
    ∀ x ∈ course, overdue x = false ∧ x.question.watches = false := by
  intro x hx
  obtain ⟨answer, rfl⟩ := exists_answer_of_mem_record hrun hx
  exact ⟨rfl, rfl⟩

/-- Nothing is too late when a cluster is killed, and no job is waited for meanwhile. -/
private lemma overdue_terminated {s : Supervisor} {h : ClusterHandle} {report : SupervisionReport}
    (hrun : Ends (s.terminateNow h) course report) :
    ∀ x ∈ course, overdue x = false ∧ x.question.watches = false :=
  Supervisor.forall_mem_of_ends_terminateNow
    (p := fun x => overdue x = false ∧ x.question.watches = false)
    (fun _ => ⟨rfl, rfl⟩) ⟨rfl, rfl⟩ hrun

/-- An operation that gave a value was not too late. -/
private lemma isNone_within {α : Type} {stage : Stage} {owner : Option ApplicationId}
    {limit : Millis} {ending : Ending α} {a : α}
    (hvalue : Task.settleWithin stage owner limit ending = .ok a) :
    (ending.within limit).isNone = false := by
  rw [Task.settleWithin_eq_ok_iff.1 hvalue]
  rfl

/-- A cluster whose job was accepted in time. -/
private lemma overdue_submitted {request : ClusterRequest} {h : ClusterHandle}
    {ending : Ending RunningJob} {running : RunningJob} {rest : Task.Course}
    (hsubmitted : (Task.settleWithin .submission (some h.applicationId) config.askTimeout
      ending).mapError Rollout.asDeploymentError = .ok running)
    (hrest : ∀ x ∈ rest, overdue x = false) :
    ∀ x ∈ creation request (.ok h) :: submission config h job ending :: rest,
      overdue x = false :=
  List.forall_mem_cons.2 ⟨rfl, List.forall_mem_cons.2
    ⟨isNone_within (Task.mapError_eq_ok_iff.1 hsubmitted), hrest⟩⟩

/-- The failure of a deployment whose job was not accepted in time. -/
private lemma eq_of_settleWithin_submission {h : ClusterHandle} {ending : Ending RunningJob}
    {e : DeployError} (hlate : ending.within config.askTimeout = none)
    (hsubmitted : (Task.settleWithin .submission (some h.applicationId) config.askTimeout
      ending).mapError Rollout.asDeploymentError = .error e) :
    e = ⟨some h.applicationId, some .submission, .deployment,
      s!"{Stage.submission.name} did not complete within {config.askTimeout}ms"⟩ := by
  rw [Task.settleWithin, hlate] at hsubmitted
  exact (Except.error.inj hsubmitted).symm

/-- Once there was an attempt to create a cluster, only the submission of the job may be too late;
and then the deployment fails at once. -/
private lemma overdue_of_lived (hlife : Lived config job application m course result teardown)
    (hx : x ∈ course) (hlate : overdue x = true) :
    ∃ h ending, x = submission config h job ending ∧ h ∈ course.handles ∧
      result = .error ⟨some h.applicationId, some .submission, .deployment,
        s!"{Stage.submission.name} did not complete within {config.askTimeout}ms"⟩ ∧
      ∀ y ∈ course, y.question.watches = false := by
  have hnot : overdue x ≠ false := fun h => Bool.false_ne_true (h.symm.trans hlate)
  cases hlife with
  | uncreated _ => exact absurd (List.mem_singleton.1 hx ▸ rfl) hnot
  | @unsubmitted h ending e kill _ hsubmitted hkill =>
    have hkill := overdue_terminated hkill
    have hx : x = submission config h job ending := by
      simp only [List.mem_cons] at hx
      rcases hx with rfl | rfl | hx
      · exact absurd rfl hnot
      · rfl
      · exact absurd (hkill x hx).1 hnot
    subst hx
    have hend : ending.within config.askTimeout = none := Option.isNone_iff_eq_none.1 hlate
    refine ⟨h, ending, rfl, by simp, ?_, ?_⟩
    · rw [eq_of_settleWithin_submission hend hsubmitted]
    · simp only [List.forall_mem_cons]
      exact ⟨rfl, rfl, fun y hy => (hkill y hy).2⟩
  | cancelled hsubmitted hkill =>
    have hrest := fun y hy => (overdue_terminated hkill y hy).1
    exact absurd (overdue_submitted hsubmitted (List.forall_mem_cons.2 ⟨rfl, hrest⟩) x hx) hnot
  | unwatched hsubmitted _ hkill =>
    have hrest := fun y hy => (overdue_terminated hkill y hy).1
    exact absurd (overdue_submitted hsubmitted (List.forall_mem_cons.2 ⟨rfl,
      List.forall_mem_cons.2 ⟨rfl, hrest⟩⟩) x hx) hnot
  | completed hsubmitted _ hconclude =>
    have hrest := Supervisor.forall_mem_of_ends_conclude (p := fun x => overdue x = false)
      (fun _ _ => rfl) (fun _ => rfl) (fun _ => rfl) rfl hconclude
    exact absurd (overdue_submitted hsubmitted (List.forall_mem_cons.2 ⟨rfl,
      List.forall_mem_cons.2 ⟨rfl, hrest⟩⟩) x hx) hnot

/-- The steps before there is an attempt to create a cluster. -/
private lemma overdue_prologue {ending : Ending ApplicationId} {staged : Attempt Manifest}
    {cancelled : Bool} {opening : Task.Course}
    (hallocated : Task.settleWithin .allocation none config.askTimeout ending = .ok application)
    (hopening : ∀ x ∈ opening, overdue x = false ∧ x.question.watches = false) :
    ∀ x ∈ allocation config ending :: staging config request application staged ::
      cancellation cancelled :: opening, overdue x = false ∧ x.question.watches = false := by
  simp only [List.forall_mem_cons]
  exact ⟨⟨isNone_within hallocated, rfl⟩, ⟨rfl, rfl⟩, ⟨rfl, rfl⟩, hopening⟩

/-- **Where a call was too late** it was the first one, or the submission of the job, and the
deployment failed. -/
private lemma overdue_of_ran (hran : Ran hasLedger config request course result) (hx : x ∈ course)
    (hlate : overdue x = true) :
    (∃ ending, x = allocation config ending ∧ course = [x] ∧
      result = .error ⟨none, some .allocation, .timeout,
        s!"{Stage.allocation.name} did not complete within {config.askTimeout}ms"⟩) ∨
    ∃ h ending, x = submission config h request.job ending ∧ h ∈ course.handles ∧
      result = .error ⟨some h.applicationId, some .submission, .deployment,
        s!"{Stage.submission.name} did not complete within {config.askTimeout}ms"⟩ ∧
      ∀ y ∈ course, y.question.watches = false := by
  have hnot : overdue x ≠ false := fun h => Bool.false_ne_true (h.symm.trans hlate)
  cases hran with
  | @unallocated ending e hallocated =>
    obtain rfl := List.mem_singleton.1 hx
    have hend : ending.within config.askTimeout = none := Option.isNone_iff_eq_none.1 hlate
    rw [Task.settleWithin, hend] at hallocated
    exact .inl ⟨ending, rfl, rfl, congrArg Except.error (Except.error.inj hallocated).symm⟩
  | unstaged hallocated _ =>
    have hx := List.mem_append_left [cancellation false] hx
    exact absurd (overdue_prologue hallocated (List.forall_mem_nil _) x hx).1 hnot
  | cancelled hallocated =>
    exact absurd (overdue_prologue hallocated (List.forall_mem_nil _) x hx).1 hnot
  | unrecorded hallocated hopened =>
    exact absurd (overdue_prologue hallocated (overdue_recorded hopened) x hx).1 hnot
  | @lived _ _ m opening life last _ _ _ hallocated hopened hlife hclosed =>
    have hbefore : ∀ y ∈ _ :: staging config request _ (.ok m) :: cancellation false :: opening,
        overdue y = false ∧ y.question.watches = false :=
      overdue_prologue hallocated (overdue_recorded hopened)
    have hclosing := overdue_recorded hclosed
    have hsplit : x ∈ (_ :: _ :: _ :: opening) ++ (life ++ last) := hx
    rcases List.mem_append.1 hsplit with hx | hx
    · exact absurd (hbefore x hx).1 hnot
    rcases List.mem_append.1 hx with hx | hx
    · obtain ⟨h, ending, hx, hh, hresult, hwatches⟩ := overdue_of_lived hlife hx hlate
      have hrest := List.forall_mem_append.2 ⟨hwatches, fun y hy => (hclosing y hy).2⟩
      exact .inr ⟨h, ending, hx, by simp [hh], hresult,
        List.forall_mem_append.2 ⟨fun y hy => (hbefore y hy).2, hrest⟩⟩
    · exact absurd (hclosing x hx).1 hnot

/-- **Every deployment with a call that was too late** fails as is said, and waits for no job.

**Proof sketch.** Only the last call before the failure can have been too late (`overdue_of_ran`).
What was called for the cluster is what every deployment that fails calls for one
(`calledOff_of_ran`). -/
lemma givesUp_of_ends {held : Option ClusterHandle} {ending : Ending call.Value}
    (hrun : Ends (run hasLedger config request) course result)
    (hx : (⟨.bounded (.platform call) config.askTimeout held, ending⟩ : Task.Step) ∈ course)
    (hlimited : isLimited call = true) (hlate : ending.within config.askTimeout = none) :
    ∃ e, result = .error e ∧ GivesUp config call course e ∧
      ∀ x ∈ course, x.question.watches = false := by
  have hover : overdue ⟨.bounded (.platform call) config.askTimeout held, ending⟩ = true := by
    simp [overdue, hlimited, hlate]
  obtain ⟨ending', hstep, rfl, rfl⟩ | ⟨h, ending', hstep, hh, rfl, hwatches⟩ :=
    overdue_of_ran (ran_of_ends hrun) hx hover
  · cases hstep
    exact ⟨_, rfl, .allocation, List.forall_mem_singleton.2 rfl⟩
  · cases hstep
    refine ⟨_, rfl, ?_, hwatches⟩
    obtain ⟨hnone, -⟩ | ⟨h', hhandles, hkills, hreleases⟩ := (calledOff_of_ran hrun).teardown
    · exact absurd (hnone ▸ hh) List.not_mem_nil
    · obtain rfl : h = h' := List.mem_singleton.1 (hhandles ▸ hh)
      exact .submission hhandles hkills hreleases

/-! ## Deployments in time -/

section Timed

variable {env : Task.Surroundings} {cancel : Option Task.Cancellation} {before : Task.Timed}
  {q : Task.Question} {next : Task.Answer q → Task (Except DeployError DeploymentReport)}

/-- How a deployment waits at a point that it comes to. -/
private lemma awaits_of_reaches
    (hreach : Reaches (run hasLedger config request) before.course (.ask q next)) :
    ∃ answer, Awaits config ⟨q, answer⟩ := by
  obtain ⟨rest, result, hrest, hrun⟩ := Dialogue.exists_ends_of_reaches hreach
  obtain ⟨answer, rest, rfl, -⟩ := Dialogue.ends_ask_iff.1 hrest
  exact ⟨answer, awaits_of_ran (ran_of_ends hrun) _ (List.mem_append_right _ List.mem_cons_self)⟩

/-- **A deployment with a call that takes too long** does not wait longer than the limit, and comes
to its end.

**Proof sketch.** However the deployment goes on behind the call, it gives up (`givesUp_of_ends`).
So it waits for no job any more, and comes to an end in time
(`Task.exists_play_of_forall_watches`). -/
private lemma exists_givesUp_of_late {held : Option ClusterHandle}
    {next : Task.Answer (.bounded (.platform call) config.askTimeout held) →
      Task (Except DeployError DeploymentReport)}
    (hreplied : Task.Replied env cancel [] before)
    (hreach : Reaches (run hasLedger config request) before.course
      (.ask (.bounded (.platform call) config.askTimeout held) next))
    (hlimited : isLimited call = true)
    (hlate : (env.bounded before (.platform call)).within config.askTimeout = none) :
    ∃ after e, let timed := before ++
        (⟨.bounded (.platform call) config.askTimeout held, env.bounded before (.platform call)⟩,
          before.now + config.askTimeout) :: after
      env.play cancel (run hasLedger config request) [] = some (timed, .error e) ∧
        GivesUp config call timed.course e := by
  set ending : Ending call.Value := env.bounded before (.platform call) with hending
  set step : Task.Step := ⟨.bounded (.platform call) config.askTimeout held, ending⟩
  have hreply : env.reply cancel before (.bounded (.platform call) config.askTimeout held) =
      some (before.now + config.askTimeout, ending) := by
    rw [Task.Surroundings.reply, ← hending, Ending.elapsed_of_within_eq_none hlate]
  have hgives : ∀ rest result, Ends (next ending) rest result →
      ∃ e, result = .error e ∧ GivesUp config call (before.course ++ step :: rest) e ∧
        ∀ x ∈ before.course ++ step :: rest, x.question.watches = false :=
    fun rest result hrest => givesUp_of_ends (hreach.ends (.ask hrest))
      (List.mem_append_right _ List.mem_cons_self) hlimited hlate
  obtain ⟨whole, result, hplay⟩ := Task.exists_play_of_forall_watches env cancel
    (before ++ [(step, before.now + config.askTimeout)]) fun rest result hrest x hx => by
      obtain ⟨e, -, -, hwatches⟩ := hgives rest result hrest
      exact hwatches x (List.mem_append_right _ (List.mem_cons_of_mem _ hx))
  obtain ⟨after, rfl, hends, hafter⟩ := Task.play_eq_some_iff_append.1 hplay
  obtain ⟨e, rfl, hfailed, -⟩ := hgives _ _ hends
  refine ⟨after, e, ?_, by simpa using hfailed⟩
  rw [Task.play_eq_some_iff]
  refine ⟨by simpa using hreach.ends (.ask hends), ?_⟩
  exact Task.replied_append_iff.2 ⟨hreplied, Task.replied_cons_iff.2 ⟨hreply, hafter⟩⟩

end Timed

/-- **Calls that outlive the ask timeout.** Whatever else it meets, a deployment that waits for its
application id or for the submission of its job, and whose call takes as long as the ask timeout or
longer, does not wait beyond it, and fails with the stage of the call. The failure is one of the
deployment exactly if the call is not the one for an application id; that one stays a timeout. If
there is a cluster it is killed once and its connection closed once. For the creation of a cluster a
deployment waits as long as it takes, and goes on with what comes of it.

**Proof sketch.** Which limit applies is read off the courses of deployments (`awaits_of_ran`). A
deployment whose call was too late gives up (`exists_givesUp_of_late`); what does not have a limit
is answered when it is over. -/
theorem run_expired (hasLedger : Bool) (config : Config) (request : DeploymentRequest)
    (env : Task.Surroundings) (cancel : Option Task.Cancellation) (before : Task.Timed)
    (q : Task.Question) (next : Task.Answer q → Task (Except DeployError DeploymentReport))
    (hreplied : Task.Replied env cancel [] before)
    (hreach : Reaches (run hasLedger config request) before.course (.ask q next)) :
    (∀ call : Platform.Call, q.operation? = some (.platform call) → isLimited call = true →
      (∀ took result, env.bounded before (.platform call) = .ended took result →
        config.askTimeout ≤ took) →
      ∃ held after e, let timed := before ++
          (⟨.bounded (.platform call) config.askTimeout held, env.bounded before (.platform call)⟩,
            before.now + config.askTimeout) :: after
        env.play cancel (run hasLedger config request) [] = some (timed, .error e) ∧
          GivesUp config call timed.course e ∧
          (e.kind = .deployment ↔ call ≠ .newApplication)) ∧
    ∀ creating span created, q.operation? = some (.platform (.createCluster creating)) →
      env.background before (.platform (.createCluster creating)) = (span, created) →
      ∃ next' : Attempt ClusterHandle → Task (Except DeployError DeploymentReport),
        Reaches (run hasLedger config request) before.course
          (.ask (.background (.platform (.createCluster creating)) none) next') ∧
        env.play cancel (run hasLedger config request) [] =
          env.play cancel (next' created)
            (before ++ [(creation creating created, before.now + span)]) := by
  obtain ⟨answer, hawaits⟩ := awaits_of_reaches hreach
  constructor
  · intro call hcall hlimited hlate
    obtain ⟨held, hq⟩ := hawaits.limited call hcall hlimited
    obtain rfl : q = .bounded (.platform call) config.askTimeout held := hq
    obtain ⟨after, e, hplay, hfailed⟩ := exists_givesUp_of_late hreplied hreach hlimited
      (Ending.within_eq_none_iff.2 hlate)
    exact ⟨held, after, e, hplay, hfailed, hfailed.kind_eq_deployment_iff⟩
  · intro creating span created hcall hcreated
    obtain rfl : q = .background (.platform (.createCluster creating)) none :=
      hawaits.unlimited creating hcall
    refine ⟨next, hreach, ?_⟩
    rw [Task.play_eq_of_reaches hreach hreplied, List.nil_append, Task.Surroundings.play,
      Task.Surroundings.reply, hcreated]

/-- The ask timeout is ten. That the cluster takes sixty does no harm; but the submission of the job
takes twenty, and the deployment gives up when ten of them are over. -/
theorem run_expired_of_slow_platform :
    let config : Config := { Config.default with askTimeout := 10 }
    let request : DeploymentRequest := default
    let h : ClusterHandle := default
    let env : Task.Surroundings :=
      { background := fun _ op => match op with
          | .stage _ _ _ _ => (15, .ok default)
          | .platform (.createCluster _) => (60, .ok h)
          | _ => (0, .error .died)
        bounded := fun _ op => match op with
          | .platform .newApplication => .ended 5 (.ok default)
          | .platform (.submitJob _ _) => .ended 20 (.error .died)
          | _ => .endless
        job := fun _ _ => none
        release := fun _ _ => 1 }
    let staged : Task.Timed := [(allocation config (.ended 5 (.ok default)), 5),
      (staging config request default (.ok default), 20), (cancellation false, 20)]
    let created : Task.Timed :=
      staged ++ [(creation (Launch.request config request.job default) (.ok h), 80)]
    (∃ next : Attempt ClusterHandle → Task (Except DeployError DeploymentReport),
      env.play none (run false config request) [] = env.play none (next (.ok h)) created) ∧
    ∃ held after e, let timed := created ++
        (⟨.bounded (.platform (.submitJob h request.job)) 10 held, .ended 20 (.error .died)⟩, 90) ::
          after
      env.play none (run false config request) [] = some (timed, .error e) ∧
        GivesUp config (.submitJob h request.job) timed.course e ∧ e.kind = .deployment := by
  intro config request h env staged created
  have hstaged : Task.Replied env none [] staged :=
    Task.replied_cons_iff.2 ⟨rfl, Task.replied_cons_iff.2 ⟨rfl, Task.replied_cons_iff.2 ⟨rfl,
      Task.replied_nil⟩⟩⟩
  have hcreating : Reaches (run false config request) staged.course (.ask _ _) :=
    .ask (.ask (.ask (.here _)))
  have hcreated : Task.Replied env none [] created :=
    Task.replied_append_iff.2 ⟨hstaged, Task.replied_cons_iff.2 ⟨rfl, Task.replied_nil⟩⟩
  have hsubmitting : Reaches (run false config request) created.course (.ask _ _) :=
    .ask (.ask (.ask (.ask (.here _))))
  obtain ⟨-, hunlimited⟩ := run_expired false config request env none staged _ _ hstaged hcreating
  obtain ⟨next, -, hplay⟩ := hunlimited _ 60 (.ok h) rfl rfl
  refine ⟨⟨next, hplay⟩, ?_⟩
  obtain ⟨hlimited, -⟩ := run_expired false config request env none created _ _ hcreated hsubmitting
  have hlong : ∀ took result, env.bounded created (.platform (.submitJob h request.job)) =
      .ended took result → config.askTimeout ≤ took := by
    rintro took result ⟨⟩
    decide
  obtain ⟨held, after, e, hplay, hfailed, hkind⟩ :=
    hlimited (.submitJob h request.job) rfl rfl hlong
  exact ⟨held, after, e, hplay, hfailed, hkind.2 (by simp)⟩

/-- The reservation of an application id takes a second, but the limit is a tenth of it. -/
theorem lateReservation_notDeployment :
    let config : Config := { Config.default with askTimeout := 100 }
    let env : Task.Surroundings :=
      { background := fun _ _ => (0, .error .died)
        bounded := fun _ op => match op with
          | .platform .newApplication => .ended 1000 (.ok default)
          | _ => .endless
        job := fun _ _ => none
        release := fun _ _ => 0 }
    ∃ timed e, env.play none (run false config default) [] = some (timed, .error e) ∧
      e.stage = some .allocation ∧ e.kind ≠ .deployment :=
  ⟨_, _, rfl, rfl, by decide⟩

end Deployment

end ClusterDeploy
