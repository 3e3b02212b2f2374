import ClusterDeploy.Proofs.Deployment.Teardown
import ClusterDeploy.Proofs.Task.Timing

set_option relaxedAutoImplicit false
set_option autoImplicit false

/-!
# Cancelled deployments

A deployment looks at its cancellation three times: after staging, after the submission of its job,
and all the while it waits for the job. Whenever the cancellation comes, one of the three sees it in
time, unless the outcome of the job is known by then; and then nobody looks any more.

## Main definitions

* `Deployment.BreaksDown` — the steps that failed by themselves, and after which a deployment gives
  up.
* `Deployment.CalledOff` — how a deployment ends without a report.

## Main results

* `Deployment.calledOff_of_ran` — every deployment that fails ends like this.
* `Deployment.run_cancelled` — a deployment with a cancellation at any moment.

## Implementation notes

That a cancellation comes before some step is over is said as "it does not come after it"
(`Task.Cancellation.ComesAfter`). So it comes before a step that is never made.
-/

namespace ClusterDeploy

open Rehearsal (Call)

namespace Deployment

open Dialogue (Ends)

/-- Whether a step told the outcome of a job. -/
def sawOutcome : Task.Step → Bool
  | ⟨.watch _ _ _, .resolved (.ok _)⟩ => true
  | _ => false

/-- Whether a step is the staging of artifacts. -/
def isStaging (x : Task.Step) : Bool :=
  match x.question.operation? with
  | some (.stage _ _ _ _) => true
  | _ => false

/-- The steps that failed by themselves, and after which a deployment gives up. -/
inductive BreaksDown (config : Config) : Task.Step → Prop where
  | allocation {ending : Ending ApplicationId} :
    (∀ application, ending.within config.askTimeout ≠ some (.ok application)) →
    BreaksDown config (allocation config ending)
  | staging {request : DeploymentRequest} {application : ApplicationId} {mishap : Mishap} :
    BreaksDown config (staging config request application (.error mishap))
  | start {name : String} {m : Manifest} {mishap : Mishap} :
    BreaksDown config (recording (.recordStarted name m) (.error mishap))
  | creation {request : ClusterRequest} {mishap : Mishap} :
    BreaksDown config (creation request (.error mishap))
  | submission {h : ClusterHandle} {job : Job} {ending : Ending RunningJob} :
    (∀ running, ending.within config.askTimeout ≠ some (.ok running)) →
    BreaksDown config (submission config h job ending)
  | expiry {h : ClusterHandle} {running : RunningJob} :
    BreaksDown config (watching config h running .expired)
  | job {h : ClusterHandle} {running : RunningJob} {e : DeployError} :
    BreaksDown config (watching config h running (.resolved (.error e)))

/-- How a deployment ends without a report. -/
structure CalledOff (config : Config) (course : Task.Course) (e : DeployError) : Prop where
  /-- Unless a step failed by itself, the failure says that the deployment was cancelled, and names
  the application. -/
  error : (∃ x ∈ course, BreaksDown config x) ∨
    ∃ ending application stage rest, course = allocation config ending :: rest ∧
      ending.within config.askTimeout = some (.ok application) ∧
      e = Task.cancelledError application stage
  /-- The status of the cluster is never asked for. -/
  unasked : Call.queries course.calls = []
  /-- There was no cluster, or it was killed once and its connection closed once. -/
  teardown :
    (course.handles = [] ∧ Call.kills course.calls = [] ∧ Call.releases course.calls = []) ∨
    ∃ h, course.handles = [h] ∧ Call.kills course.calls = [h] ∧ Call.releases course.calls = [h]

variable {hasLedger : Bool} {config : Config} {request : DeploymentRequest} {job : Job}
  {application : ApplicationId} {m : Manifest} {course : Task.Course}
  {result : Except DeployError DeploymentReport} {teardown : Option SupervisionReport}
  {e : DeployError}

/-! ## Deployments without a report -/

/-- Nothing is asked about a cluster where no step does that. -/
private lemma queries_eq_nil (hnone : ∀ x ∈ course, x.question.call?.bind Call.query? = none) :
    Call.queries course.calls = [] := by
  induction course with
  | nil => rfl
  | cons x c ih =>
    obtain ⟨hx, hc⟩ := List.forall_mem_cons.1 hnone
    rw [Task.Course.calls_cons, Call.queries_append, Call.queries_toList, hx, ih hc]
    rfl

/-- What is recorded asks nothing about a cluster, tells no outcome, and looks at no cancellation.
-/
private lemma forall_mem_record {call : Ledger.Call} {r : Except DeployError Unit}
    {p : Task.Step → Prop} (hp : ∀ result, p (recording call result))
    (hrun : Ends (record hasLedger application call) course r) : ∀ x ∈ course, p x := by
  intro x hx
  obtain ⟨answer, rfl⟩ := exists_answer_of_mem_record hrun hx
  exact hp answer

/-- A deployment that fails does not ask for the status of its cluster, and sees no outcome. -/
private lemma unasked_of_lived
    (hlife : Lived config job application m course (.error e) teardown) :
    ∀ x ∈ course, x.question.call?.bind Call.query? = none ∧ sawOutcome x = false := by
  cases hlife with
  | uncreated _ => simp [sawOutcome]
  | unsubmitted _ hkill =>
    obtain ⟨_, rfl, -⟩ := Supervisor.ends_terminateNow_iff.1 hkill
    simp [sawOutcome]
  | cancelled _ hkill =>
    obtain ⟨_, rfl, -⟩ := Supervisor.ends_terminateNow_iff.1 hkill
    simp [sawOutcome]
  | @unwatched _ _ _ watched _ _ _ _ hawaited hkill =>
    obtain ⟨_, rfl, -⟩ := Supervisor.ends_terminateNow_iff.1 hkill
    rcases watched with _ | _ | _ | _
    · simp [sawOutcome]
    · simp [sawOutcome]
    · simp [sawOutcome]
    · cases hawaited

/-- A deployment that fails does not ask for the status of its cluster, and sees no outcome. -/
private lemma unasked_of_ran (hran : Ran hasLedger config request course (.error e)) :
    ∀ x ∈ course, x.question.call?.bind Call.query? = none ∧ sawOutcome x = false := by
  have hprologue : ∀ {ending : Ending ApplicationId} {application : ApplicationId} {m : Manifest},
      ∀ x ∈ [allocation config ending, staging config request application (.ok m),
        cancellation false], x.question.call?.bind Call.query? = none ∧ sawOutcome x = false := by
    simp [sawOutcome]
  cases hran with
  | unallocated _ => simp [sawOutcome]
  | unstaged _ _ => simp [sawOutcome]
  | cancelled _ => simp [sawOutcome]
  | unrecorded _ hopened =>
    exact List.forall_mem_append.2 ⟨hprologue, forall_mem_record (fun _ => ⟨rfl, rfl⟩) hopened⟩
  | lived _ hopened hlife hclosed =>
    exact List.forall_mem_append.2 ⟨hprologue, List.forall_mem_append.2
      ⟨forall_mem_record (fun _ => ⟨rfl, rfl⟩) hopened, List.forall_mem_append.2
        ⟨unasked_of_lived hlife, forall_mem_record (fun _ => ⟨rfl, rfl⟩) hclosed⟩⟩⟩

/-- Once there was an attempt to create a cluster, a step fails by itself or the deployment is
cancelled. -/
private lemma breaksDown_of_lived
    (hlife : Lived config job application m course (.error e) teardown) :
    (∃ x ∈ course, BreaksDown config x) ∨ ∃ stage, e = Task.cancelledError application stage := by
  cases hlife with
  | uncreated hcreated =>
    obtain ⟨mishap, rfl⟩ := Task.exists_mishap_of_settle hcreated
    exact .inl ⟨_, List.mem_cons_self, .creation⟩
  | @unsubmitted h ending _ _ _ hsubmitted _ =>
    refine .inl ⟨submission config h job ending, by simp, .submission fun running hin => ?_⟩
    rw [Task.settleWithin_eq_ok_iff.2 hin] at hsubmitted
    exact nomatch hsubmitted
  | cancelled _ _ => exact .inr ⟨_, rfl⟩
  | @unwatched h _ running watched _ _ _ _ hawaited _ =>
    rcases watched with _ | _ | e' | _
    · exact .inr ⟨.resultWait, (Except.error.inj hawaited).symm⟩
    · exact .inl ⟨watching config h running .expired, by simp, .expiry⟩
    · exact .inl ⟨watching config h running (.resolved (.error e')), by simp, .job⟩
    · exact nomatch hawaited

/-- **Every deployment that fails** was cancelled, or a step failed by itself; and its cluster, if
there was one, was killed and its connection closed, without looking at it any more.

**Proof sketch.** What was called for the cluster fits the end of the deployment
(`follows_of_ends`). Why it fails is read off the way in which it ends. -/
lemma calledOff_of_ran (hrun : Ends (run hasLedger config request) course (.error e)) :
    CalledOff config course e := by
  have hran := ran_of_ends hrun
  refine ⟨?_, queries_eq_nil fun x hx => (unasked_of_ran hran x hx).1, ?_⟩
  · cases hran with
    | unallocated hallocated =>
      refine .inl ⟨_, List.mem_singleton_self _, .allocation fun application hin => ?_⟩
      rw [Task.settleWithin_eq_ok_iff.2 hin] at hallocated
      exact nomatch hallocated
    | unstaged _ hstaged =>
      obtain ⟨mishap, rfl⟩ := Task.exists_mishap_of_settle hstaged
      exact .inl ⟨_, List.mem_cons_of_mem _ List.mem_cons_self, .staging⟩
    | cancelled hallocated =>
      exact .inr ⟨_, _, _, _, rfl, Task.settleWithin_eq_ok_iff.1 hallocated, rfl⟩
    | unrecorded _ hopened =>
      cases hasLedger with
      | false => exact nomatch (ends_record_false_iff.1 hopened).2
      | true =>
        obtain ⟨mishap, rfl⟩ := exists_mishap_of_ends_record hopened
        exact .inl ⟨_, List.mem_append_right [_, _, _] (List.mem_singleton_self _), .start⟩
    | lived hallocated _ hlife _ =>
      rcases breaksDown_of_lived hlife with ⟨x, hx, hbroken⟩ | ⟨stage, rfl⟩
      · exact .inl ⟨x, by simp [hx], hbroken⟩
      · exact .inr ⟨_, _, _, _, rfl, Task.settleWithin_eq_ok_iff.1 hallocated, rfl⟩
  · -- a deployment that fails never had a cluster, or has closed its connection
    obtain ⟨hends, hsaw⟩ := follows_of_ends hrun
    rcases hends with hnone | ⟨h, hsome⟩
    · obtain ⟨hhandles, -, hkills, -, hreleases, -⟩ := Tenure.fits_nil.follows hnone
      rw [List.nil_append] at hhandles hkills hreleases
      rw [hsaw e rfl] at hkills
      exact .inl ⟨hhandles, hkills, hreleases⟩
    · obtain ⟨hhandles, -, hkills, -, hreleases, -⟩ := Tenure.fits_nil.follows hsome
      rw [List.nil_append] at hhandles hkills hreleases
      rw [hsaw e rfl] at hkills
      exact .inr ⟨h, hhandles, hkills, hreleases⟩

/-! ## Deployments with a report -/

/-- A step that tells the outcome of a job looks at the cancellation. -/
private lemma looks_of_sawOutcome {x : Task.Step} (hx : sawOutcome x = true) : x.looks = true := by
  obtain ⟨_ | _ | _ | _ | _ | _, answer⟩ := x
  all_goals first | rfl | exact absurd hx Bool.false_ne_true

/-- What the courses of deployments with a report have in common. -/
private structure Informed (course : Task.Course) : Prop where
  outcome : ∃ x ∈ course, sawOutcome x = true
  uncancelled : ∀ x ∈ course, x.sawCancellation = false
  /-- Nobody looks at a cancellation once the outcome of the job is known. -/
  last : course.Pairwise fun x y => sawOutcome x = true → y.looks = false

/-- The courses of deployments with a report tell the outcome of the job in one step. No step
before it saw a cancellation, and no step behind it looks at one. -/
private lemma informed_of_split {before after : Task.Course} {h : ClusterHandle}
    {running : RunningJob} {outcome : JobOutcome}
    (hbefore : ∀ y ∈ before, sawOutcome y = false ∧ y.sawCancellation = false)
    (hafter : ∀ y ∈ after, y.looks = false ∧ y.sawCancellation = false) :
    Informed (before ++ watching config h running (.resolved (.ok outcome)) :: after) := by
  refine ⟨⟨_, List.mem_append_right _ List.mem_cons_self, rfl⟩, ?_, ?_⟩
  · exact List.forall_mem_append.2 ⟨fun y hy => (hbefore y hy).2,
      List.forall_mem_cons.2 ⟨rfl, fun y hy => (hafter y hy).2⟩⟩
  · have hmute : ∀ y ∈ before, sawOutcome y ≠ true := fun y hy => by simp [(hbefore y hy).1]
    refine List.pairwise_append.2 ⟨?_, List.pairwise_cons.2 ⟨?_, ?_⟩, ?_⟩
    · exact List.pairwise_of_forall_mem_list fun y hy _ _ hout => absurd hout (hmute y hy)
    · exact fun y hy _ => (hafter y hy).1
    · exact List.pairwise_of_forall_mem_list fun _ _ z hz _ => (hafter z hz).1
    · exact fun y hy _ _ hout => absurd hout (hmute y hy)

/-- A deployment with a report saw the outcome of its job and no cancellation. -/
private lemma informed_of_ran {report : DeploymentReport}
    (hran : Ran hasLedger config request course (.ok report)) : Informed course := by
  cases hran with
  | @lived ending application m opening _ last _ _ _ _ hopened hlife hclosed =>
    cases hlife with
    | @completed h submitted running watched _ conclusion _ _ hawaited hconclude =>
      rcases watched with _ | _ | _ | outcome
      · exact nomatch hawaited
      · exact nomatch hawaited
      · exact nomatch hawaited
      have hopening := forall_mem_record
        (p := fun x => sawOutcome x = false ∧ x.sawCancellation = false) (fun _ => ⟨rfl, rfl⟩)
        hopened
      have hlast := forall_mem_record (p := fun x => x.looks = false ∧ x.sawCancellation = false)
        (fun _ => ⟨rfl, rfl⟩) hclosed
      have hconclusion := Supervisor.forall_mem_of_ends_conclude
        (p := fun x => x.looks = false ∧ x.sawCancellation = false)
        (fun _ _ => ⟨rfl, rfl⟩) (fun _ => ⟨rfl, rfl⟩) (fun _ => ⟨rfl, rfl⟩) ⟨rfl, rfl⟩ hconclude
      have hbefore : ∀ x ∈ allocation config ending ::
          staging config request application (.ok m) :: cancellation false :: (opening ++
            [creation (Launch.request config request.job m) (.ok h),
              submission config h request.job submitted, cancellation false]),
          sawOutcome x = false ∧ x.sawCancellation = false := by
        simp only [List.forall_mem_cons, List.forall_mem_append]
        exact ⟨⟨rfl, rfl⟩, ⟨rfl, rfl⟩, ⟨rfl, rfl⟩, hopening, ⟨rfl, rfl⟩, ⟨rfl, rfl⟩, ⟨rfl, rfl⟩,
          List.forall_mem_nil _⟩
      have hafter := List.forall_mem_append.2 ⟨hconclusion, hlast⟩
      simpa using (informed_of_split hbefore hafter :
        Informed (_ ++ watching config h running (.resolved (.ok outcome)) :: _))

/-! ## Cancelled deployments -/

section Timed

variable {env : Task.Surroundings} {c : Task.Cancellation} {timed : Task.Timed}

/-- A deployment that was not seen cancelled after staging was not cancelled before its end.

**Proof sketch.** The first look is at the time when staging is over. What comes no later than that
is seen by it. -/
private lemma comesAfter_staging {allocated staged : Task.Step} {rest : Task.Course}
    (hreplied : Task.Replied env (some c) [] timed) (hstaged : isStaging staged = true)
    (hcourse : timed.course = allocated :: staged :: cancellation false :: rest) :
    c.ComesAfter isStaging timed := by
  obtain ⟨x, t₁, rfl, -, h₁⟩ := List.map_eq_cons_iff.1 hcourse
  obtain ⟨y, t₂, rfl, rfl, h₂⟩ := List.map_eq_cons_iff.1 h₁
  obtain ⟨⟨z, time⟩, later, rfl, hz, -⟩ := List.map_eq_cons_iff.1 h₂
  obtain rfl : z = cancellation false := hz
  have hlook := hreplied [x, y] _ later rfl
  have hunseen : ¬ c.seenFrom 2 ≤ y.2 := of_decide_eq_false
    (Prod.mk.inj (Option.some.inj hlook)).2
  exact ⟨[x], y, _, rfl, hstaged, Nat.lt_of_lt_of_le (Nat.lt_of_not_le hunseen)
    (Task.Cancellation.seenFrom_anti (Nat.le_succ 1))⟩

/-- A deployment that is cancelled before the end of staging tells the ledger nothing, and creates
no cluster. -/
private lemma quiet_of_ran (hran : Ran hasLedger config request timed.course result)
    (hreplied : Task.Replied env (some c) [] timed) (hearly : ¬ c.ComesAfter isStaging timed) :
    timed.course.recordings = [] ∧ ∀ x ∈ timed.course, x.isCreation = false := by
  generalize hcourse : timed.course = course at hran ⊢
  cases hran with
  | unallocated _ => simp
  | unstaged _ _ => simp
  | cancelled _ => simp
  | unrecorded _ _ => exact absurd (comesAfter_staging hreplied rfl hcourse) hearly
  | lived _ _ _ _ => exact absurd (comesAfter_staging hreplied rfl hcourse) hearly

/-- A deployment with a report was not cancelled before it saw the outcome of its job. -/
private lemma comesAfter_outcome (hinformed : Informed timed.course)
    (hreplied : Task.Replied env (some c) [] timed) : c.ComesAfter sawOutcome timed := by
  obtain ⟨x, hx, hout⟩ := hinformed.outcome
  obtain ⟨x, hmem, rfl⟩ := List.mem_map.1 hx
  exact Task.comesAfter_of_look hreplied hmem hout (looks_of_sawOutcome hout)
    (hinformed.uncancelled _ hx)

end Timed

/-- **A deployment with a cancellation at any moment** comes to an end. If the cancellation does not
come after the outcome of the job was seen, the deployment fails: it was cancelled, unless a step
failed by itself, and the cluster is killed once and released once without being asked for its
status, if there is one. If the cancellation does not come after the end of staging, the ledger is
told nothing, and no cluster is created. If it does come after the outcome was seen, the deployment
runs as it does without a cancellation.

**Proof sketch.** A deployment with a report was told the outcome of its job by a look that did not
see the cancellation, so the cancellation comes after it; every other deployment is called off
(`calledOff_of_ran`). In the same way the first look shows that the cancellation comes after
staging. A deployment that was told the outcome saw no cancellation, so it is the one without
(`Task.replied_some_iff`); and because nobody looks any more, the one without is also the one with a
cancellation after that (`Task.Replied.some_of_none`). -/
theorem run_cancelled (hasLedger : Bool) (config : Config) (request : DeploymentRequest)
    (env : Task.Surroundings) (c : Task.Cancellation) :
    (∃ timed result, env.play (some c) (run hasLedger config request) [] = some (timed, result) ∧
      (¬ c.ComesAfter sawOutcome timed → ∃ e, result = .error e ∧ CalledOff config timed.course e) ∧
      (¬ c.ComesAfter isStaging timed →
        timed.course.recordings = [] ∧ ∀ x ∈ timed.course, x.isCreation = false)) ∧
    ∀ timed result, c.ComesAfter sawOutcome timed →
      (env.play (some c) (run hasLedger config request) [] = some (timed, result) ↔
        env.play none (run hasLedger config request) [] = some (timed, result)) := by
  constructor
  · obtain ⟨timed, result, hplay⟩ := Task.exists_play (run hasLedger config request) []
    obtain ⟨hends, hreplied⟩ := Task.play_eq_some_iff.1 hplay
    refine ⟨timed, result, hplay, fun hearly => ?_, quiet_of_ran (ran_of_ends hends) hreplied⟩
    cases result with
    | error e => exact ⟨e, rfl, calledOff_of_ran hends⟩
    | ok report =>
      exact absurd (comesAfter_outcome (informed_of_ran (ran_of_ends hends)) hreplied) hearly
  · rintro timed result ⟨before, x, after, rfl, hout, hlate⟩
    rw [Task.play_eq_some_iff, Task.play_eq_some_iff]
    refine and_congr_right fun hends => ?_
    have hinformed : Informed (Task.Timed.course (before ++ x :: after)) := by
      cases result with
      | ok report => exact informed_of_ran (ran_of_ends hends)
      | error e =>
        have hx : x.1 ∈ Task.Timed.course (before ++ x :: after) := by simp
        have hmute := (unasked_of_ran (ran_of_ends hends) x.1 hx).2
        exact absurd (hout.symm.trans hmute) Bool.false_ne_true.symm
    constructor
    · intro hreplied
      refine (Task.replied_some_iff.1 ⟨hreplied, fun y hy => ?_⟩).1
      exact hinformed.uncancelled y.1 (List.mem_map_of_mem hy)
    -- behind the step that saw the outcome nobody looks any more
    · intro hreplied
      refine hreplied.some_of_none hlate fun y hy => ?_
      have hlast := hinformed.last
      rw [Task.Timed.course_append, Task.Timed.course_cons] at hlast
      exact List.rel_of_pairwise_cons (List.pairwise_append.1 hlast).2.1
        (List.mem_map_of_mem hy) hout

/-- A deployment is cancelled while it stages its artifacts, which takes until the time 15. -/
theorem run_cancelled_of_staging_under_way :
    let request : DeploymentRequest := default
    let env : Task.Surroundings :=
      { background := fun _ op => match op with
          | .stage _ _ _ _ => (10, .ok default)
          | _ => (10, .error .died)
        bounded := fun _ op => match op with
          | .platform .newApplication => .ended 5 (.ok default)
          | _ => .endless
        job := fun _ _ => none
        release := fun _ _ => 1 }
    ∃ timed, env.play (some ⟨12, 1⟩) (run true .default request) [] =
        some (timed, .error (Task.cancelledError default .staging)) ∧
      CalledOff .default timed.course (Task.cancelledError default .staging) ∧
      timed.course.recordings = [] := by
  intro request env
  obtain ⟨⟨timed, result, hplay, hearly, hquiet⟩, -⟩ :=
    run_cancelled true .default request env ⟨12, 1⟩
  obtain ⟨rfl, rfl⟩ := Prod.mk.inj (Option.some.inj (hplay.symm.trans (by rfl)))
  have hnever : ∀ kind : Task.Step → Bool, (∀ ending, kind (allocation .default ending) = false) →
      ¬ Task.Cancellation.ComesAfter ⟨12, 1⟩ kind
        [(allocation .default (.ended 5 (.ok default)), 5),
          (staging .default request default (.ok default), 15), (cancellation true, 15)] := by
    rintro kind hkind ⟨_ | ⟨a, _ | ⟨b, _ | ⟨d, before⟩⟩⟩, x, after, hsplit, hx, hlt⟩
    · obtain ⟨rfl, -⟩ := List.cons.inj hsplit
      exact absurd ((hkind _).symm.trans hx) Bool.false_ne_true
    · obtain ⟨-, ⟨⟩⟩ := List.cons.inj hsplit
      exact absurd (show (15 : Nat) < 12 from hlt) (by decide)
    · obtain ⟨-, ⟨⟩⟩ := List.cons.inj hsplit
      exact absurd (show (15 : Nat) < 12 from hlt) (by decide)
    · simp at hsplit
  obtain ⟨e, he, hoff⟩ := hearly (hnever _ fun _ => rfl)
  obtain rfl := Except.error.inj he
  exact ⟨_, hplay, hoff, (hquiet (hnever _ fun _ => rfl)).1⟩

end Deployment

end ClusterDeploy
