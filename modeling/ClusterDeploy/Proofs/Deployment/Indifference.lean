import ClusterDeploy.Proofs.Deployment.Cleaning
import ClusterDeploy.Proofs.Deployment.Recording
import ClusterDeploy.Proofs.Dialogue.Hiding
import ClusterDeploy.Proofs.Task.Timing

set_option relaxedAutoImplicit false
set_option autoImplicit false

/-!
# Deployments do not depend on their ledger

A deployment tells its ledger what it does and goes on in the same way whatever it is answered, but
for the record of its start. So deployments with and without a ledger ask the same of the storage
and the platform and give the same.

## Main definitions

* `Task.Course.unrecorded` — a course without the calls to the ledger.
* `Task.Beside` — a course among surroundings to which the ledger does not belong.
* `Task.Called` — the calls of a course, those that staging makes to the storage among them.
* `Deployment.Conducted` — a deployment among surroundings.

## Main results

* `Deployment.looksFree_run` — to somebody who does not see the ledger, a deployment looks like one
  without.
* `Deployment.run_ignoresLedger` — any two deployments among the same surroundings.
* `Deployment.run_delayedByLedger` — the time that the ledger takes does matter.

## Implementation notes

A slow ledger makes everything after it happen later, and a cancellation may then be seen that comes
too late without a ledger. So the clock of the surroundings, by which the cancellation is set,
stands still while the ledger is called.
-/

namespace ClusterDeploy

open Dialogue (Ends Reaches Obeys LooksLike)

namespace Task

/-! ## Courses without the ledger -/

/-- Whether a question is a call to the ledger. -/
def Question.isRecording (q : Question) : Bool :=
  q.call?.any Rehearsal.Call.isLedger

/-- Whether a step is the record of a start that failed. -/
def Step.failsToStart : Step → Bool
  | ⟨.background (.ledger (.recordStarted _ _)) _, .error _⟩ => true
  | _ => false

/-- An answer that is good, if it is one to the record of a start. -/
def Started : (q : Question) → Answer q → Prop
  | .background (.ledger (.recordStarted _ _)) _, answer => answer = .ok ()
  | _, _ => True

/-- A course without the calls to the ledger. -/
def Course.unrecorded (c : Course) : Course :=
  c.filter fun x => !x.question.isRecording

/-- A course among surroundings to which the ledger does not belong: the other steps are answered by
the surroundings, on a clock that stands still while the ledger is called. -/
def Beside (env : Surroundings) (cancel : Option Cancellation) (c : Course) : Prop :=
  ∃ t : Timed, t.course = c.unrecorded ∧ Replied env cancel [] t

/-- The call that a question of work is. -/
def callOf? : Work.Question → Option Rehearsal.Call
  | .storage call => some (.storage call)
  | .platform call => some (.platform call)
  | .ledger call => some (.ledger call)
  | _ => none

/-- The calls of a course, in order, if the storage and the local files answer staging by a rule. -/
inductive Called
    (rule : List (Dialogue.Exchange Work.Question Work.Answer) →
      (q : Work.Question) → Work.Answer q) : Course → List Rehearsal.Call → Prop where
  | nil : Called rule [] []
  | staging {application : ApplicationId} {label : String} {entries : List ArtifactEntry}
      {factor : Option UInt16} {held : Option ClusterHandle} {result : Attempt Manifest}
      {asked : List (Dialogue.Exchange Work.Question Work.Answer)} {c : Course}
      {calls : List Rehearsal.Call} :
    Ends (Staging.stage application label entries factor).run asked result → Obeys rule asked →
    Called rule c calls →
    Called rule (⟨.background (.stage application label entries factor) held, result⟩ :: c)
      (asked.filterMap (fun x => callOf? x.question) ++ calls)
  | other {x : Step} {c : Course} {calls : List Rehearsal.Call} :
    (∀ application label entries factor held,
      x.question ≠ .background (.stage application label entries factor) held) →
    Called rule c calls → Called rule (x :: c) (x.question.call?.toList ++ calls)

variable {env : Surroundings} {cancel : Option Cancellation} {α : Type} {p left left' : Task α}
  {before s t : Timed} {a : α} {c d : Course} {calls calls' : List Rehearsal.Call}
  {rule : List (Dialogue.Exchange Work.Question Work.Answer) →
    (q : Work.Question) → Work.Answer q}

/-- Only the record of a start that failed has an answer that is not good. -/
lemma started_of_failsToStart {x : Step} (hx : x.failsToStart = false) :
    Started x.question x.answer := by
  obtain ⟨q, answer⟩ := x
  cases q with
  | background op held =>
    cases op with
    | ledger call =>
      cases call with
      | recordStarted name m =>
        rcases answer with mishap | _
        · exact absurd hx (by simp [Step.failsToStart])
        · rfl
      | _ => trivial
    | _ => trivial
  | _ => trivial

/-- The record of a start is a call to the ledger. -/
lemma Step.isRecording_of_failsToStart {x : Step} (hx : x.failsToStart = true) :
    x.isRecording = true := by
  obtain ⟨q, answer⟩ := x
  cases q with
  | background op held =>
    cases op with
    | ledger call => rfl
    | _ => exact absurd hx Bool.false_ne_true
  | _ => exact absurd hx Bool.false_ne_true

/-- **Of two runs among the same surroundings**, each broken off somewhere, one is the first part of
the other.

**Proof sketch.** Induction on the first run. Both ask the same question, and the surroundings give
one answer at one time. -/
lemma Replied.exists_append (hs : Reaches p s.course left) (ht : Reaches p t.course left')
    (hreplied : Replied env cancel before s) (hreplied' : Replied env cancel before t) :
    (∃ u, t = s ++ u ∧ Reaches left u.course left') ∨
      ∃ u, s = t ++ u ∧ Reaches left' u.course left := by
  induction s generalizing p before t with
  | nil =>
    cases hs
    exact .inl ⟨t, rfl, ht⟩
  | cons x s ih =>
    rcases t with _ | ⟨y, t⟩
    · cases ht
      exact .inr ⟨x :: s, rfl, hs⟩
    · obtain ⟨⟨q, answer⟩, time⟩ := x
      obtain ⟨⟨q', answer'⟩, time'⟩ := y
      rw [Timed.course_cons] at hs ht
      cases hs with
      | ask hs =>
        cases ht with
        | ask ht =>
          obtain ⟨hx, hs'⟩ := replied_cons_iff.1 hreplied
          obtain ⟨hy, ht'⟩ := replied_cons_iff.1 hreplied'
          obtain ⟨rfl, rfl⟩ := Prod.mk.inj (Option.some.inj (hx.symm.trans hy))
          obtain ⟨u, rfl, hu⟩ | ⟨u, rfl, hu⟩ := ih hs ht hs' ht'
          · exact .inl ⟨u, rfl, hu⟩
          · exact .inr ⟨u, rfl, hu⟩

namespace Called

/-- The calls of a course are determined by the rule. -/
lemma unique (h : Called rule c calls) (h' : Called rule c calls') : calls = calls' := by
  induction h generalizing calls' with
  | nil =>
    cases h'
    rfl
  | @staging application label entries factor held result asked c calls hrun hobeys _ ih =>
    cases h' with
    | @staging _ _ _ _ _ _ asked' _ _ hrun' hobeys' hrest' =>
      have hunique := Dialogue.existsUnique_ends
        (Staging.stage application label entries factor).run rule
      have hsame : (asked, result) = (asked', result) :=
        hunique.unique ⟨hrun, hobeys⟩ ⟨hrun', hobeys'⟩
      rw [(Prod.mk.inj hsame).1, ih hrest']
    | other hnot _ => exact absurd rfl (hnot application label entries factor held)
  | other hnot _ ih =>
    cases h' with
    | staging => exact absurd rfl (hnot _ _ _ _ _)
    | other _ hrest' => rw [ih hrest']

/-- The calls of two courses, one after the other. -/
lemma exists_append (h : Called rule (c ++ d) calls) :
    ∃ first rest, calls = first ++ rest ∧ Called rule c first ∧ Called rule d rest := by
  induction c generalizing calls with
  | nil => exact ⟨[], calls, rfl, .nil, h⟩
  | cons x c ih =>
    generalize hcourse : x :: c ++ d = course at h
    cases h with
    | nil => exact nomatch hcourse
    | staging hrun hobeys hrest =>
      obtain ⟨rfl, rfl⟩ := List.cons.inj hcourse
      obtain ⟨first, rest, rfl, hfirst, hlater⟩ := ih hrest
      exact ⟨_, rest, (List.append_assoc _ _ _).symm, .staging hrun hobeys hfirst, hlater⟩
    | other hnot hrest =>
      obtain ⟨rfl, rfl⟩ := List.cons.inj hcourse
      obtain ⟨first, rest, rfl, hfirst, hlater⟩ := ih hrest
      exact ⟨_, rest, (List.append_assoc _ _ _).symm, .other hnot hfirst, hlater⟩

end Called

end Task

namespace Deployment

/-! ## What a deployment looks like without its ledger -/

/-- What a task looks like to somebody who does not see the ledger, if starts are recorded. -/
abbrev LooksFree {α : Type} (p seen : Task α) : Prop :=
  LooksLike Task.Question.isRecording Task.Started p seen

section Looks

variable {α : Type} {hasLedger : Bool} {config : Config} {job : Job} {request : DeploymentRequest}
  {application : ApplicationId} {m : Manifest} {s : Supervisor} {h : ClusterHandle}

/-- What is recorded is not seen. Whether this works may matter for a start, but starts work. -/
lemma looksFree_record {call : Ledger.Call} {f : Except DeployError Unit → Task α} {seen : Task α}
    (hf : ∀ r, (∀ name m, call = .recordStarted name m → r = .ok ()) → LooksFree (f r) seen) :
    LooksFree (record hasLedger application call >>= f) seen := by
  cases hasLedger with
  | false => exact hf (.ok ()) fun _ _ _ => rfl
  | true =>
    refine LooksLike.ask_of_hidden rfl fun answer hanswer => hf _ ?_
    rintro name m rfl
    obtain rfl : answer = .ok () := hanswer
    rfl

/-- An operation that is no record is seen as it is. -/
lemma looksFree_background {stage : Stage} {of : Option ApplicationId} {op : Operation}
    {held : Option ClusterHandle}
    (hop : Task.Question.isRecording (.background op held) = false) :
    LooksFree (Task.background stage of op held) (Task.background stage of op held) :=
  (LooksLike.question hop).bind fun _ => .pure _

/-- An operation with a limit that is no record is seen as it is. -/
lemma looksFree_bounded {stage : Stage} {of : Option ApplicationId} {limit : Millis}
    {op : Operation} {held : Option ClusterHandle}
    (hop : Task.Question.isRecording (.bounded op limit held) = false) :
    LooksFree (Task.bounded stage of limit op held) (Task.bounded stage of limit op held) :=
  (LooksLike.question hop).bind fun _ => .pure _

/-- An attempt to kill a cluster asks the ledger nothing. -/
lemma looksFree_kill : LooksFree (s.kill h) (s.kill h) := by
  refine (looksFree_bounded rfl).bind fun r => ?_
  rcases r with e | _ <;> exact .pure _

/-- The end of a cluster that is not awaited asks the ledger nothing. -/
lemma looksFree_terminateNow : LooksFree (s.terminateNow h) (s.terminateNow h) :=
  looksFree_kill.bind fun _ => (LooksLike.question rfl).bind fun _ => .pure _

/-- Polling asks the ledger nothing. -/
lemma looksFree_pollUntil (s : Supervisor) (h : ClusterHandle) (remaining : Millis)
    (room : Nat) (polls : Counter) :
    LooksFree (s.pollUntil h remaining room polls) (s.pollUntil h remaining room polls) := by
  refine Supervisor.pollUntil.induct s h (motive := fun remaining room polls =>
    LooksFree (s.pollUntil h remaining room polls) (s.pollUntil h remaining room polls)) ?_
    remaining room polls
  intro remaining room polls limit ihMoment ihLater
  rw [Supervisor.pollUntil]
  refine (LooksLike.question rfl).bind fun ending => ?_
  by_cases hsaw : Supervisor.sawFinished (min s.callTimeout remaining) ending = true
  · rw [if_pos hsaw]
    exact .pure _
  · rw [if_neg hsaw]
    by_cases hleft : remaining - ending.elapsed (min s.callTimeout remaining) = 0
    · rw [dif_pos hleft]
      exact .pure _
    · rw [dif_neg hleft]
      by_cases hroom : s.pollInterval = 0 ∧ 0 < room
      · rw [dif_pos hroom]
        exact (LooksLike.question rfl).bind fun _ => ihMoment ending hroom
      · rw [dif_neg hroom]
        exact (LooksLike.question rfl).bind fun _ => ihLater ending hleft

/-- The end of a cluster that is awaited asks the ledger nothing. -/
lemma looksFree_conclude : LooksFree (s.conclude h) (s.conclude h) := by
  refine (looksFree_pollUntil s h s.deadline Supervisor.burst 0).bind fun r => ?_
  obtain ⟨finished, polls⟩ := r
  cases finished with
  | false => exact looksFree_kill.bind fun _ => (LooksLike.question rfl).bind fun _ => .pure _
  | true => exact (LooksLike.question rfl).bind fun _ => .pure _

/-- An aborted deployment gives the failure that ended it, whether or not this is recorded. -/
lemma looksFree_abort {e : DeployError} {teardown : Option SupervisionReport} :
    LooksFree (abort hasLedger application e teardown : Task (Except DeployError α))
      (abort false application e teardown) :=
  looksFree_record fun _ _ => .pure _

/-- What becomes of a launched deployment is the same with and without a ledger. -/
lemma looksFree_finish {launched : Rollout.Launched} :
    LooksFree (finish hasLedger config application m s launched)
      (finish false config application m s launched) := by
  refine (LooksLike.question rfl).bind fun cancelled => ?_
  cases cancelled with
  | true => exact looksFree_terminateNow.bind fun _ => looksFree_abort
  | false =>
    have hwatch : LooksFree
        (Watcher.awaitOutcome application launched.job config.resultTimeout (some launched.handle))
        (Watcher.awaitOutcome application launched.job config.resultTimeout
          (some launched.handle)) :=
      (LooksLike.question rfl).bind fun _ => .pure _
    refine hwatch.bind fun outcome => ?_
    cases outcome with
    | error e => exact looksFree_terminateNow.bind fun _ => looksFree_abort
    | ok outcome => exact looksFree_conclude.bind fun _ => looksFree_record fun _ _ => .pure _

/-- The creation of a cluster and the submission of a job ask the ledger nothing. -/
lemma looksFree_rollout :
    LooksFree (Rollout.launch config job m s) (Rollout.launch config job m s) := by
  have hcreate : LooksFree (Rollout.createCluster (Launch.request config job m))
      (Rollout.createCluster (Launch.request config job m)) :=
    (looksFree_background rfl).bind fun _ => .pure _
  refine hcreate.bind fun created => ?_
  cases created with
  | error e => exact .pure _
  | ok h =>
    have hsubmit : LooksFree (Rollout.submitJob h job config.askTimeout)
        (Rollout.submitJob h job config.askTimeout) :=
      (looksFree_bounded rfl).bind fun _ => .pure _
    refine hsubmit.bind fun submitted => ?_
    cases submitted with
    | ok running => exact .pure _
    | error e => exact looksFree_terminateNow.bind fun _ => .pure _

/-- What follows the record of the start is the same with and without a ledger. -/
lemma looksFree_launch : LooksFree (launch hasLedger config job application m)
    (launch false config job application m) := by
  refine looksFree_rollout.bind fun launched => ?_
  cases launched with
  | error failure => exact looksFree_abort
  | ok launched => exact looksFree_finish

/-- **To somebody who does not see the ledger**, a deployment whose start is recorded looks like one
without a ledger.

**Proof sketch.** Part by part, along the program. Only `Deployment.record` asks the ledger; behind
the record of an end the program goes on in the same way whatever was answered, and behind the
record of a start it does if that succeeded. -/
lemma looksFree_run : LooksFree (run hasLedger config request) (run false config request) := by
  refine (looksFree_bounded rfl).bind fun allocated => ?_
  cases allocated with
  | error e => exact .pure _
  | ok application =>
    have hstage : LooksFree
        (Task.stage application config.stagingPrefix request.entries config.replication)
        (Task.stage application config.stagingPrefix request.entries config.replication) :=
      (looksFree_background rfl).bind fun _ => .pure _
    refine hstage.bind fun staged => ?_
    cases staged with
    | error e => exact .pure _
    | ok m =>
      refine (LooksLike.question rfl).bind fun cancelled => ?_
      cases cancelled with
      | true => exact .pure _
      | false =>
        refine looksFree_record fun r hr => ?_
        obtain rfl := hr _ _ rfl
        exact looksFree_launch

end Looks

/-! ## Two deployments among the same surroundings -/

/-- A deployment among surroundings to which the ledger does not belong: what is asked, what the
deployment gives, and what it calls of the storage and the platform. -/
structure Conducted (env : Task.Surroundings) (cancel : Option Task.Cancellation)
    (rule : List (Dialogue.Exchange Work.Question Work.Answer) →
      (q : Work.Question) → Work.Answer q)
    (hasLedger : Bool) (config : Config) (request : DeploymentRequest) (course : Task.Course)
    (result : Except DeployError DeploymentReport) (calls : List Rehearsal.Call) : Prop where
  ends : Ends (run hasLedger config request) course result
  beside : Task.Beside env cancel course
  called : Task.Called rule course.unrecorded calls

section Pairs

variable {hasLedger hasLedger' : Bool} {config : Config} {request : DeploymentRequest}
  {application : ApplicationId} {m : Manifest} {ending : Ending ApplicationId}
  {course course' : Task.Course} {result result' : Except DeployError DeploymentReport}
  {calls calls' : List Rehearsal.Call} {env : Task.Surroundings}
  {cancel : Option Task.Cancellation}
  {rule : List (Dialogue.Exchange Work.Question Work.Answer) →
    (q : Work.Question) → Work.Answer q}

/-- A start fails at one point only, and nothing is asked behind it. -/
lemma eq_of_failsToStart (hrun : Ends (run hasLedger config request) course result)
    (hfails : ∃ x ∈ course, x.failsToStart = true) :
    ∃ ending application m mishap,
      Task.settleWithin .allocation none config.askTimeout ending = .ok application ∧
      course = [allocation config ending, staging config request application (.ok m),
        cancellation false, recording (.recordStarted request.job.name m) (.error mishap)] ∧
      result = Attempt.settle .ledger (some m.applicationId) (.error mishap) := by
  obtain ⟨x, hx, hfails⟩ := hfails
  cases ran_of_ends hrun with
  | unallocated _ =>
    obtain rfl := List.mem_singleton.1 hx
    exact absurd hfails Bool.false_ne_true
  | unstaged _ _ =>
    simp only [List.mem_cons, List.not_mem_nil, or_false] at hx
    rcases hx with rfl | rfl <;> exact absurd hfails Bool.false_ne_true
  | cancelled _ =>
    simp only [List.mem_cons, List.not_mem_nil, or_false] at hx
    rcases hx with rfl | rfl | rfl <;> exact absurd hfails Bool.false_ne_true
  | unrecorded hallocated hopened =>
    cases hasLedger with
    | false => exact nomatch (ends_record_false_iff.1 hopened).2
    | true =>
      obtain ⟨answer, rfl, he⟩ := ends_record_true_iff.1 hopened
      rcases answer with (e | _) | _
      · exact ⟨_, _, _, .failed e, hallocated, rfl, congrArg Except.error (Except.error.inj he)⟩
      · exact ⟨_, _, _, .died, hallocated, rfl, congrArg Except.error (Except.error.inj he)⟩
      · exact nomatch he
  | @lived _ _ _ opening life last _ _ _ _ hopened hlife hclosed =>
    -- a deployment that goes on has recorded its start, and what it records later is no start
    exfalso
    have hrecords := Task.Step.isRecording_of_failsToStart hfails
    simp only [List.mem_cons, List.mem_append] at hx
    rcases hx with rfl | rfl | rfl | hx | hx | hx
    · exact Bool.false_ne_true hfails
    · exact Bool.false_ne_true hfails
    · exact Bool.false_ne_true hfails
    · obtain ⟨value, rfl⟩ := exists_value_of_mem_record hopened hx
      exact Bool.false_ne_true hfails
    · obtain ⟨created, rest, rfl, hrest⟩ := hlife.eq_creation
      rcases List.mem_cons.1 hx with rfl | hx
      · exact Bool.false_ne_true hfails
      · exact Bool.false_ne_true ((hrest x hx).2.symm.trans hrecords)
    · obtain ⟨answer, rfl⟩ := exists_answer_of_mem_record hclosed hx
      cases result <;> exact Bool.false_ne_true hfails

/-- A deployment without a ledger launches its cluster once the artifacts are staged and it did not
see a cancellation. -/
lemma reaches_launch
    (hallocated : Task.settleWithin .allocation none config.askTimeout ending = .ok application) :
    Reaches (run false config request)
      [allocation config ending, staging config request application (.ok m), cancellation false]
      (launch false config request.job application m) := by
  have hallocate : Ends (allocate config) [allocation config ending] (.ok application) :=
    Task.ends_bounded_iff.2 ⟨ending, rfl, hallocated.symm⟩
  have hstage : Ends (Task.stage application config.stagingPrefix request.entries
      config.replication) [staging config request application (.ok m)] (.ok m) :=
    ends_stage_iff.2 ⟨.ok m, rfl, rfl⟩
  exact hallocate.reaches_bind (hstage.reaches_bind
    ((Task.ends_ask_iff.2 rfl).reaches_bind (.here _)))

/-- What is seen of a deployment whose start did not fail is a deployment without a ledger. -/
lemma ends_unrecorded (hrun : Ends (run hasLedger config request) course result)
    (hstarts : ∀ x ∈ course, x.failsToStart = false) :
    Ends (run false config request) course.unrecorded result :=
  looksFree_run.ends hrun fun x hx _ => Task.started_of_failsToStart (hstarts x hx)

/-- What is seen of any deployment is a first part of one without a ledger: the whole of it, or the
three steps before its start is recorded. -/
lemma exists_reaches_unrecorded (hrun : Ends (run hasLedger config request) course result) :
    ∃ left, Reaches (run false config request) course.unrecorded left ∧
      ((∃ r, left = .done r) ∨ course.unrecorded.length = 3) := by
  by_cases hfails : ∃ x ∈ course, x.failsToStart = true
  · obtain ⟨ending, application, m, mishap, hallocated, rfl, -⟩ := eq_of_failsToStart hrun hfails
    exact ⟨_, reaches_launch hallocated, .inr rfl⟩
  · have hstarts : ∀ x ∈ course, x.failsToStart = false := fun x hx =>
      eq_false_of_ne_true fun h => hfails ⟨x, hx, h⟩
    exact ⟨_, (ends_unrecorded hrun hstarts).reaches, .inl ⟨result, rfl⟩⟩

/-- Deployments whose starts are recorded do the same and give the same. -/
lemma Conducted.eq_of_starts
    (hrun : Conducted env cancel rule hasLedger config request course result calls)
    (hrun' : Conducted env cancel rule hasLedger' config request course' result' calls')
    (hstarts : ∀ x ∈ course ++ course', x.failsToStart = false) :
    course.unrecorded = course'.unrecorded ∧ calls = calls' ∧ result = result' := by
  obtain ⟨hfirst, hsecond⟩ := List.forall_mem_append.1 hstarts
  obtain ⟨t, ht, hreplied⟩ := hrun.beside
  obtain ⟨t', ht', hreplied'⟩ := hrun'.beside
  have hends : Ends (run false config request) t.course result :=
    ht ▸ ends_unrecorded hrun.ends hfirst
  have hends' : Ends (run false config request) t'.course result' :=
    ht' ▸ ends_unrecorded hrun'.ends hsecond
  -- without the ledger both are the one run among these surroundings
  have hplay := Task.play_eq_some_iff.2 ⟨hends, hreplied⟩
  have hplay' := Task.play_eq_some_iff.2 ⟨hends', hreplied'⟩
  obtain ⟨rfl, rfl⟩ := Prod.mk.inj (Option.some.inj (hplay.symm.trans hplay'))
  have hcourse := ht.symm.trans ht'
  exact ⟨hcourse, hrun.called.unique (hcourse ▸ hrun'.called), rfl⟩

/-- A deployment whose start cannot be recorded does the same as any other one up to there. -/
lemma Conducted.eq_of_fails
    (hrun : Conducted env cancel rule hasLedger config request course result calls)
    (hrun' : Conducted env cancel rule hasLedger' config request course' result' calls')
    (hfails : ∃ x ∈ course, x.failsToStart = true) :
    ∃ before m mishap later more,
      course = before ++ [recording (.recordStarted request.job.name m) (.error mishap)] ∧
      before.unrecorded = before ∧ course'.unrecorded = before ++ later ∧ calls' = calls ++ more ∧
      result = Attempt.settle .ledger (some m.applicationId) (.error mishap) := by
  obtain ⟨ending, application, m, mishap, hallocated, rfl, rfl⟩ :=
    eq_of_failsToStart hrun.ends hfails
  obtain ⟨t, ht, hreplied⟩ := hrun.beside
  obtain ⟨t', ht', hreplied'⟩ := hrun'.beside
  have hreaches : Reaches (run false config request) t.course
      (launch false config request.job application m) := ht ▸ reaches_launch hallocated
  -- the other deployment is not over earlier, nor is it broken off earlier
  have happend : ∃ u, t' = t ++ u := by
    obtain ⟨left, hother, hover⟩ := exists_reaches_unrecorded hrun'.ends
    rw [← ht'] at hother
    obtain ⟨u, rfl, -⟩ | ⟨u, rfl, hu⟩ :=
      Task.Replied.exists_append hreaches hother hreplied hreplied'
    · exact ⟨u, rfl⟩
    · obtain rfl : u = [] := by
        rcases hover with ⟨r, rfl⟩ | hlength
        · rcases u with _ | ⟨x, u⟩
          · rfl
          · exact nomatch hu
        · have hthree : (t' ++ u).course.length = 3 := congrArg List.length ht
          rw [Task.Timed.course_append, List.length_append, ht', hlength] at hthree
          exact List.map_eq_nil_iff.1 (List.eq_nil_of_length_eq_zero (Nat.add_left_cancel hthree))
      exact ⟨[], by simp⟩
  obtain ⟨u, rfl⟩ := happend
  rw [Task.Timed.course_append, ht] at ht'
  obtain ⟨first, more, rfl, hfirst, -⟩ := (ht' ▸ hrun'.called).exists_append
  refine ⟨_, m, mishap, u.course, more, rfl, rfl, ht'.symm, ?_, rfl⟩
  rw [hrun.called.unique hfirst]

/-- What a task is answered if the ledger answers by a rule, and somebody else the other questions.
-/
def told (answers : (call : Ledger.Call) → Attempt call.Value) :
    (q : Task.Question) → Task.Answer q
  | .background (.ledger call) _ => answers call
  | .background _ _ => .error .died
  | .bounded _ _ _ => .endless
  | .watch _ _ _ => .cancelled
  | .pause _ _ => ()
  | .isCancelled => false
  | .release _ => ()

/-- A deployment whose start is recorded has a counterpart with any other ledger that records it.
-/
lemma Conducted.exists_conducted
    (hrun : Conducted env cancel rule hasLedger config request course result calls)
    (hstarts : ∀ x ∈ course, x.failsToStart = false)
    {answers : (call : Ledger.Call) → Attempt call.Value}
    (hanswers : ∀ name m, answers (.recordStarted name m) = .ok ()) :
    ∃ whole : Task.Course,
      Conducted env cancel rule hasLedger' config request whole result calls ∧
      whole.unrecorded = course.unrecorded ∧
      ∀ call answer, recording call answer ∈ whole → answer = answers call := by
  have hallowed : ∀ q, Task.Question.isRecording q = true → Task.Started q (told answers q) := by
    rintro (⟨op, held⟩ | _ | _ | _ | _ | _) -
    · cases op with
      | ledger call =>
        cases call with
        | recordStarted name m => exact hanswers name m
        | _ => trivial
      | _ => trivial
    all_goals trivial
  obtain ⟨whole, hends, hsame, htold⟩ := looksFree_run.exists_ends (told answers) hallowed
    (ends_unrecorded hrun.ends hstarts)
  have hunrecorded : Task.Course.unrecorded whole = course.unrecorded := hsame
  refine ⟨whole, ⟨hends, ?_, ?_⟩, hunrecorded, fun call answer hmem => htold _ hmem rfl⟩
  · obtain ⟨t, ht, hreplied⟩ := hrun.beside
    exact ⟨t, ht.trans hunrecorded.symm, hreplied⟩
  · exact hunrecorded ▸ hrun.called

end Pairs

/-! ## A ledger that is slow and dies -/

namespace Slow

open Runtime.Leftover (application manifest request)

/-- The cluster that comes up. -/
def cluster : ClusterHandle := ⟨application, ""⟩

/-- The job on the cluster. -/
def running : RunningJob := .polled "job" "" 100

/-- Why the job has no outcome. -/
def lost : DeployError := .ofKind .deployment "unreachable"

/-- The failure of a deployment whose job fails. -/
def failure : DeployError := lost.attributeTo (some application) .resultWait

/-- What the storage and the local files answer. -/
def storage : (q : Work.Question) → Work.Answer q
  | .storage .homeDirectory => .ok "/user"
  | .storage .defaultReplication => .ok 1
  | .storage (.upload _ _) => .ok ()
  | .storage (.stat _) => .ok (some ⟨0, 1, 1⟩)
  | .storage _ => .error .died
  | .platform _ => .error .died
  | .ledger _ => .error .died
  | .isFile _ => true
  | .digest _ => .ok (Sha256.hex [])

/-- Everything takes a millisecond, except that the ledger takes 200 to record a start, and dies
when it is told of the end. The job fails. -/
def surroundings : Task.Surroundings where
  background _ op :=
    match op with
    | .stage _ _ _ _ => (1, .ok manifest)
    | .platform (.createCluster _) => (1, .ok cluster)
    | .ledger (.recordStarted _ _) => (200, .ok ())
    | _ => (1, .error .died)
  bounded _ op :=
    match op with
    | .platform .newApplication => .ended 1 (.ok application)
    | .platform (.submitJob _ _) => .ended 1 (.ok running)
    | .platform (.forceKill _) => .ended 1 (.ok ())
    | _ => .endless
  job _ _ := some (1, .error lost)
  release _ _ := 1

/-- A cancellation after 100 milliseconds. -/
def moment : Task.Cancellation := ⟨100, 0⟩

/-- The run without a ledger. The job is waited for, and fails. -/
def free : Task.Timed :=
  [(allocation .default (.ended 1 (.ok application)), 1),
    (staging .default request application (.ok manifest), 2), (cancellation false, 2),
    (creation (Launch.request .default request.job manifest) (.ok cluster), 3),
    (submission .default cluster request.job (.ended 1 (.ok running)), 4),
    (cancellation false, 4),
    (watching .default cluster running (.resolved (.error lost)), 5),
    ((Supervisor.ofConfig .default).killed cluster (.ended 1 (.ok ())), 6),
    (Supervisor.released cluster, 7)]

/-- What happens without a ledger. -/
lemma play_free : surroundings.play (some moment) (run false .default request) [] =
    some (free, .error failure) :=
  rfl

/-- The same run beside a ledger that dies when it is told of the end. -/
def accompanied : Task.Course :=
  [allocation .default (.ended 1 (.ok application)),
    staging .default request application (.ok manifest), cancellation false,
    recording (.recordStarted request.job.name manifest) (.ok ()),
    creation (Launch.request .default request.job manifest) (.ok cluster),
    submission .default cluster request.job (.ended 1 (.ok running)), cancellation false,
    watching .default cluster running (.resolved (.error lost)),
    (Supervisor.ofConfig .default).killed cluster (.ended 1 (.ok ())),
    Supervisor.released cluster,
    recording (.recordAborted application failure (some .killed) none) (.error .died)]

/-- The storage answers like that when the file is staged. -/
private lemma obeys_staging : Dialogue.Obeys (fun _ => storage) Runtime.Leftover.staging := by
  refine Dialogue.obeys_of_forall_mem fun x hx => ?_
  simp only [Runtime.Leftover.staging, List.mem_cons, List.not_mem_nil, or_false] at hx
  rcases hx with rfl | rfl | rfl | rfl | rfl | rfl <;> rfl

/-- What happens without a ledger can be called. -/
private lemma exists_called : ∃ calls, Task.Called (fun _ => storage) free.course calls :=
  ⟨_, .other nofun (.staging Runtime.Leftover.ends_staging obeys_staging
    (.other nofun (.other nofun (.other nofun (.other nofun (.other nofun (.other nofun
      (.other nofun .nil))))))))⟩

/-- The run with the ledger. The job is not waited for any more. -/
def delayed : Task.Timed :=
  [(allocation .default (.ended 1 (.ok application)), 1),
    (staging .default request application (.ok manifest), 2), (cancellation false, 2),
    (recording (.recordStarted request.job.name manifest) (.ok ()), 202),
    (creation (Launch.request .default request.job manifest) (.ok cluster), 203),
    (submission .default cluster request.job (.ended 1 (.ok running)), 204),
    (cancellation true, 204),
    ((Supervisor.ofConfig .default).killed cluster (.ended 1 (.ok ())), 205),
    (Supervisor.released cluster, 206),
    (recording (.recordAborted application (Task.cancelledError application .submission)
      (some .killed) none) (.error .died), 207)]

/-- What happens with a ledger. -/
lemma play_delayed : surroundings.play (some moment) (run true .default request) [] =
    some (delayed, .error (Task.cancelledError application .submission)) :=
  rfl

end Slow

/-- **The ledger does not influence a deployment.** Take any two deployments among the same
surroundings. If no record of a start fails in them, they make the same calls to the storage and the
platform and give the same, whatever else their ledgers answer. If the record of the start fails in
one of them, this one has done the same as the other up to there; it gives this failure and does
nothing more. And a deployment in which it does not fail has a counterpart with any other ledger, so
that none waits in vain because of its ledger.

**Proof sketch.** What is seen of a deployment whose start is recorded is a run without a ledger
(`looksFree_run`), and among the same surroundings there is only one. A start that fails breaks this
run off (`reaches_launch`). -/
theorem run_ignoresLedger (env : Task.Surroundings) (cancel : Option Task.Cancellation)
    (rule : List (Dialogue.Exchange Work.Question Work.Answer) →
      (q : Work.Question) → Work.Answer q)
    (hasLedger hasLedger' : Bool) (config : Config) (request : DeploymentRequest)
    (course course' : Task.Course) (result result' : Except DeployError DeploymentReport)
    (calls calls' : List Rehearsal.Call)
    (hrun : Conducted env cancel rule hasLedger config request course result calls)
    (hrun' : Conducted env cancel rule hasLedger' config request course' result' calls') :
    ((∀ x ∈ course ++ course', x.failsToStart = false) →
      course.unrecorded = course'.unrecorded ∧ calls = calls' ∧ result = result') ∧
    ((∃ x ∈ course, x.failsToStart = true) →
      ∃ before m mishap later more,
        course = before ++ [recording (.recordStarted request.job.name m) (.error mishap)] ∧
        before.unrecorded = before ∧ course'.unrecorded = before ++ later ∧
        calls' = calls ++ more ∧
        result = Attempt.settle .ledger (some m.applicationId) (.error mishap)) ∧
    ((∀ x ∈ course, x.failsToStart = false) →
      ∀ (other : Bool) (answers : (call : Ledger.Call) → Attempt call.Value),
        (∀ name m, answers (.recordStarted name m) = .ok ()) →
        ∃ whole : Task.Course,
          Conducted env cancel rule other config request whole result calls ∧
          whole.unrecorded = course.unrecorded ∧
          ∀ call answer, recording call answer ∈ whole → answer = answers call) :=
  ⟨hrun.eq_of_starts hrun', hrun.eq_of_fails hrun',
    fun hstarts _ _ hanswers => hrun.exists_conducted hstarts hanswers⟩

/-- A job fails, and a ledger dies when it is told. -/
theorem run_ignoresLedger_of_closing_died :
    ∃ calls,
      Conducted Slow.surroundings (some Slow.moment) (fun _ => Slow.storage) false .default
        Runtime.Leftover.request Slow.free.course (.error Slow.failure) calls ∧
      Conducted Slow.surroundings (some Slow.moment) (fun _ => Slow.storage) true .default
        Runtime.Leftover.request Slow.accompanied (.error Slow.failure) calls := by
  obtain ⟨hends, hreplied⟩ := Task.play_eq_some_iff.1 Slow.play_free
  have hends' : Ends (run true .default Runtime.Leftover.request) Slow.accompanied
      (.error Slow.failure) :=
    .ask (.ask (.ask (.ask (.ask (.ask (.ask (.ask (.ask (.ask (.ask (.done _)))))))))))
  obtain ⟨calls, hcalled⟩ := Slow.exists_called
  obtain ⟨calls', hcalled'⟩ := Slow.exists_called
  have hrun : Conducted Slow.surroundings (some Slow.moment) (fun _ => Slow.storage) false .default
      Runtime.Leftover.request Slow.free.course (.error Slow.failure) calls :=
    ⟨hends, ⟨Slow.free, rfl, hreplied⟩, hcalled⟩
  have hrun' : Conducted Slow.surroundings (some Slow.moment) (fun _ => Slow.storage) true .default
      Runtime.Leftover.request Slow.accompanied (.error Slow.failure) calls' :=
    ⟨hends', ⟨Slow.free, rfl, hreplied⟩, hcalled'⟩
  obtain ⟨hsame, -, -⟩ := run_ignoresLedger _ _ _ _ _ _ _ _ _ _ _ _ _ hrun hrun'
  obtain ⟨-, rfl, -⟩ := hsame (by decide)
  exact ⟨calls, hrun, hrun'⟩

/-- **The time that the ledger takes does matter** to a deployment that is cancelled at some time:
without a ledger its job is waited for, and fails; with one that takes its time to record the start
the deployment sees the cancellation before that. -/
theorem run_delayedByLedger :
    ∃ t t' : Task.Timed,
      Slow.surroundings.play (some Slow.moment) (run false .default Runtime.Leftover.request) [] =
        some (t, .error Slow.failure) ∧
      Slow.surroundings.play (some Slow.moment) (run true .default Runtime.Leftover.request) [] =
        some (t', .error (Task.cancelledError Runtime.Leftover.application .submission)) ∧
      (∀ x ∈ t'.course, x.failsToStart = false) ∧
      Slow.failure ≠ Task.cancelledError Runtime.Leftover.application .submission :=
  ⟨Slow.free, Slow.delayed, Slow.play_free, Slow.play_delayed, by decide, by decide⟩

end Deployment

end ClusterDeploy
