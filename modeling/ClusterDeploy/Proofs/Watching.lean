import ClusterDeploy.Proofs.Task.Timing
import Mathlib.Logic.Basic

set_option relaxedAutoImplicit false
set_option autoImplicit false

/-!
# Looking at every moment

Somebody who waits for a job sleeps until something comes. Here it is shown that nothing is missed:
what is found is what would be found by somebody who looks at every moment. From this follows what
the result of waiting for a job is.

## Main definitions

* `Watcher.Race.Stops` — looks at every moment, until something is found.

## Main results

* `Watcher.Race.stops_zero_iff` — who is first is found by looking at every moment.
* `Watcher.awaitOutcome_firstWins` — the result of waiting for a job, in all orders of the three.
-/

namespace ClusterDeploy

namespace Watcher

namespace Race

variable {race : Race} {moment time : Millis} {watched : Watched}

/-- Looks at every moment, beginning with a given one, until something is found. -/
inductive Stops (race : Race) : Millis → Millis → Watched → Prop
  | found {moment : Millis} {watched : Watched} (h : race.look moment = some watched) :
      Stops race moment moment watched
  | later {moment time : Millis} {watched : Watched} (h : race.look moment = none)
      (hrest : Stops race (moment + 1) time watched) : Stops race moment time watched

/-- Something is found first at the first moment at which something is found. -/
lemma stops_iff : race.Stops moment time watched ↔ moment ≤ time ∧
    race.look time = some watched ∧ ∀ m, moment ≤ m → m < time → race.look m = none := by
  constructor
  · intro h
    induction h with
    | found h => exact ⟨Nat.le_refl _, h, fun m hle hlt => absurd hle (Nat.not_le_of_lt hlt)⟩
    | later h _ ih =>
      obtain ⟨hle, hfound, hnone⟩ := ih
      refine ⟨Nat.le_of_succ_le hle, hfound, fun m hm hlt => ?_⟩
      obtain rfl | hm := Nat.eq_or_lt_of_le hm
      · exact h
      · exact hnone m hm hlt
  · rintro ⟨hle, hfound, hnone⟩
    obtain ⟨n, rfl⟩ := Nat.exists_eq_add_of_le hle
    induction n generalizing moment with
    | zero => exact .found hfound
    | succ n ih =>
      have hnow : race.look moment = none :=
        hnone moment (Nat.le_refl _) (Nat.lt_add_of_pos_right n.succ_pos)
      rw [Nat.add_comm n 1, ← Nat.add_assoc] at hfound hnone ⊢
      refine .later hnow (ih (Nat.le_add_right _ _) hfound fun m hm => ?_)
      exact hnone m (Nat.le_of_succ_le hm)

/-- **Who is first is found by looking at every moment** from the first one on.

**Proof sketch.** Before the moment at which something is found all three are to come, so whoever is
found comes at this moment and not earlier. -/
lemma stops_zero_iff : race.Stops 0 time watched ↔ race.First time watched := by
  have hbefore : (∀ m < time, race.look m = none) ↔ race.NobodyBefore time := by
    simp only [look_eq_none_iff]
    constructor
    · intro h
      refine ⟨fun c hc => Nat.le_of_not_lt fun hlt => ?_,
        fun t ht => Nat.le_of_not_lt fun hlt => ?_, fun e he => Nat.le_of_not_lt fun hlt => ?_⟩
      · exact Nat.lt_irrefl c ((h c hlt).1 c hc)
      · exact Nat.lt_irrefl t ((h t hlt).2.1 t ht)
      · exact Nat.lt_irrefl e.1 ((h e.1 hlt).2.2 e he)
    · rintro ⟨hc, ht, he⟩ m hm
      exact ⟨fun c h => Nat.lt_of_lt_of_le hm (hc c h), fun t h => Nat.lt_of_lt_of_le hm (ht t h),
        fun e h => Nat.lt_of_lt_of_le hm (he e h)⟩
  rw [stops_iff, and_iff_right (Nat.zero_le time), first_iff]
  simp only [Nat.zero_le, forall_const, hbefore]

end Race

end Watcher

/-! ## Waiting in time -/

namespace Task

variable {env : Surroundings} {cancel : Option Cancellation} {before : Timed} {job : RunningJob}
  {timeout : Option Millis} {held : Option ClusterHandle}

/-- The only step of the wait for a job is the wait, and its result is told from what came of it. -/
lemma play_awaitOutcome_eq_some_iff {application : ApplicationId} {whole : Timed}
    {result : Except DeployError JobOutcome} :
    env.play cancel (Watcher.awaitOutcome application job timeout held) before =
        some (whole, result) ↔
      ∃ span watched, (env.race cancel before job timeout).First span watched ∧
        whole = before ++ [(⟨.watch job timeout held, watched⟩, before.now + span)] ∧
        result = Watcher.outcome application job.id timeout watched := by
  have hplay : env.play cancel (Watcher.awaitOutcome application job timeout held) before =
      (env.reply cancel before (.watch job timeout held)).map fun e =>
        (before ++ [(⟨.watch job timeout held, e.2⟩, e.1)],
          Watcher.outcome application job.id timeout e.2) := by
    change env.play cancel (Dialogue.ask (.watch job timeout held) fun watched =>
      .done (Watcher.outcome application job.id timeout watched)) before = _
    rw [Surroundings.play]
    cases env.reply cancel before (.watch job timeout held) <;> rfl
  rw [hplay, Option.map_eq_some_iff]
  constructor
  · rintro ⟨⟨time, watched⟩, hreply, hend⟩
    obtain ⟨span, hfirst, rfl⟩ := reply_watch_eq_some_iff.1 hreply
    obtain ⟨rfl, rfl⟩ := Prod.mk.inj hend
    exact ⟨span, watched, hfirst, rfl, rfl⟩
  · rintro ⟨span, watched, hfirst, rfl, rfl⟩
    exact ⟨(_, watched), reply_watch_eq_some_iff.2 ⟨span, hfirst, rfl⟩, rfl⟩

/-- Waiting for a job comes to a result after a span of time if somebody is first then. -/
lemma exists_play_awaitOutcome_iff {application : ApplicationId} {span : Millis}
    {result : Except DeployError JobOutcome} :
    (∃ watched, env.play cancel (Watcher.awaitOutcome application job timeout held) before = some
        (before ++ [(⟨.watch job timeout held, watched⟩, before.now + span)], result)) ↔
      ∃ watched, (env.race cancel before job timeout).First span watched ∧
        result = Watcher.outcome application job.id timeout watched := by
  constructor
  · rintro ⟨watched, hwait⟩
    obtain ⟨span', watched', hfirst, hwhole, rfl⟩ := play_awaitOutcome_eq_some_iff.1 hwait
    obtain ⟨hstep, htime⟩ := Prod.mk.inj (List.cons.inj (List.append_cancel_left hwhole)).1
    obtain rfl := Nat.add_left_cancel htime
    cases hstep
    exact ⟨watched, hfirst, rfl⟩
  · rintro ⟨watched, hfirst, rfl⟩
    exact ⟨watched, play_awaitOutcome_eq_some_iff.2 ⟨span, watched, hfirst, rfl, rfl⟩⟩

/-- Waiting for a job comes to no result exactly if nobody is ever first. -/
lemma play_awaitOutcome_eq_none_iff {application : ApplicationId} :
    env.play cancel (Watcher.awaitOutcome application job timeout held) before = none ↔
      ¬ ∃ span watched, (env.race cancel before job timeout).First span watched := by
  rw [← not_iff_not, not_not, ← ne_eq, Option.ne_none_iff_exists']
  constructor
  · rintro ⟨⟨whole, result⟩, hwait⟩
    obtain ⟨span, watched, hfirst, -⟩ := play_awaitOutcome_eq_some_iff.1 hwait
    exact ⟨span, watched, hfirst⟩
  · rintro ⟨span, watched, hfirst⟩
    exact ⟨_, play_awaitOutcome_eq_some_iff.2 ⟨span, watched, hfirst, rfl, rfl⟩⟩

end Task

namespace Watcher

open ClusterDeploy.Task (Surroundings Cancellation Timed)

/-- **Waiting for a job ends with whoever is first.** Whatever the surroundings are, whenever the
cancellation and the end of the job come and however long the timeout is, each of which may never
come, and counted from the moment when the waiting begins:

1. a cancellation that is no later than the timeout and the end of the job ends the waiting when it
   comes, as cancelled;
2. a timeout that is before the cancellation and no later than the end of the job ends it when it
   comes, as a timeout;
3. otherwise the end of the job ends it when it comes: with the outcome of the job unchanged, also
   if the job failed, or with the failure to learn of it, which names the application and the stage
   unless it named its own;
4. there is exactly one result, unless none of the three ever comes, and then there is none;
5. and this is the result of looking at every moment first at the cancellation, then at the timeout,
   then at the job.

**Proof sketch.** The wait is one question, and its answer names who is first in a race
(`Task.reply_watch_eq_some_iff`). A timeout that is not after the end of a job that is first would
be after a cancellation, which then was first. -/
theorem awaitOutcome_firstWins (env : Surroundings) (cancel : Option Cancellation) (before : Timed)
    (application : ApplicationId) (job : RunningJob) (timeout : Option Millis)
    (held : Option ClusterHandle) :
    let race := env.race cancel before job timeout
    let wait := env.play cancel (awaitOutcome application job timeout held) before
    let returns := fun (span : Millis) (result : Except DeployError JobOutcome) =>
      ∃ watched, wait = some
        (before ++ [(⟨.watch job timeout held, watched⟩, before.now + span)], result)
    (∀ c, race.CancelledAt c → returns c (.error
      ⟨some application, some .resultWait, .cancelled, "deployment cancelled by caller"⟩)) ∧
    (∀ t, race.ExpiredAt t → returns t (.error
      ⟨some application, some .resultWait, .timeout,
        s!"job {job.id} produced no result within {t}ms"⟩)) ∧
    (∀ t outcome, race.ResolvedAt t (.ok outcome) → returns t (.ok outcome)) ∧
    (∀ t e, race.ResolvedAt t (.error e) → returns t (.error
      ⟨e.application.or (some application), e.stage.or (some .resultWait), e.kind, e.message⟩)) ∧
    ((∃! p : Millis × Except DeployError JobOutcome, returns p.1 p.2) ↔
      ¬ (race.cancellation = none ∧ race.timeout = none ∧ race.job = none)) ∧
    (wait = none ↔ race.cancellation = none ∧ race.timeout = none ∧ race.job = none) ∧
    ∀ span result, returns span result ↔ ∃ watched, race.Stops 0 span watched ∧
      result = outcome application job.id timeout watched := by
  intro race wait returns
  have hreturns (span : Millis) (result : Except DeployError JobOutcome) : returns span result ↔
      ∃ watched, race.First span watched ∧ result = outcome application job.id timeout watched :=
    Task.exists_play_awaitOutcome_iff
  have hexists : (∃ span watched, race.First span watched) ↔
      ¬ (race.cancellation = none ∧ race.timeout = none ∧ race.job = none) :=
    Race.exists_first_iff
  refine ⟨fun c h => ?_, fun t h => ?_, fun t outcome h => ?_, fun t e h => ?_, ?_, ?_, ?_⟩
  · exact (hreturns _ _).2 ⟨_, .cancelled h, rfl⟩
  · refine (hreturns _ _).2 ⟨_, .expired h, ?_⟩
    have htimeout : timeout = some t := h.1
    rw [htimeout]
    rfl
  · exact (hreturns _ _).2 ⟨_, .resolved h, rfl⟩
  · exact (hreturns _ _).2 ⟨_, .resolved h, rfl⟩
  · rw [← hexists]
    constructor
    · rintro ⟨⟨span, result⟩, hreturn, -⟩
      obtain ⟨watched, hfirst, -⟩ := (hreturns _ _).1 hreturn
      exact ⟨span, watched, hfirst⟩
    · rintro ⟨span, watched, hfirst⟩
      refine ⟨(span, outcome application job.id timeout watched),
        (hreturns _ _).2 ⟨watched, hfirst, rfl⟩, ?_⟩
      rintro ⟨span', result'⟩ hreturn
      obtain ⟨watched', hfirst', rfl⟩ := (hreturns _ _).1 hreturn
      -- only one of the three is first
      obtain ⟨rfl, rfl⟩ := hfirst.unique hfirst'
      rfl
  · exact Task.play_awaitOutcome_eq_none_iff.trans ((not_congr hexists).trans not_not)
  · intro span result
    simp only [hreturns, Race.stops_zero_iff]

/-- A job fails five milliseconds after the waiting began, at the moment of the cancellation and of
the timeout: a cancellation that is seen by then is first, and otherwise the timeout. With one more
millisecond for both, the job is first, and its failure keeps its cause. -/
theorem awaitOutcome_firstWins_of_tie :
    let env : Surroundings :=
      { background := fun _ _ => (0, .error .died)
        bounded := fun _ _ => .endless
        job := fun _ _ => some (5, .ok (.failed [0, 255]))
        release := fun _ _ => 0 }
    let before : Timed := [(⟨.pause 100 none, ()⟩, 100)]
    let job : RunningJob := .polled "j" "http://master/jobs/j" 500
    let wait (cancel : Option Cancellation) (timeout : Millis) :=
      (env.play cancel (awaitOutcome ⟨1, 1⟩ job (some timeout) none) before).map
        fun p => (p.1.now, p.2)
    wait (some ⟨105, 1⟩) 5 = some (105, .error
      ⟨some ⟨1, 1⟩, some .resultWait, .cancelled, "deployment cancelled by caller"⟩) ∧
    wait (some ⟨105, 2⟩) 5 = some (105, .error
      ⟨some ⟨1, 1⟩, some .resultWait, .timeout, "job j produced no result within 5ms"⟩) ∧
    wait (some ⟨105, 2⟩) 6 = some (105, .ok (.failed [0, 255])) := by
  intro env before job wait
  have hfirst (cancel : Option Cancellation) (timeout : Millis) :=
    awaitOutcome_firstWins env cancel before ⟨1, 1⟩ job (some timeout) none
  refine ⟨?_, ?_, ?_⟩
  · have hcancelled : (env.race (some ⟨105, 1⟩) before job (some 5)).CancelledAt 5 :=
      ⟨rfl, by decide, by decide⟩
    obtain ⟨watched, hwait⟩ := (hfirst (some ⟨105, 1⟩) 5).1 5 hcancelled
    exact congrArg (Option.map fun p => (p.1.now, p.2)) hwait
  · have hexpired : (env.race (some ⟨105, 2⟩) before job (some 5)).ExpiredAt 5 :=
      ⟨rfl, by decide, by decide⟩
    obtain ⟨watched, hwait⟩ := (hfirst (some ⟨105, 2⟩) 5).2.1 5 hexpired
    exact congrArg (Option.map fun p => (p.1.now, p.2)) hwait
  · have hresolved : (env.race (some ⟨105, 2⟩) before job (some 6)).ResolvedAt 5
        (.ok (.failed [0, 255])) := Race.resolvedAt_iff.2 ⟨rfl, by decide, by decide⟩
    obtain ⟨watched, hwait⟩ := (hfirst (some ⟨105, 2⟩) 6).2.2.1 5 _ hresolved
    exact congrArg (Option.map fun p => (p.1.now, p.2)) hwait

end Watcher

end ClusterDeploy
