import ClusterDeploy.Proofs.Supervision
import ClusterDeploy.Proofs.Task.Timing

set_option relaxedAutoImplicit false
set_option autoImplicit false

/-!
# The schedule of supervision

A cluster is polled at intervals until a deadline. How long a poll may take is limited by the time
that is left, and so is the pause behind it; so the deadline is met to the moment, however long the
calls take and even if they never end.

## Main definitions

* `Task.Timed.begun` — the steps of a course with the times at which they begin.
* `Supervisor.Poll`, `Supervisor.pollsOf`, `Supervisor.killsOf` — the polls of a course, and when
  clusters are killed in it.
* `Supervisor.Timetable` — the courses of the polling in time.
* `Supervisor.closing` — the steps behind the polling.
* `Supervisor.Punctual` — a course of `Supervisor.conclude` that meets the deadline.
* `Supervisor.AnswersAtOnce` — surroundings in which polls take no time.

## Main results

* `Supervisor.exists_timetable` — the polling has a course, and it is of this form.
* `Supervisor.Timetable.length_pollsOf_le` — the number of polls.
* `Supervisor.Timetable.begun_of_neverFinished` — when a cluster is polled that answers at once.
* `Supervisor.conclude_punctual` — supervision meets its deadline.

## Implementation notes

The interval between two polls is not zero here. What happened before the supervision does not
matter; times are counted from where that was over.
-/

namespace ClusterDeploy

namespace Task.Timed

/-- The steps of a course, each with the time at which it begins. The first one begins at a given
time, and the others when the step before them is over. -/
def begun (now : Millis) : Timed → List (Step × Millis)
  | [] => []
  | x :: t => (x.1, now) :: begun x.2 t

/-- When a course is over that begins at a given time. -/
def endsAt (now : Millis) (t : Timed) : Millis :=
  (t.getLast?.map (·.2)).getD now

variable {now : Millis} {s t : Timed} {x : Step × Millis}

/-- Without steps no time passes. -/
@[simp]
lemma endsAt_nil : endsAt now [] = now :=
  rfl

/-- A timed course ends when what follows its first step ends. -/
@[simp]
lemma endsAt_cons : endsAt now (x :: t) = endsAt x.2 t := by
  rw [endsAt, List.getLast?_cons, endsAt]
  cases t.getLast? <;> rfl

/-- The second of two parts starts when the first one ends. -/
@[simp]
lemma endsAt_append : endsAt now (s ++ t) = endsAt (endsAt now s) t := by
  induction s generalizing now with
  | nil => rfl
  | cons x s ih => rw [List.cons_append, endsAt_cons, endsAt_cons, ih]

/-- A course goes on when what happened before is over. -/
lemma now_append : (s ++ t).now = endsAt s.now t := by
  change endsAt 0 (s ++ t) = endsAt (endsAt 0 s) t
  exact endsAt_append

/-- The steps of two parts begin one after the other. -/
@[simp]
lemma begun_append : begun now (s ++ t) = begun now s ++ begun (endsAt now s) t := by
  induction s generalizing now with
  | nil => rfl
  | cons x s ih => rw [List.cons_append, begun, begun, endsAt_cons, ih, List.cons_append]

end Task.Timed

namespace Supervisor

open Dialogue (Ends)
open ClusterDeploy.Task (Timed Replied Surroundings Cancellation)

/-! ## Polls and kills in time -/

/-- A poll: when it began, how long its answer was waited for at most, and how it ended. -/
structure Poll where
  begun : Millis
  limit : Millis
  ending : Ending ApplicationStatus

/-- The poll that a step is. -/
def Poll.of? : Task.Step × Millis → Option Poll
  | (⟨.bounded (.platform (.queryStatus _)) limit _, ending⟩, begun) => some ⟨begun, limit, ending⟩
  | _ => none

/-- The polls of a course, in order. -/
def pollsOf (now : Millis) (t : Timed) : List Poll :=
  (t.begun now).filterMap Poll.of?

/-- When clusters are killed in a course. -/
def killsOf (now : Millis) (t : Timed) : List Millis :=
  (t.begun now).filterMap fun x => (x.1.question.call?.bind Rehearsal.Call.kill?).map fun _ => x.2

/-- How long the answer to a poll is waited for at most, if no answer is of use at some time. -/
def limitAt (s : Supervisor) (due now : Millis) : Millis :=
  min s.callTimeout (due - now)

variable {s : Supervisor} {h : ClusterHandle} {due now : Millis} {t u : Timed} {finished : Bool}
  {env : Surroundings} {cancel : Option Cancellation} {before : Timed}

/-- The polls of two parts are those of each of them. -/
lemma pollsOf_append : pollsOf now (t ++ u) = pollsOf now t ++ pollsOf (t.endsAt now) u := by
  rw [pollsOf, Timed.begun_append, List.filterMap_append]
  rfl

/-- The kills of two parts are those of each of them. -/
lemma killsOf_append : killsOf now (t ++ u) = killsOf now t ++ killsOf (t.endsAt now) u := by
  rw [killsOf, Timed.begun_append, List.filterMap_append]
  rfl

/-! ## The polling -/

/-- The courses of the polling from some time on, in which nothing is asked behind the time when it
is due to end. It says whether the cluster was seen finished. -/
inductive Timetable (s : Supervisor) (h : ClusterHandle) (due : Millis) :
    Millis → Timed → Bool → Prop where
  /-- The last poll saw the cluster finished, or it is over when the polling is due to end. -/
  | last {now : Millis} {ending : Ending ApplicationStatus} :
    now ≤ due →
    (sawFinished (s.limitAt due now) ending = true ∨
      now + ending.elapsed (s.limitAt due now) = due) →
    Timetable s h due now
      [(polled h (s.limitAt due now) ending, now + ending.elapsed (s.limitAt due now))]
      (sawFinished (s.limitAt due now) ending)
  /-- Behind any other poll there is time for a pause, and then for another poll. -/
  | again {now heard : Millis} {ending : Ending ApplicationStatus} {rest : Timed}
      {finished : Bool} :
    heard = now + ending.elapsed (s.limitAt due now) → heard < due →
    sawFinished (s.limitAt due now) ending = false →
    Timetable s h due (min (heard + s.pollInterval) due) rest finished →
    Timetable s h due now
      ((polled h (s.limitAt due now) ending, heard) ::
        (paused h (min s.pollInterval (due - heard)), min (heard + s.pollInterval) due) :: rest)
      finished

/-- Nobody waits longer than a limit. -/
lemma elapsed_le {α : Type} (ending : Ending α) (limit : Millis) :
    ending.elapsed limit ≤ limit := by
  cases ending with
  | ended took result => exact Nat.min_le_right took limit
  | endless => exact Nat.le_refl limit

/-- **The polling has a course**, whatever the surroundings do, and nothing in it is behind the time
when it is due to end.

**Proof sketch.** Induction along the recursion of `Supervisor.pollUntil`. The limit of a poll is at
most the time that is left, and a pause is no longer than what is left behind the poll. Since the
interval is not zero, the branch in which no time passes is never taken. -/
lemma exists_timetable (hpositive : 0 < s.pollInterval) (remaining : Millis) (room : Nat)
    (polls : Counter) : ∀ before : Timed, before.now + remaining = due →
      ∃ t finished count, Ends (s.pollUntil h remaining room polls) t.course (finished, count) ∧
        Replied env cancel before t ∧ Timetable s h due before.now t finished := by
  refine Supervisor.pollUntil.induct s h (motive := fun remaining room polls =>
    ∀ before : Timed, before.now + remaining = due →
      ∃ t finished count, Ends (s.pollUntil h remaining room polls) t.course (finished, count) ∧
        Replied env cancel before t ∧ Timetable s h due before.now t finished) ?_
    remaining room polls
  intro remaining room polls limit _ ih before hdue
  have hlimit : s.limitAt due before.now = limit := by
    rw [limitAt, ← hdue, Nat.add_sub_cancel_left]
  obtain ⟨ending, hending⟩ : ∃ ending : Ending ApplicationStatus,
      ending = env.bounded before (.platform (.queryStatus h)) := ⟨_, rfl⟩
  obtain ⟨heard, hheard⟩ : ∃ heard : Millis, heard = before.now + ending.elapsed limit := ⟨_, rfl⟩
  have hshort : ending.elapsed limit ≤ remaining :=
    Nat.le_trans (elapsed_le ending limit) (Nat.min_le_right _ _)
  have hreply : env.reply cancel before (polled h limit ending).question =
      some (heard, ending) := by
    rw [hheard, hending]
    rfl
  -- either this poll is the last one, or a pause follows, and then the other polls
  by_cases hlast : sawFinished limit ending = true ∨ remaining - ending.elapsed limit = 0
  · refine ⟨[(polled h limit ending, heard)], sawFinished limit ending, polls + 1, ?_,
      Task.replied_cons_iff.2 ⟨hreply, Task.replied_nil⟩, ?_⟩
    · rw [pollUntil]
      refine Dialogue.ends_question_bind_iff.2 ⟨ending, [], rfl, ?_⟩
      by_cases hsaw : sawFinished limit ending = true
      · rw [if_pos hsaw, hsaw]
        exact .done _
      · rw [if_neg hsaw, dif_pos (hlast.resolve_left hsaw), Bool.eq_false_iff.2 hsaw]
        exact .done _
    · rw [hheard]
      rw [← hlimit] at hlast hshort ⊢
      exact .last (by grind) (hlast.imp_right fun hleft => by grind)
  · obtain ⟨hsaw, hleft⟩ := not_or.1 hlast
    obtain ⟨span, hspan⟩ : ∃ span : Millis, span = min s.pollInterval (due - heard) := ⟨_, rfl⟩
    have hpause : max 1 (min s.pollInterval (remaining - ending.elapsed limit)) = span := by
      grind
    have hlater : heard + span = min (heard + s.pollInterval) due := by grind
    obtain ⟨rest, finished, count, hrest, hreplied, htable⟩ := ih ending hleft
      (before ++ [(polled h limit ending, heard), (paused h span, heard + span)]) (by
        rw [hpause, Timed.now_append, Timed.endsAt_cons, Timed.endsAt_cons, Timed.endsAt_nil]
        grind)
    rw [Timed.now_append, Timed.endsAt_cons, Timed.endsAt_cons, Timed.endsAt_nil, hlater] at htable
    refine ⟨(polled h limit ending, heard) :: (paused h span, heard + span) :: rest, finished,
      count, ?_, Task.replied_cons_iff.2 ⟨hreply, Task.replied_cons_iff.2 ⟨?_, ?_⟩⟩, ?_⟩
    · rw [pollUntil]
      refine Dialogue.ends_question_bind_iff.2 ⟨ending, _, rfl, ?_⟩
      rw [if_neg hsaw, dif_neg hleft, dif_neg fun hmoment => hpositive.ne' hmoment.1, hpause]
      rw [hpause] at hrest
      exact Dialogue.ends_question_bind_iff.2 ⟨(), _, rfl, hrest⟩
    · change some ((before ++ [(polled h limit ending, heard)]).now + span, ()) = _
      rw [Timed.now_append, Timed.endsAt_cons, Timed.endsAt_nil]
    · rwa [List.append_assoc]
    · rw [hlater, hspan]
      rw [← hlimit] at hheard hsaw ⊢
      exact .again hheard (by grind) (Bool.eq_false_iff.2 hsaw) htable

/-! ## What the polling keeps to -/

namespace Timetable

/-- The first poll of some polling comes before those behind the pause. -/
lemma pollsOf_again {heard later : Millis} {limit span : Millis}
    {ending : Ending ApplicationStatus} {rest : Timed} :
    pollsOf now ((polled h limit ending, heard) :: (paused h span, later) :: rest) =
      ⟨now, limit, ending⟩ :: pollsOf later rest :=
  rfl

/-- Nothing is killed while a cluster is polled. -/
lemma killsOf_eq_nil (ht : Timetable s h due now t finished) : killsOf now t = [] := by
  induction ht with
  | last _ _ => rfl
  | again _ _ _ _ ih => exact ih

/-- The course is one of the polling. -/
lemma exists_polls (ht : Timetable s h due now t finished) :
    ∃ count, Polls h t.course finished count := by
  induction ht with
  | last _ _ => exact ⟨1, .last _ _⟩
  | again _ _ hsaw _ ih =>
    obtain ⟨count, hpolls⟩ := ih
    exact ⟨count + 1, .again hsaw hpolls⟩

/-- A timetable is not begun after it is due. -/
lemma now_le (ht : Timetable s h due now t finished) : now ≤ due := by
  cases ht with
  | last hnow _ => exact hnow
  | again hheard hlt _ _ => grind

/-- **The polling is over at the time when it is due to end**, or earlier if it saw the cluster
finished. -/
lemma endsAt_le (ht : Timetable s h due now t finished) :
    t.endsAt now ≤ due ∧ (finished = false → t.endsAt now = due) := by
  induction ht with
  | @last now ending hnow hlast =>
    have hshort := elapsed_le ending (s.limitAt due now)
    have hlimit : s.limitAt due now ≤ due - now := Nat.min_le_right _ _
    rw [Timed.endsAt_cons, Timed.endsAt_nil]
    refine ⟨by grind, fun hsaw => hlast.resolve_left ?_⟩
    rw [hsaw]
    exact Bool.false_ne_true
  | again _ _ _ _ ih => rwa [Timed.endsAt_cons, Timed.endsAt_cons]

/-- No poll begins behind the time when the polling is due to end, and none may run past it. -/
lemma limit_eq (ht : Timetable s h due now t finished) :
    ∀ p ∈ pollsOf now t, p.begun ≤ due ∧ p.limit = s.limitAt due p.begun := by
  induction ht with
  | last hnow _ => exact List.forall_mem_singleton.2 ⟨hnow, rfl⟩
  | again hheard hlt _ _ ih =>
    rw [pollsOf_again]
    exact List.forall_mem_cons.2 ⟨⟨by grind, rfl⟩, ih⟩

/-- **The number of polls** is at most that of the intervals that begin before the time when the
polling is due to end, and one more. -/
lemma length_pollsOf_le (hpositive : 0 < s.pollInterval) (ht : Timetable s h due now t finished) :
    (pollsOf now t).length ≤ (due - now) ⌈/⌉ s.pollInterval + 1 := by
  induction ht with
  | last _ _ => exact Nat.le_add_left _ _
  | @again now heard ending rest finished hheard hlt _ _ ih =>
    have hleft : due - min (heard + s.pollInterval) due ≤ due - now - s.pollInterval := by grind
    rw [pollsOf_again, List.length_cons, ceilDiv_eq_succ (by grind) hpositive]
    exact Nat.succ_le_succ (ih.trans (Nat.succ_le_succ
      ((gc_mul_ceilDiv hpositive).monotone_l hleft)))

end Timetable

/-! ## Polls that take no time -/

/-- Polls of a cluster take no time, and its answers are given one after the other. -/
def AnswersAtOnce (env : Surroundings) (h : ClusterHandle) (before : Timed)
    (answers : Nat → Attempt ApplicationStatus) : Prop :=
  ∀ t, env.bounded (before ++ t) (.platform (.queryStatus h)) =
    .ended 0 (answers (pollsOf before.now t).length)

variable {answers : Nat → Attempt ApplicationStatus} {k : Nat}

/-- The answers to later polls come later. -/
lemma AnswersAtOnce.later (honce : AnswersAtOnce env h before answers)
    {limit span heard later : Millis} {ending : Ending ApplicationStatus} :
    AnswersAtOnce env h (before ++ [(polled h limit ending, heard), (paused h span, later)])
      fun i => answers (i + 1) := by
  intro t
  rw [List.append_assoc, honce, Timed.now_append]
  rfl

/-- An answer that is given at once is in time, if there is any time for it. -/
lemma sawFinished_ended_zero_iff {limit : Millis} {answer : Attempt ApplicationStatus} :
    sawFinished limit (.ended 0 answer) = true ↔ 0 < limit ∧ answer = .ok .finished := by
  by_cases hlimit : 0 < limit
  · simp only [sawFinished, Ending.within, hlimit, if_true, true_and]
    rcases answer with _ | _ | _ <;> simp
  · simp [sawFinished, Ending.within, hlimit]

/-- The first poll gets the first answer. -/
lemma AnswersAtOnce.eq_of_replied (honce : AnswersAtOnce env h before answers)
    {limit heard : Millis} {ending : Ending ApplicationStatus} {rest : Timed}
    (hreplied : Replied env cancel before ((polled h limit ending, heard) :: rest)) :
    ending = .ended 0 (answers 0) := by
  have hending := (Prod.mk.inj (Option.some.inj (Task.replied_cons_iff.1 hreplied).1)).2
  have hfirst := honce []
  rw [List.append_nil] at hfirst
  exact hending.symm.trans hfirst

/-- Behind the first poll and a pause the replies go on. -/
lemma replied_later {x y : Task.Step × Millis} {rest : Timed}
    (hreplied : Replied env cancel before (x :: y :: rest)) :
    Replied env cancel (before ++ [x, y]) rest ∧ (before ++ [x, y]).now = y.2 := by
  have hrest := (Task.replied_cons_iff.1 (Task.replied_cons_iff.1 hreplied).2).2
  rw [List.append_assoc] at hrest
  exact ⟨hrest, Timed.now_append⟩

namespace Timetable

/-- **When a cluster is polled that answers at once**, but never that it has finished: at intervals
until the time when the polling is due to end, and once more then.

**Proof sketch.** Induction on the polling. Of a poll that takes no time and sees nothing, a pause
of one interval follows, unless less time is left; so the times of the later polls are those from
the second one on. -/
lemma begun_of_neverFinished (hpositive : 0 < s.pollInterval)
    (ht : Timetable s h due before.now t finished) (hreplied : Replied env cancel before t)
    (honce : AnswersAtOnce env h before answers) (hnever : ∀ i, answers i ≠ .ok .finished) :
    (pollsOf before.now t).map (·.begun) =
      (List.range ((due - before.now) ⌈/⌉ s.pollInterval)).map
        (fun i => before.now + i * s.pollInterval) ++ [due] := by
  generalize hnow : before.now = now at ht
  induction ht generalizing before answers with
  | @last now ending hle hlast =>
    obtain rfl := honce.eq_of_replied hreplied
    obtain rfl : now = due := hlast.resolve_left fun hsaw =>
      hnever 0 (sawFinished_ended_zero_iff.1 hsaw).2
    simp [pollsOf, Timed.begun, Poll.of?]
  | @again now heard ending rest finished hheard hlt hsaw hrest ih =>
    obtain rfl := honce.eq_of_replied hreplied
    obtain rfl : heard = now := by rw [hheard, Ending.elapsed, Nat.zero_min, Nat.add_zero]
    obtain ⟨hrest, hlater⟩ := replied_later hreplied
    have hbegun := ih hrest honce.later (fun i => hnever (i + 1)) hlater
    have hrounds := ceilDiv_eq_succ (Nat.sub_pos_of_lt hlt) hpositive
    rw [pollsOf_again, List.map_cons, hrounds, List.range_succ_eq_map, List.map_cons, List.map_map,
      Nat.zero_mul, Nat.add_zero, List.cons_append, hbegun]
    congr 2
    -- the next poll is due after a whole interval, or it is the one at the deadline
    by_cases hround : heard + s.pollInterval ≤ due
    · rw [Nat.min_eq_left hround, Nat.sub_add_eq]
      refine List.map_congr_left fun i _ => ?_
      rw [Function.comp_apply, Nat.succ_eq_add_one, Nat.succ_mul, Nat.add_right_comm,
        Nat.add_assoc heard]
    · have hspent : due - heard - s.pollInterval = 0 :=
        Nat.sub_eq_zero_of_le
          (Nat.sub_le_of_le_add (Nat.add_comm heard _ ▸ Nat.le_of_not_le hround))
      rw [Nat.min_eq_right (Nat.le_of_not_le hround), Nat.sub_self, hspent, zero_ceilDiv]
      rfl

/-- **How often a cluster is polled that answers at once**, and at last that it has finished, before
the polling is due to end. -/
lemma length_pollsOf_of_first (hcall : 0 < s.callTimeout)
    (ht : Timetable s h due before.now t finished) (hreplied : Replied env cancel before t)
    (honce : AnswersAtOnce env h before answers) (hk : answers k = .ok .finished)
    (hfirst : ∀ i < k, answers i ≠ .ok .finished) (hin : before.now + k * s.pollInterval < due) :
    finished = true ∧ (pollsOf before.now t).length = k + 1 := by
  generalize hnow : before.now = now at ht
  rw [hnow] at hin
  induction ht generalizing before answers k with
  | @last now ending hle hlast =>
    obtain rfl := honce.eq_of_replied hreplied
    -- there is time left, so only a cluster that has finished can end the polling
    have hsaw : sawFinished (s.limitAt due now) (.ended 0 (answers 0)) = true := by
      refine hlast.resolve_right fun hdue => ?_
      rw [Ending.elapsed, Nat.zero_min] at hdue
      grind
    cases k with
    | zero => exact ⟨hsaw, rfl⟩
    | succ k => exact absurd (sawFinished_ended_zero_iff.1 hsaw).2 (hfirst 0 (Nat.succ_pos k))
  | @again now heard ending rest finished hheard hlt hsaw hrest ih =>
    obtain rfl := honce.eq_of_replied hreplied
    cases k with
    | zero =>
      have hlimit : 0 < s.limitAt due now := Nat.lt_min.2 ⟨hcall, by grind⟩
      exact absurd (hsaw.symm.trans (sawFinished_ended_zero_iff.2 ⟨hlimit, hk⟩))
        Bool.false_ne_true
    | succ k =>
      obtain rfl : heard = now := by rw [hheard, Ending.elapsed, Nat.zero_min, Nat.add_zero]
      obtain ⟨hrest, hlater⟩ := replied_later hreplied
      rw [Nat.succ_mul, Nat.add_comm _ s.pollInterval, ← Nat.add_assoc] at hin
      have hround : heard + s.pollInterval ≤ due :=
        Nat.le_trans (Nat.le_add_right _ _) (Nat.le_of_lt hin)
      obtain ⟨hfinished, hlength⟩ := ih hrest honce.later hk
        (fun i hi => hfirst (i + 1) (Nat.succ_lt_succ hi))
        (by rwa [Nat.min_eq_left hround]) hlater
      exact ⟨hfinished, by rw [pollsOf_again, List.length_cons, hlength]⟩

end Timetable

/-! ## Supervision -/

/-- What comes behind the polling: the cluster is killed unless it was seen finished, and then its
connection is closed. -/
def closing (s : Supervisor) (h : ClusterHandle) (env : Surroundings) (before : Timed) :
    Bool → Timed
  | true => [(released h, before.now + env.release before h)]
  | false =>
    let ending := env.bounded before (.platform (.forceKill h))
    let kill := (killed s h ending, before.now + ending.elapsed s.callTimeout)
    [kill, (released h, kill.2 + env.release (before ++ [kill]) h)]

/-- What comes after the polls is what the surroundings reply. -/
lemma replied_closing (finished : Bool) :
    Replied env cancel before (closing s h env before finished) := by
  cases finished with
  | true => exact Task.replied_cons_iff.2 ⟨rfl, Task.replied_nil⟩
  | false =>
    refine Task.replied_cons_iff.2 ⟨rfl, Task.replied_cons_iff.2 ⟨?_, Task.replied_nil⟩⟩
    rw [Surroundings.reply, Timed.now_append_singleton]

/-- There are no polls behind the polling. -/
lemma pollsOf_closing (finished : Bool) : pollsOf now (closing s h env before finished) = [] := by
  cases finished <;> rfl

/-- **Supervision has a course**, whatever the surroundings do: the polling and what comes behind
it. -/
lemma exists_conclude (h : ClusterHandle) (env : Surroundings) (cancel : Option Cancellation)
    (before : Timed) (hpositive : 0 < s.pollInterval) :
    ∃ t finished report,
      env.play cancel (s.conclude h) before =
        some (before ++ (t ++ closing s h env (before ++ t) finished), report) ∧
      Replied env cancel before t ∧
      Timetable s h (before.now + s.deadline) before.now t finished := by
  obtain ⟨t, finished, count, hends, hreplied, htable⟩ : ∃ t finished count,
      Ends (s.pollUntil h s.deadline burst 0) t.course (finished, count) ∧
        Replied env cancel before t ∧
        Timetable s h (before.now + s.deadline) before.now t finished :=
    exists_timetable hpositive s.deadline burst 0 before rfl
  obtain ⟨report, hconclude⟩ : ∃ report, Ends (s.conclude h)
      (t ++ closing s h env (before ++ t) finished).course report := by
    rw [Timed.course_append]
    cases finished with
    | true => exact ⟨_, ends_conclude_iff.2 ⟨t.course, count, .inl ⟨hends, rfl, rfl⟩⟩⟩
    | false => exact ⟨_, ends_conclude_iff.2 ⟨t.course, count, .inr ⟨hends, _, rfl, rfl⟩⟩⟩
  exact ⟨t, finished, report, Task.play_eq_some_iff_append.2 ⟨_, rfl, hconclude,
    Task.replied_append_iff.2 ⟨hreplied, replied_closing finished⟩⟩, hreplied, htable⟩

/-- A course of `Supervisor.conclude` that meets the deadline. -/
structure Punctual (s : Supervisor) (h : ClusterHandle) (env : Surroundings) (before t : Timed) :
    Prop where
  /-- No poll begins behind the deadline, and none may run past it. -/
  polls : ∀ p ∈ pollsOf before.now t, p.begun ≤ before.now + s.deadline ∧
    p.limit = s.limitAt (before.now + s.deadline) p.begun ∧
    p.begun + p.limit ≤ before.now + s.deadline
  /-- There are no more polls than intervals that begin before the deadline, and one. -/
  count : (pollsOf before.now t).length ≤ s.deadline ⌈/⌉ s.pollInterval + 1
  /-- Unless the cluster was seen finished it is killed at the deadline, and otherwise it is not. -/
  kill : killsOf before.now t =
    if t.course.sawFinished then [] else [before.now + s.deadline]
  /-- The last step closes the connection, and it begins in time. -/
  closes : ∃ rest, rest.endsAt before.now ≤ before.now + s.deadline + s.callTimeout ∧
    t = rest ++ [(released h, rest.endsAt before.now + env.release (before ++ rest) h)]

/-- The polling and what comes behind it meet the deadline. -/
lemma Timetable.punctual (hpositive : 0 < s.pollInterval)
    (ht : Timetable s h (before.now + s.deadline) before.now t finished) :
    Punctual s h env before (t ++ closing s h env (before ++ t) finished) := by
  have hpolls : pollsOf before.now (t ++ closing s h env (before ++ t) finished) =
      pollsOf before.now t := by
    rw [pollsOf_append, pollsOf_closing, List.append_nil]
  obtain ⟨count, hgrammar⟩ := ht.exists_polls
  obtain ⟨hends, hdue⟩ := ht.endsAt_le
  refine ⟨?_, ?_, ?_, ?_⟩
  · rw [hpolls]
    intro p hp
    obtain ⟨hbegun, hlimit⟩ := ht.limit_eq p hp
    refine ⟨hbegun, hlimit, hlimit ▸ ?_⟩
    calc p.begun + s.limitAt (before.now + s.deadline) p.begun
        ≤ p.begun + (before.now + s.deadline - p.begun) :=
          Nat.add_le_add_left (Nat.min_le_right _ _) _
      _ = before.now + s.deadline := Nat.add_sub_cancel' hbegun
  · rw [hpolls]
    have hcount := ht.length_pollsOf_le hpositive
    rwa [Nat.add_sub_cancel_left] at hcount
  · rw [killsOf_append, ht.killsOf_eq_nil, Timed.course_append, Task.Course.sawFinished_append,
      hgrammar.sawFinished_eq]
    cases finished with
    | true => rfl
    | false =>
      rw [hdue rfl]
      rfl
  · cases finished with
    | true => exact ⟨t, Nat.le_trans hends (Nat.le_add_right _ _), by
        rw [closing, Timed.now_append]⟩
    | false =>
      refine ⟨t ++ [(killed s h _, _)], ?_, by
        rw [closing, Timed.endsAt_append, Timed.endsAt_cons, Timed.endsAt_nil,
          ← List.append_assoc before, List.append_assoc t]
        rfl⟩
      rw [Timed.endsAt_append, Timed.endsAt_cons, Timed.endsAt_nil, Timed.now_append, hdue rfl]
      exact Nat.add_le_add_left (elapsed_le _ _) _

/-- **Supervision meets its deadline**, whatever polls and the kill do and however long they take.

A cluster that answers at once is polled at intervals below the deadline and once at it, as long as
it does not answer that it has finished. If the first such answer comes in time, the poll that got
it is the last one, and the cluster is not killed.

**Proof sketch.** The polling has a course, and what comes behind it begins when it is over. The
bounds on polls come from the induction on the course; that the polling is over at the deadline
unless the cluster was seen finished gives the time of the kill. -/
theorem conclude_punctual (s : Supervisor) (h : ClusterHandle) (env : Surroundings)
    (cancel : Option Cancellation) (before : Timed) (hpositive : 0 < s.pollInterval) :
    ∃ t report, env.play cancel (s.conclude h) before = some (before ++ t, report) ∧
      Punctual s h env before t ∧
      ∀ answers, AnswersAtOnce env h before answers →
        ((∀ i, answers i ≠ .ok .finished) →
          (pollsOf before.now t).map (·.begun) =
              (List.range (s.deadline ⌈/⌉ s.pollInterval)).map
                (fun i => before.now + i * s.pollInterval) ++ [before.now + s.deadline] ∧
            (pollsOf before.now t).length = s.deadline ⌈/⌉ s.pollInterval + 1) ∧
        ∀ k, 0 < s.callTimeout → answers k = .ok .finished →
          (∀ i < k, answers i ≠ .ok .finished) → k * s.pollInterval < s.deadline →
          (pollsOf before.now t).length = k + 1 ∧ killsOf before.now t = [] := by
  obtain ⟨t, finished, report, hplay, hreplied, htable⟩ :=
    exists_conclude h env cancel before hpositive
  refine ⟨_, report, hplay, htable.punctual hpositive, fun answers honce => ?_⟩
  rw [pollsOf_append, pollsOf_closing, List.append_nil]
  constructor
  · intro hnever
    have hbegun := htable.begun_of_neverFinished hpositive hreplied honce hnever
    rw [Nat.add_sub_cancel_left] at hbegun
    refine ⟨hbegun, ?_⟩
    have hlength := congrArg List.length hbegun
    rwa [List.length_map, List.length_append, List.length_map, List.length_range] at hlength
  · intro k hcall hk hfirst hin
    obtain ⟨rfl, hlength⟩ := htable.length_pollsOf_of_first hcall hreplied honce hk hfirst
      (Nat.add_lt_add_left hin _)
    refine ⟨hlength, ?_⟩
    rw [killsOf_append, htable.killsOf_eq_nil]
    rfl

/-- A cluster is polled three times, at intervals of which the last one is cut short, and is killed;
if its second answer is that it has finished, there are two polls and no kill. -/
theorem conclude_punctual_of_late_answer :
    let s : Supervisor := ⟨40, 60, 50⟩
    let h : ClusterHandle := ⟨⟨1, 1⟩, "http://master:8081"⟩
    let env (answers : Nat → Attempt ApplicationStatus) : Surroundings := {
      background := fun _ _ => (0, .error .died)
      bounded := fun past op => match op with
        | .platform (.queryStatus _) => .ended 0 (answers (pollsOf 0 past).length)
        | _ => .endless
      job := fun _ _ => none
      release := fun _ _ => 0 }
    let running : Nat → Attempt ApplicationStatus := fun _ => .ok .running
    let late : Nat → Attempt ApplicationStatus := fun i =>
      .ok (if i = 1 then .finished else .running)
    (∃ t report, (env running).play none (s.conclude h) [] = some (t, report) ∧
      Punctual s h (env running) [] t ∧ (pollsOf 0 t).map (·.begun) = [0, 40, 60]) ∧
    ∃ t report, (env late).play none (s.conclude h) [] = some (t, report) ∧
      (pollsOf 0 t).length = 2 ∧ killsOf 0 t = [] := by
  intro s h env running late
  have honce (answers) : AnswersAtOnce (env answers) h [] answers := fun t => rfl
  constructor
  · obtain ⟨t, report, hplay, hpunctual, honTime⟩ :=
      conclude_punctual s h (env running) none [] (by decide)
    obtain ⟨hbegun, -⟩ := (honTime running (honce running)).1 fun _ hfinished => nomatch hfinished
    have hrounds : s.deadline ⌈/⌉ s.pollInterval = 2 := by
      rw [Nat.ceilDiv_eq_add_pred_div]
      decide
    rw [hrounds] at hbegun
    exact ⟨t, report, hplay, hpunctual, hbegun⟩
  · obtain ⟨t, report, hplay, -, honTime⟩ :=
      conclude_punctual s h (env late) none [] (by decide)
    obtain ⟨hlength, hkills⟩ :=
      (honTime late (honce late)).2 1 (by decide) rfl (by decide) (by decide)
    exact ⟨t, report, hplay, hlength, hkills⟩

end Supervisor

end ClusterDeploy
