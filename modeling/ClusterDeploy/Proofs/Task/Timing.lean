import ClusterDeploy.Proofs.Race
import ClusterDeploy.Proofs.Task.Course

set_option relaxedAutoImplicit false
set_option autoImplicit false

/-!
# Tasks in time

A task that may be cancelled looks at the cancellation in two ways: it asks whether there was one,
and it is interrupted by one while it waits for a job. Everything else that it meets has nothing to
do with the cancellation. So a task runs among surroundings that are given beforehand, and the
moment of the cancellation is given beside them.

## Main definitions

* `Task.Surroundings` — how long everything takes, and what comes of it.
* `Task.Cancellation` — the moment at which a task is cancelled.
* `Task.Surroundings.race` — the race that is watched by somebody who waits for a job.
* `Task.Surroundings.reply` — what is answered to a question, and when.
* `Task.Surroundings.play` — runs a task.

## Main results

* `Task.reply_watch_eq_some_iff` — waiting for a job ends with who is first.
* `Task.play_eq_some_iff` — the runs of a task in time are its runs with the replies of the
  surroundings.
* `Task.exists_play` — a task that is cancelled at some moment comes to an end;
  `Task.exists_play_of_forall_watches` — so does one that never waits for a job.
* `Task.comesAfter_of_look` — a look that did not see the cancellation was over before it.
* `Task.replied_some_iff` — a run in which no look saw the cancellation is the run without one.
* `Task.Replied.some_of_none` — the run without a cancellation is also the run with one that comes
  after the last look.

## Implementation notes

Several steps may be over in one and the same millisecond, and a cancellation may fall between two
of them. So its moment is a time together with a number of steps: the steps with lower numbers were
over at this time, and later ones see it.

A race is counted from the moment when the waiting begins. A cancellation that came before it comes
at its first moment. -/

namespace ClusterDeploy

namespace Task

open Dialogue (Ends)

/-- The course of a task, with the time at which each step was over. -/
abbrev Timed := List (Step × Millis)

namespace Timed

/-- The steps themselves. -/
def course (t : Timed) : Course :=
  t.map (·.1)

/-- The time when all steps are over. -/
def now (t : Timed) : Millis :=
  (t.getLast?.map (·.2)).getD 0

@[simp]
lemma course_nil : course [] = [] :=
  rfl

/-- The steps of two parts follow one another. -/
@[simp]
lemma course_append (s t : Timed) : course (s ++ t) = s.course ++ t.course :=
  List.map_append

/-- The first step comes first. -/
@[simp]
lemma course_cons (x : Step × Millis) (t : Timed) : course (x :: t) = x.1 :: t.course :=
  rfl

/-- All steps are over when the last one is. -/
lemma now_append_singleton (t : Timed) (x : Step × Millis) : now (t ++ [x]) = x.2 := by
  simp [now]

end Timed

/-- What a task meets, apart from its cancellation: how long everything takes, and what comes of it.
All of it may depend on what happened before and when. -/
structure Surroundings where
  /-- How long an operation takes that is waited for without a limit, and its result. -/
  background : Timed → (op : Operation) → Millis × Attempt op.Value
  /-- How an operation ends that is waited for within a limit. -/
  bounded : Timed → (op : Operation) → Ending op.Value
  /-- How long it takes until a job is over, if it ever is, and its result. -/
  job : Timed → RunningJob → Option (Millis × Except DeployError JobOutcome)
  /-- How long it takes to close a connection. -/
  release : Timed → ClusterHandle → Millis

/-- The moment at which a task is cancelled: a time, and the number of steps that were over by then.
-/
structure Cancellation where
  time : Millis
  steps : Nat

/-- The first time at which the step with a number sees a cancellation. -/
def Cancellation.seenFrom (c : Cancellation) (number : Nat) : Millis :=
  if c.steps ≤ number then c.time else c.time + 1

/-- The race that is watched by somebody who waits for a job from now on. -/
def Surroundings.race (env : Surroundings) (cancel : Option Cancellation) (before : Timed)
    (job : RunningJob) (timeout : Option Millis) : Watcher.Race where
  job := env.job before job
  timeout := timeout
  cancellation := cancel.map fun c => c.seenFrom before.length - before.now

/-- What is answered to a question, and when, after what happened before. Nothing is answered if a
job is waited for forever. -/
def Surroundings.reply (env : Surroundings) (cancel : Option Cancellation) (before : Timed) :
    (q : Question) → Option (Millis × Answer q)
  | .background op _ =>
    let (span, result) := env.background before op
    some (before.now + span, result)
  | .bounded op limit _ =>
    let ending := env.bounded before op
    some (before.now + ending.elapsed limit, ending)
  | .watch job timeout _ =>
    (env.race cancel before job timeout).verdict.map fun (span, watched) =>
      (before.now + span, watched)
  | .pause span _ => some (before.now + span, ())
  | .isCancelled =>
    some (before.now, cancel.any fun c => c.seenFrom before.length ≤ before.now)
  | .release h => some (before.now + env.release before h, ())

/-- Runs a task that goes on after what happened before. Nothing comes of it if it waits forever. -/
def Surroundings.play {α : Type} (env : Surroundings) (cancel : Option Cancellation) :
    Task α → Timed → Option (Timed × α)
  | Dialogue.done a, before => some (before, a)
  | Dialogue.ask q next, before =>
    match env.reply cancel before q with
    | none => none
    | some (time, answer) => env.play cancel (next answer) (before ++ [(⟨q, answer⟩, time)])

/-- All answers are replies of the surroundings, and come in their time. -/
def Replied (env : Surroundings) (cancel : Option Cancellation) (before t : Timed) : Prop :=
  ∀ s x u, t = s ++ x :: u →
    env.reply cancel (before ++ s) x.1.question = some (x.2, x.1.answer)

/-- Whether a step of some kind was over before a cancellation. -/
def Cancellation.ComesAfter (c : Cancellation) (kind : Step → Bool) (t : Timed) : Prop :=
  ∃ before x after, t = before ++ x :: after ∧ kind x.1 = true ∧ x.2 < c.seenFrom before.length

variable {env : Surroundings} {cancel : Option Cancellation} {c : Cancellation} {α : Type}
  {p : Task α} {before t : Timed} {x : Step × Millis}

/-! ## Runs -/

/-- There is nothing to reply without steps. -/
lemma replied_nil : Replied env cancel before [] := by
  intro s x u h
  simp at h

/-- The first answer is a reply to what happened before, and the others to what happened with it. -/
lemma replied_cons_iff :
    Replied env cancel before (x :: t) ↔
      env.reply cancel before x.1.question = some (x.2, x.1.answer) ∧
        Replied env cancel (before ++ [x]) t := by
  constructor
  · intro h
    refine ⟨by simpa using h [] x t rfl, fun s y u hsplit => ?_⟩
    rw [List.append_assoc]
    exact h (x :: s) y u (by rw [hsplit]; rfl)
  · rintro ⟨hx, ht⟩ s y u hsplit
    cases s with
    | nil =>
      obtain ⟨rfl, -⟩ := List.cons.inj hsplit
      rwa [List.append_nil]
    | cons z s =>
      obtain ⟨rfl, htail⟩ := List.cons.inj hsplit
      have hy := ht s y u htail
      rwa [List.append_assoc] at hy

/-- The answers of the second part are replies to what happened before and in the first part. -/
lemma replied_append_iff {s : Timed} :
    Replied env cancel before (s ++ t) ↔
      Replied env cancel before s ∧ Replied env cancel (before ++ s) t := by
  induction s generalizing before with
  | nil => simp [replied_nil]
  | cons y s ih => rw [List.cons_append, replied_cons_iff, replied_cons_iff, ih, and_assoc,
      List.append_assoc, List.singleton_append]

/-- **The runs of a task in time** are its runs with the replies of the surroundings.

**Proof sketch.** Induction on the task; the first question has the first reply. -/
lemma play_eq_some_iff_append {a : α} {whole : Timed} :
    env.play cancel p before = some (whole, a) ↔
      ∃ t, whole = before ++ t ∧ Ends p t.course a ∧ Replied env cancel before t := by
  induction p generalizing before with
  | done b =>
    constructor
    · intro h
      obtain ⟨rfl, rfl⟩ := Prod.mk.inj (Option.some.inj (show some (before, b) = some _ from h))
      exact ⟨[], (List.append_nil _).symm, .done _, replied_nil⟩
    · rintro ⟨t, rfl, hends, -⟩
      cases t with
      | nil =>
        cases hends
        rw [List.append_nil]
        rfl
      | cons x t => exact nomatch hends
  | ask q next ih =>
    rw [Surroundings.play]
    constructor
    · intro h
      rcases hreply : env.reply cancel before q with _ | ⟨time, answer⟩
      · rw [hreply] at h
        exact nomatch h
      · rw [hreply] at h
        obtain ⟨t, rfl, hends, hreplied⟩ := (ih answer).1 h
        refine ⟨(⟨q, answer⟩, time) :: t, by simp, .ask hends, ?_⟩
        exact replied_cons_iff.2 ⟨hreply, hreplied⟩
    · rintro ⟨t, rfl, hends, hreplied⟩
      rcases t with _ | ⟨⟨step, time⟩, t⟩
      · exact nomatch hends
      · obtain ⟨answer, rest, hstep, hrest⟩ := Dialogue.ends_ask_iff.1 hends
        obtain ⟨rfl, rfl⟩ := List.cons.inj hstep
        obtain ⟨hreply, hreplied⟩ := replied_cons_iff.1 hreplied
        rw [show env.reply cancel before q = some (time, answer) from hreply]
        exact (ih answer).2 ⟨t, by simp, hrest, hreplied⟩

/-- **The runs of a task in time** are its runs with the replies of the surroundings. -/
lemma play_eq_some_iff {a : α} :
    env.play cancel p [] = some (t, a) ↔ Ends p t.course a ∧ Replied env cancel [] t := by
  rw [play_eq_some_iff_append]
  constructor
  · rintro ⟨t', rfl, h⟩
    exact h
  · exact fun h => ⟨t, rfl, h⟩

/-- A task in time goes on with what is left of it. -/
lemma play_eq_of_reaches {left : Task α} (hreach : Dialogue.Reaches p t.course left)
    (hreplied : Replied env cancel before t) :
    env.play cancel p before = env.play cancel left (before ++ t) := by
  induction t generalizing p before with
  | nil =>
    cases hreach
    rw [List.append_nil]
  | cons x t ih =>
    obtain ⟨⟨q, answer⟩, time⟩ := x
    obtain ⟨hreply, hrest⟩ := replied_cons_iff.1 hreplied
    cases hreach with
    | ask hreach =>
      rw [Surroundings.play, show env.reply cancel before q = some (time, answer) from hreply]
      exact (ih hreach hrest).trans (by rw [List.append_assoc, List.singleton_append])

/-! ## Looking at a cancellation -/

/-- Whether a step looks at the cancellation. -/
def Step.looks : Step → Bool
  | ⟨.isCancelled, _⟩ => true
  | ⟨.watch _ _ _, _⟩ => true
  | _ => false

/-- Whether a step looked at the cancellation and saw one. -/
def Step.sawCancellation : Step → Bool
  | ⟨.isCancelled, cancelled⟩ => cancelled
  | ⟨.watch _ _ _, .cancelled⟩ => true
  | _ => false

/-- **Waiting for a job ends with who is first.** -/
lemma reply_watch_eq_some_iff {job : RunningJob} {timeout : Option Millis}
    {held : Option ClusterHandle} {time : Millis} {watched : Watched} :
    env.reply cancel before (.watch job timeout held) = some (time, watched) ↔
      ∃ span, (env.race cancel before job timeout).First span watched ∧
        time = before.now + span := by
  simp only [Surroundings.reply, Option.map_eq_some_iff, Prod.exists, Prod.mk.injEq,
    Watcher.Race.verdict_eq_some_iff]
  exact ⟨fun ⟨span, _, hfirst, htime, hwatched⟩ => ⟨span, hwatched ▸ hfirst, htime.symm⟩,
    fun ⟨span, hfirst, htime⟩ => ⟨span, watched, hfirst, htime.symm, rfl⟩⟩

/-- Somebody who may be interrupted does not wait forever. -/
lemma exists_reply_watch {job : RunningJob} {timeout : Option Millis}
    {held : Option ClusterHandle} :
    ∃ time watched, env.reply (some c) before (.watch job timeout held) = some (time, watched) := by
  obtain ⟨span, watched, hfirst⟩ : ∃ span watched,
      (env.race (some c) before job timeout).First span watched :=
    Watcher.Race.exists_first_iff.2 fun ⟨hnever, _⟩ => nomatch hnever
  exact ⟨_, watched, reply_watch_eq_some_iff.2 ⟨span, hfirst, rfl⟩⟩

/-- Without a cancellation, what a look answers comes no earlier than the look. -/
lemma now_le_of_reply {q : Question} {time : Millis} {answer : Answer q}
    (h : env.reply none before q = some (time, answer)) : before.now ≤ time := by
  cases q with
  | background op held =>
    rw [← (Prod.mk.inj (Option.some.inj h)).1]
    exact Nat.le_add_right _ _
  | bounded op limit held =>
    rw [← (Prod.mk.inj (Option.some.inj h)).1]
    exact Nat.le_add_right _ _
  | watch job timeout held =>
    obtain ⟨span, -, rfl⟩ := reply_watch_eq_some_iff.1 h
    exact Nat.le_add_right _ _
  | pause span held =>
    rw [← (Prod.mk.inj (Option.some.inj h)).1]
    exact Nat.le_add_right _ _
  | isCancelled => exact Nat.le_of_eq (Prod.mk.inj (Option.some.inj h)).1
  | release h' =>
    rw [← (Prod.mk.inj (Option.some.inj h)).1]
    exact Nat.le_add_right _ _

/-- **A look does not see a cancellation exactly if it is over before.** What else is asked does not
depend on a cancellation at all. -/
lemma reply_some_iff {q : Question} {time : Millis} {answer : Answer q} :
    (env.reply (some c) before q = some (time, answer) ∧
        Step.sawCancellation ⟨q, answer⟩ = false) ↔
      env.reply none before q = some (time, answer) ∧
        (Step.looks ⟨q, answer⟩ = true → time < c.seenFrom before.length) := by
  cases q with
  | watch job timeout held =>
    by_cases hnot : answer = .cancelled
    · subst hnot
      constructor
      · rintro ⟨-, h⟩
        exact absurd h Bool.false_ne_true.symm
      · rintro ⟨h, -⟩
        obtain ⟨span, hfirst, -⟩ := reply_watch_eq_some_iff.1 h
        exact absurd hfirst Watcher.Race.not_first_cancelled
    · have hsaw : Step.sawCancellation ⟨.watch job timeout held, answer⟩ = false := by
        cases answer <;> first | rfl | exact absurd rfl hnot
      rw [hsaw, and_iff_left rfl, reply_watch_eq_some_iff, reply_watch_eq_some_iff]
      simp only [Surroundings.race, Option.map_some, Option.map_none, Step.looks, forall_const,
        Watcher.Race.first_cancellation_iff hnot]
      -- the race begins with the wait, so its moments are shifted by the time of that
      constructor
      · rintro ⟨span, ⟨hfirst, hlt⟩, rfl⟩
        exact ⟨⟨span, hfirst, rfl⟩, Nat.lt_sub_iff_add_lt'.1 hlt⟩
      · rintro ⟨⟨span, hfirst, rfl⟩, hlt⟩
        exact ⟨span, ⟨hfirst, Nat.lt_sub_iff_add_lt'.2 hlt⟩, rfl⟩
  | isCancelled =>
    simp only [Surroundings.reply, Option.any_some, Option.any_none, Option.some.injEq,
      Prod.mk.injEq, Step.sawCancellation, Step.looks, forall_const]
    constructor
    · rintro ⟨⟨rfl, h⟩, rfl⟩
      exact ⟨⟨rfl, rfl⟩, by simpa using h⟩
    · rintro ⟨⟨rfl, rfl⟩, h⟩
      exact ⟨⟨rfl, by simpa using h⟩, rfl⟩
  | _ => simp [Surroundings.reply, Step.looks, Step.sawCancellation]

/-- **A run in which no look saw the cancellation is the run without one**, and the other way round
if every look is over before. -/
lemma replied_some_iff :
    (Replied env (some c) before t ∧ ∀ x ∈ t, x.1.sawCancellation = false) ↔
      Replied env none before t ∧ ∀ s x u, t = s ++ x :: u → x.1.looks = true →
        x.2 < c.seenFrom (before ++ s).length := by
  constructor
  · rintro ⟨h, hsaw⟩
    have hboth := fun s x u (hsplit : t = s ++ x :: u) => reply_some_iff.1
      ⟨h s x u hsplit, hsaw x (by simp [hsplit])⟩
    exact ⟨fun s x u hsplit => (hboth s x u hsplit).1, fun s x u hsplit => (hboth s x u hsplit).2⟩
  · rintro ⟨h, hlooks⟩
    have hboth := fun s x u (hsplit : t = s ++ x :: u) => reply_some_iff.2
      ⟨h s x u hsplit, hlooks s x u hsplit⟩
    refine ⟨fun s x u hsplit => (hboth s x u hsplit).1, fun x hx => ?_⟩
    obtain ⟨s, u, hsplit⟩ := List.append_of_mem hx
    exact (hboth s x u hsplit).2

/-- A look that did not see the cancellation was over before it. -/
lemma comesAfter_of_look {kind : Step → Bool} (h : Replied env (some c) [] t) (hx : x ∈ t)
    (hkind : kind x.1 = true) (hlooks : x.1.looks = true) (hsaw : x.1.sawCancellation = false) :
    c.ComesAfter kind t := by
  obtain ⟨before, after, hsplit⟩ := List.append_of_mem hx
  have hreply := h before x after hsplit
  rw [List.nil_append] at hreply
  exact ⟨before, x, after, hsplit, hkind, (reply_some_iff.1 ⟨hreply, hsaw⟩).2 hlooks⟩

/-! ## The order of steps -/

/-- What later steps see they do not see later. -/
lemma Cancellation.seenFrom_anti {m n : Nat} (hle : m ≤ n) : c.seenFrom n ≤ c.seenFrom m := by
  unfold Cancellation.seenFrom
  by_cases hm : c.steps ≤ m
  · exact Nat.le_of_eq ((if_pos (Nat.le_trans hm hle)).trans (if_pos hm).symm)
  · rw [if_neg hm]
    split
    · exact Nat.le_succ _
    · exact Nat.le_refl _

/-- Every step is over no earlier than those before it. -/
lemma Replied.now_le (h : Replied env none before t) : ∀ x ∈ t, before.now ≤ x.2 := by
  induction t generalizing before with
  | nil => exact List.forall_mem_nil _
  | cons x t ih =>
    obtain ⟨hreply, hrest⟩ := replied_cons_iff.1 h
    have hx : before.now ≤ x.2 := now_le_of_reply hreply
    refine List.forall_mem_cons.2 ⟨hx, fun y hy => ?_⟩
    exact Nat.le_trans hx (Timed.now_append_singleton before x ▸ ih hrest y hy)

/-- **Without a cancellation the times of the steps ascend.** -/
lemma Replied.ascends (h : Replied env none before t) : t.Pairwise fun x y => x.2 ≤ y.2 := by
  induction t generalizing before with
  | nil => exact .nil
  | cons x t ih =>
    obtain ⟨-, hrest⟩ := replied_cons_iff.1 h
    exact .cons (fun y hy => Timed.now_append_singleton before x ▸ hrest.now_le y hy) (ih hrest)

/-- **A run without a cancellation is the run with one that comes after its last look.**

**Proof sketch.** An earlier look was over no later than the last one, and would not have seen the
cancellation either. -/
lemma Replied.some_of_none {s u : Timed} (h : Replied env none [] (s ++ x :: u))
    (hbefore : x.2 < c.seenFrom s.length) (hlast : ∀ y ∈ u, y.1.looks = false) :
    Replied env (some c) [] (s ++ x :: u) := by
  refine (replied_some_iff.2 ⟨h, fun s' y u' hsplit hlooks => ?_⟩).1
  rw [List.nil_append]
  -- a look is the last step that matters, or one before it; behind it there are none
  obtain ⟨a, rfl, htail⟩ | ⟨a, rfl, htail⟩ := List.append_eq_append_iff.1 hsplit
  · rcases a with _ | ⟨z, a⟩
    · obtain ⟨rfl, -⟩ := List.cons.inj htail
      simpa using hbefore
    · obtain ⟨-, rfl⟩ := List.cons.inj htail
      exact absurd (hlooks.symm.trans (hlast y (by simp))) (by simp)
  · rcases a with _ | ⟨z, a⟩
    · obtain ⟨rfl, -⟩ := List.cons.inj htail
      simpa using hbefore
    · obtain ⟨rfl, -⟩ := List.cons.inj htail
      have hle : y.2 ≤ x.2 := (List.pairwise_append.1 h.ascends).2.2 y (by simp) x (by simp)
      refine Nat.lt_of_le_of_lt hle (Nat.lt_of_lt_of_le hbefore (Cancellation.seenFrom_anti ?_))
      simp

/-! ## Coming to an end -/

/-- A task that is cancelled at some moment comes to an end. -/
lemma exists_play (p : Task α) (before : Timed) :
    ∃ t a, env.play (some c) p before = some (t, a) := by
  induction p generalizing before with
  | done a => exact ⟨before, a, rfl⟩
  | ask q next ih =>
    have hreply : ∃ time answer, env.reply (some c) before q = some (time, answer) := by
      cases q with
      -- a job may run forever, but the cancellation ends the wait for it
      | watch job timeout held => exact exists_reply_watch
      | _ => exact ⟨_, _, rfl⟩
    obtain ⟨time, answer, hreply⟩ := hreply
    obtain ⟨t, a, hplay⟩ := ih answer (before ++ [(⟨q, answer⟩, time)])
    refine ⟨t, a, ?_⟩
    rw [Surroundings.play, hreply]
    exact hplay

/-- Whether a question may be waited for forever. -/
def Question.watches : Question → Bool
  | .watch _ _ _ => true
  | _ => false

/-- A task that never waits for a job comes to an end, cancelled or not. -/
lemma exists_play_of_forall_watches (env : Surroundings) (cancel : Option Cancellation)
    (before : Timed) (hnever : ∀ c a, Ends p c a → ∀ x ∈ c, x.question.watches = false) :
    ∃ t a, env.play cancel p before = some (t, a) := by
  induction p generalizing before with
  | done a => exact ⟨before, a, rfl⟩
  | ask q next ih =>
    have hq : q.watches = false := by
      obtain ⟨rest, a, -, hends⟩ := Dialogue.exists_ends_of_reaches (.here (.ask q next))
      obtain ⟨answer, rest, hcourse, -⟩ := Dialogue.ends_ask_iff.1 hends
      rw [List.nil_append] at hcourse
      rw [hcourse, List.nil_append] at hends
      exact hnever _ _ hends _ List.mem_cons_self
    have hreply : ∃ time answer, env.reply cancel before q = some (time, answer) := by
      cases q with
      | watch job timeout held => exact absurd hq Bool.false_ne_true.symm
      | _ => exact ⟨_, _, rfl⟩
    obtain ⟨time, answer, hreply⟩ := hreply
    obtain ⟨t, a, hplay⟩ := ih answer (before ++ [(⟨q, answer⟩, time)])
      fun c a hends x hx => hnever _ a (.ask hends) x (List.mem_cons_of_mem _ hx)
    refine ⟨t, a, ?_⟩
    rw [Surroundings.play, hreply]
    exact hplay

end Task

end ClusterDeploy
