import ClusterDeploy.Watcher
import Mathlib.Logic.Basic
import Mathlib.Tactic.Lemma

set_option relaxedAutoImplicit false
set_option autoImplicit false

/-!
# Who is first

Somebody who waits for a job has three reasons to stop, and each of them may never come: a
cancellation, a timeout and the end of the job. Who waits sleeps until the first of them comes, and
looks at them in this order. So what is found is who is first, and the first in this order if
several come at the same moment.

## Main definitions

* `Watcher.Race.CancelledAt`, `Watcher.Race.ExpiredAt`, `Watcher.Race.ResolvedAt` — who is first.
* `Watcher.Race.First` — who is first, and when.
* `Watcher.Race.NobodyBefore` — none of the three comes before a moment.

## Main results

* `Watcher.Race.first_iff` — who is first is found at a moment before which nobody comes.
* `Watcher.Race.verdict_eq_some_iff` — the verdict on a race names who is first.
* `Watcher.Race.first_cancellation_iff` — a cancellation only counts against those after it.
-/

namespace ClusterDeploy

namespace Watcher

namespace Race

variable {race : Race} {moment time : Millis} {watched : Watched}
  {result : Except DeployError JobOutcome}

/-! ## Who is first -/

/-- A cancellation comes no later than the timeout and the end of the job. -/
def CancelledAt (race : Race) (c : Millis) : Prop :=
  race.cancellation = some c ∧ (∀ t ∈ race.timeout, c ≤ t) ∧ ∀ e ∈ race.job, c ≤ e.1

/-- A timeout comes before the cancellation, and no later than the end of the job. -/
def ExpiredAt (race : Race) (t : Millis) : Prop :=
  race.timeout = some t ∧ (∀ c ∈ race.cancellation, t < c) ∧ ∀ e ∈ race.job, t ≤ e.1

/-- The job ends, and neither of the others was first. -/
def ResolvedAt (race : Race) (t : Millis) (result : Except DeployError JobOutcome) : Prop :=
  race.job = some (t, result) ∧ (¬ ∃ c, race.CancelledAt c) ∧ ¬ ∃ t', race.ExpiredAt t'

/-- Who is first, and when. -/
inductive First (race : Race) : Millis → Watched → Prop
  | cancelled {c : Millis} (h : race.CancelledAt c) : First race c .cancelled
  | expired {t : Millis} (h : race.ExpiredAt t) : First race t .expired
  | resolved {t : Millis} {result : Except DeployError JobOutcome}
      (h : race.ResolvedAt t result) : First race t (.resolved result)

/-- The end of a job is first exactly if it comes before the others. -/
lemma resolvedAt_iff : race.ResolvedAt time result ↔ race.job = some (time, result) ∧
    (∀ c ∈ race.cancellation, time < c) ∧ ∀ t ∈ race.timeout, time < t := by
  refine and_congr_right fun hjob => ⟨fun ⟨hcancelled, hexpired⟩ => ?_, fun ⟨hc, ht⟩ => ⟨?_, ?_⟩⟩
  · have hends {t : Millis} (hle : t ≤ time) : ∀ e ∈ race.job, t ≤ e.1 := by
      intro e he
      rw [hjob, Option.mem_some_iff] at he
      rwa [← he]
    -- a timeout that is not after the job is after a cancellation, which then was first
    have ht : ∀ t ∈ race.timeout, time < t := by
      refine fun t ht => Nat.lt_of_not_le fun hle => ?_
      refine hexpired ⟨t, ht, fun c hc => Nat.lt_of_not_le fun hct => ?_, hends hle⟩
      refine hcancelled ⟨c, hc, fun t' ht' => ?_, hends (Nat.le_trans hct hle)⟩
      rwa [← Option.some.inj (ht.symm.trans ht')]
    refine ⟨fun c hc => Nat.lt_of_not_le fun hle => ?_, ht⟩
    refine hcancelled ⟨c, hc, fun t ht' => ?_, hends hle⟩
    exact Nat.le_of_lt (Nat.lt_of_le_of_lt hle (ht t ht'))
  · rintro ⟨c, hcancel, -, hend⟩
    exact Nat.not_lt_of_le (hend _ hjob) (hc c hcancel)
  · rintro ⟨t, htimeout, -, hend⟩
    exact Nat.not_lt_of_le (hend _ hjob) (ht t htimeout)

/-! ## Looking -/

/-- Somebody has not come yet exactly if they come later. -/
lemma any_le_eq_false_iff {other : Option Millis} :
    (other.any fun t => decide (t ≤ moment)) = false ↔ ∀ t ∈ other, moment < t := by
  cases other <;> simp

/-- Whoever came is found, unless somebody before them came too. -/
lemma look_cases (race : Race) (moment : Millis) :
    (race.look moment = some .cancelled ∧ ∃ c ∈ race.cancellation, c ≤ moment) ∨
    (race.look moment = some .expired ∧ (∀ c ∈ race.cancellation, moment < c) ∧
      ∃ t ∈ race.timeout, t ≤ moment) ∨
    (∃ e result, race.look moment = some (.resolved result) ∧
      (∀ c ∈ race.cancellation, moment < c) ∧ (∀ t ∈ race.timeout, moment < t) ∧
      race.job = some (e, result) ∧ e ≤ moment) ∨
    (race.look moment = none ∧ (∀ c ∈ race.cancellation, moment < c) ∧
      (∀ t ∈ race.timeout, moment < t) ∧ ∀ e ∈ race.job, moment < e.1) := by
  unfold look
  split
  · next hc => exact .inl ⟨rfl, by simpa [Option.any_eq_true] using hc⟩
  · next hc =>
    have hc := any_le_eq_false_iff.1 (Bool.eq_false_iff.2 hc)
    split
    · next ht => exact .inr (.inl ⟨rfl, hc, by simpa [Option.any_eq_true] using ht⟩)
    · next ht =>
      have ht := any_le_eq_false_iff.1 (Bool.eq_false_iff.2 ht)
      rcases hjob : race.job with _ | ⟨e, result⟩
      · exact .inr (.inr (.inr ⟨rfl, hc, ht, nofun⟩))
      · by_cases hle : e ≤ moment
        · exact .inr (.inr (.inl ⟨e, result, by simp [hle], hc, ht, rfl, hle⟩))
        · have hlt : moment < e := Nat.lt_of_not_le hle
          exact .inr (.inr (.inr ⟨by simpa using hlt, hc, ht, by simpa using hlt⟩))

/-- Nothing is found exactly as long as nobody came. -/
lemma look_eq_none_iff : race.look moment = none ↔ (∀ c ∈ race.cancellation, moment < c) ∧
    (∀ t ∈ race.timeout, moment < t) ∧ ∀ e ∈ race.job, moment < e.1 := by
  obtain ⟨hlook, c, hmem, hle⟩ | ⟨hlook, -, t, hmem, hle⟩ | ⟨e, result, hlook, -, -, hmem, hle⟩ |
    ⟨hlook, hall⟩ := look_cases race moment
  · exact iff_of_false (by simp [hlook]) fun h => Nat.not_lt_of_le hle (h.1 c hmem)
  · exact iff_of_false (by simp [hlook]) fun h => Nat.not_lt_of_le hle (h.2.1 t hmem)
  · exact iff_of_false (by simp [hlook]) fun h => Nat.not_lt_of_le hle (h.2.2 _ hmem)
  · exact iff_of_true hlook hall

/-- None of the three comes before a moment. -/
def NobodyBefore (race : Race) (moment : Millis) : Prop :=
  (∀ c ∈ race.cancellation, moment ≤ c) ∧ (∀ t ∈ race.timeout, moment ≤ t) ∧
    ∀ e ∈ race.job, moment ≤ e.1

/-- **Who is first is found at the moment before which nobody comes.** -/
lemma first_iff :
    race.First time watched ↔ race.look time = some watched ∧ race.NobodyBefore time := by
  constructor
  · intro h
    have hlater {other : Option Millis} (hother : ∀ t ∈ other, time < t) :
        ¬ (other.any fun t => decide (t ≤ time)) = true :=
      Bool.eq_false_iff.1 (any_le_eq_false_iff.2 hother)
    cases h with
    | cancelled h =>
      obtain ⟨hc, ht, he⟩ := h
      exact ⟨by simp [look, hc], by simp [hc], ht, he⟩
    | expired h =>
      obtain ⟨ht, hc, he⟩ := h
      refine ⟨?_, fun c hmem => Nat.le_of_lt (hc c hmem), by simp [ht], he⟩
      rw [look, if_neg (hlater hc), if_pos (by simp [ht])]
    | resolved h =>
      obtain ⟨he, hc, ht⟩ := resolvedAt_iff.1 h
      refine ⟨?_, fun c hmem => Nat.le_of_lt (hc c hmem), fun t hmem => Nat.le_of_lt (ht t hmem),
        by simp [he]⟩
      rw [look, if_neg (hlater hc), if_neg (hlater ht), he]
      simp
  · rintro ⟨hfound, hc, ht, he⟩
    have hcases := look_cases race time
    simp only [hfound, Option.some.injEq] at hcases
    obtain ⟨rfl, c, hmem, hle⟩ | ⟨rfl, hc', t, hmem, hle⟩ | ⟨e, result, rfl, hc', ht', hmem, hle⟩ |
      ⟨hnone, -⟩ := hcases
    · obtain rfl := Nat.le_antisymm hle (hc c hmem)
      exact .cancelled ⟨hmem, ht, he⟩
    · obtain rfl := Nat.le_antisymm hle (ht t hmem)
      exact .expired ⟨hmem, hc', he⟩
    · obtain rfl := Nat.le_antisymm hle (he _ hmem)
      exact .resolved (resolvedAt_iff.2 ⟨hmem, hc', ht'⟩)
    · exact nomatch hnone

/-! ## Waiting -/

/-- Who sleeps until the first of the three wakes up when one of them comes, and nobody before. -/
lemma wake_eq_some_iff : race.wake = some moment ↔
    (race.cancellation = some moment ∨ race.timeout = some moment ∨
      ∃ result, race.job = some (moment, result)) ∧ race.NobodyBefore moment := by
  rw [wake, List.min?_eq_some_iff]
  refine and_congr ?_ ?_
  · simp only [List.mem_filterMap, List.mem_cons, List.not_mem_nil, or_false, id_eq,
      exists_eq_or_imp, exists_eq_left, Option.map_eq_some_iff, Prod.exists, exists_and_right,
      exists_eq_right]
  · simp only [NobodyBefore, List.mem_filterMap, List.mem_cons, List.not_mem_nil, or_false, id_eq]
    constructor
    · exact fun h => ⟨fun c hc => h c ⟨_, .inl rfl, hc⟩, fun t ht => h t ⟨_, .inr (.inl rfl), ht⟩,
        fun e he => h e.1 ⟨_, .inr (.inr rfl), by rw [he]; rfl⟩⟩
    · rintro ⟨hc, ht, he⟩ b ⟨other, rfl | rfl | rfl, hb⟩
      · exact hc b hb
      · exact ht b hb
      · obtain ⟨e, hjob, rfl⟩ := Option.map_eq_some_iff.1 hb
        exact he e hjob

/-- **The verdict on a race names who is first.** -/
lemma verdict_eq_some_iff : race.verdict = some (time, watched) ↔ race.First time watched := by
  have hverdict : race.verdict = some (time, watched) ↔
      race.wake = some time ∧ race.look time = some watched := by
    simp [verdict, Option.bind_eq_some_iff]
  rw [hverdict, wake_eq_some_iff]
  constructor
  · rintro ⟨⟨-, hbefore⟩, hfound⟩
    exact first_iff.2 ⟨hfound, hbefore⟩
  · intro h
    obtain ⟨hfound, hbefore⟩ := first_iff.1 h
    refine ⟨⟨?_, hbefore⟩, hfound⟩
    cases h with
    | cancelled h => exact .inl h.1
    | expired h => exact .inr (.inl h.1)
    | resolved h => exact .inr (.inr ⟨_, h.1⟩)

/-- There is no verdict exactly if none of the three ever comes. -/
lemma verdict_eq_none_iff : race.verdict = none ↔
    race.cancellation = none ∧ race.timeout = none ∧ race.job = none := by
  constructor
  · intro h
    rcases hwake : race.wake with _ | moment
    · rw [wake, List.min?_eq_none_iff, List.filterMap_eq_nil_iff] at hwake
      exact ⟨hwake _ (by simp), hwake _ (by simp), by simpa using hwake (race.job.map (·.1))⟩
    · -- who wakes up finds somebody who came
      obtain ⟨hcame, -⟩ := wake_eq_some_iff.1 hwake
      simp only [verdict, hwake, Option.bind_eq_bind, Option.bind_some, Option.bind_eq_none_iff,
        Option.pure_def, reduceCtorEq, imp_false] at h
      obtain ⟨hc, ht, he⟩ := look_eq_none_iff.1 (Option.eq_none_iff_forall_not_mem.2 h)
      obtain hcame | hcame | ⟨result, hcame⟩ := hcame
      · exact absurd (hc _ hcame) (Nat.lt_irrefl _)
      · exact absurd (ht _ hcame) (Nat.lt_irrefl _)
      · exact absurd (he _ hcame) (Nat.lt_irrefl _)
  · rintro ⟨hc, ht, he⟩
    simp [verdict, wake, hc, ht, he]

/-- Only one of the three is first, and only once. -/
lemma First.unique {time' : Millis} {watched' : Watched} (h : race.First time watched)
    (h' : race.First time' watched') : time = time' ∧ watched = watched' := by
  rw [← verdict_eq_some_iff] at h h'
  exact Prod.mk.inj (Option.some.inj (h.symm.trans h'))

/-- Somebody is first unless nobody ever comes. -/
lemma exists_first_iff : (∃ time watched, race.First time watched) ↔
    ¬ (race.cancellation = none ∧ race.timeout = none ∧ race.job = none) := by
  simp only [← verdict_eq_some_iff, ← verdict_eq_none_iff, ← ne_eq, Option.ne_none_iff_exists',
    Prod.exists]

/-! ## With and without a cancellation -/

variable {job : Option (Millis × Except DeployError JobOutcome)} {timeout : Option Millis}

/-- Without a cancellation nobody is stopped by one. -/
lemma not_first_cancelled : ¬ First ⟨job, timeout, none⟩ time .cancelled :=
  fun | .cancelled h => nomatch h.1

/-- **A cancellation only counts against those after it**: who is first without it is first with it
exactly if they come before. -/
lemma first_cancellation_iff (hnot : watched ≠ .cancelled) :
    First ⟨job, timeout, some moment⟩ time watched ↔
      First ⟨job, timeout, none⟩ time watched ∧ time < moment := by
  cases watched with
  | cancelled => exact absurd rfl hnot
  | expired =>
    have hexpired {cancellation : Option Millis} :
        First ⟨job, timeout, cancellation⟩ time .expired ↔
          ExpiredAt ⟨job, timeout, cancellation⟩ time := ⟨fun | .expired h => h, .expired⟩
    simp only [hexpired, ExpiredAt, Option.mem_def, Option.some.injEq, reduceCtorEq, forall_eq',
      false_imp_iff, implies_true, true_and]
    exact ⟨fun ⟨ht, hc, he⟩ => ⟨⟨ht, he⟩, hc⟩, fun ⟨⟨ht, he⟩, hc⟩ => ⟨ht, hc, he⟩⟩
  | resolved result =>
    have hresolved {cancellation : Option Millis} :
        First ⟨job, timeout, cancellation⟩ time (.resolved result) ↔
          ResolvedAt ⟨job, timeout, cancellation⟩ time result :=
      ⟨fun | .resolved h => h, .resolved⟩
    simp only [hresolved, resolvedAt_iff, Option.mem_def, Option.some.injEq, reduceCtorEq,
      forall_eq', false_imp_iff, implies_true, true_and]
    exact ⟨fun ⟨he, hc, ht⟩ => ⟨⟨he, ht⟩, hc⟩, fun ⟨⟨he, ht⟩, hc⟩ => ⟨he, hc, ht⟩⟩

end Race

end Watcher

end ClusterDeploy
