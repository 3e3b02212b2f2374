import Mathlib.Algebra.Order.Floor.Div
import ClusterDeploy.Proofs.Task.Course

set_option relaxedAutoImplicit false
set_option autoImplicit false

/-!
# What supervision reports

The supervisor polls a cluster until it sees it finished or the deadline has come. Only in the
latter case it kills the cluster, once, and in both it then closes the connection. What it reports
is what it was answered.

## Main definitions

* `Supervisor.Polls` — courses of the polling.
* `Supervisor.verdict` — what is reported of an attempt to kill a cluster.
* `Supervisor.Concluded` — how a course of `Supervisor.conclude` and its report fit together.

## Main results

* `Supervisor.polls_of_ends` — every run of the polling is such a course, and what it counts.
* `Supervisor.conclude_concluded` — the outcome of supervision.

## Implementation notes

The polls of a report are counted in a word. So what is reported is their number as far as a word
can tell, and the number itself unless more polls fit before the deadline than a word can count.
-/

namespace ClusterDeploy

namespace Supervisor

open Dialogue (Ends Obeys)

/-- A poll of a cluster. -/
abbrev polled (h : ClusterHandle) (limit : Millis) (ending : Ending ApplicationStatus) :
    Task.Step :=
  ⟨.bounded (.platform (.queryStatus h)) limit (some h), ending⟩

/-- A pause between two polls of a cluster. -/
abbrev paused (h : ClusterHandle) (span : Millis) : Task.Step :=
  ⟨.pause span (some h), ()⟩

/-- An attempt to kill a cluster. -/
abbrev killed (s : Supervisor) (h : ClusterHandle) (ending : Ending Unit) : Task.Step :=
  ⟨.bounded (.platform (.forceKill h)) s.callTimeout (some h), ending⟩

/-- The end of the connection to a cluster. -/
abbrev released (h : ClusterHandle) : Task.Step :=
  ⟨.release h, ()⟩

/-! ## Polling -/

/-- The courses of the polling of a cluster, with whether it was seen finished and with the number
of polls. Only the last poll may see it finished, and the polls lie apart. -/
inductive Polls (h : ClusterHandle) : Task.Course → Bool → Nat → Prop where
  | last (limit : Millis) (ending : Ending ApplicationStatus) :
    Polls h [polled h limit ending] (Supervisor.sawFinished limit ending) 1
  | again {limit : Millis} {ending : Ending ApplicationStatus} {span : Millis} {rest : Task.Course}
      {finished : Bool} {count : Nat} :
    Supervisor.sawFinished limit ending = false → Polls h rest finished count →
      Polls h (polled h limit ending :: paused h span :: rest) finished (count + 1)

variable {s : Supervisor} {h : ClusterHandle}

/-- One round of an interval fits in what is left, if anything is. -/
lemma ceilDiv_eq_succ {span interval : Millis} (hspan : 0 < span) (hpositive : 0 < interval) :
    span ⌈/⌉ interval = (span - interval) ⌈/⌉ interval + 1 := by
  rw [Nat.ceilDiv_eq_add_pred_div, Nat.ceilDiv_eq_add_pred_div]
  have hround : (span + interval - 1) / interval = (span - 1) / interval + 1 := by
    rw [← Nat.add_div_right _ hpositive]
    congr 1
    grind
  rw [hround]
  by_cases hle : interval ≤ span
  · rw [Nat.sub_add_cancel hle]
  · rw [Nat.div_eq_of_lt (by grind), Nat.div_eq_of_lt (by grind)]

/-- **Every run of the polling** is a sequence of polls and pauses; its result says whether the last
poll saw the cluster finished, and counts the polls on from those before. There are no more of them
than intervals that begin in the time that remains, and one.

**Proof sketch.** Induction along the recursion of `Supervisor.pollUntil`. A poll that sees the
cluster finished and a poll at the deadline are the last one. Otherwise a pause follows, whether or
not time passes in it, and the rest is a run of the polling with less time or less room. -/
lemma polls_of_ends (s : Supervisor) (h : ClusterHandle) (remaining : Millis) (room : Nat)
    (polls : Counter) : ∀ {c : Task.Course} {result : Bool × Counter},
      Ends (s.pollUntil h remaining room polls) c result →
        ∃ count, Polls h c result.1 count ∧ result.2 = polls + UInt32.ofNat count ∧
          (0 < s.pollInterval → count ≤ remaining ⌈/⌉ s.pollInterval + 1) := by
  refine Supervisor.pollUntil.induct s h (motive := fun remaining room polls =>
    ∀ {c : Task.Course} {result : Bool × Counter},
      Ends (s.pollUntil h remaining room polls) c result →
        ∃ count, Polls h c result.1 count ∧ result.2 = polls + UInt32.ofNat count ∧
          (0 < s.pollInterval → count ≤ remaining ⌈/⌉ s.pollInterval + 1)) ?_ remaining room polls
  intro remaining room polls limit ihMoment ihLater c result hrun
  have hnext (count : Nat) :
      polls + 1 + UInt32.ofNat count = polls + UInt32.ofNat (count + 1) := by
    rw [UInt32.ofNat_add, UInt32.add_assoc, UInt32.add_comm 1]
    rfl
  have hone : 0 < s.pollInterval → 1 ≤ remaining ⌈/⌉ s.pollInterval + 1 :=
    fun _ => Nat.le_add_left _ _
  rw [pollUntil] at hrun
  obtain ⟨ending, rest, rfl, hrest⟩ := Dialogue.ends_question_bind_iff.1 hrun
  clear hrun
  by_cases hsaw : Supervisor.sawFinished (min s.callTimeout remaining) ending = true
  · rw [if_pos hsaw] at hrest
    obtain ⟨rfl, rfl⟩ := Dialogue.ends_pure_iff.1 hrest
    exact ⟨1, hsaw ▸ .last _ ending, rfl, hone⟩
  · rw [if_neg hsaw] at hrest
    rw [Bool.not_eq_true] at hsaw
    by_cases hleft : remaining - ending.elapsed (min s.callTimeout remaining) = 0
    · rw [dif_pos hleft] at hrest
      obtain ⟨rfl, rfl⟩ := Dialogue.ends_pure_iff.1 hrest
      exact ⟨1, hsaw ▸ .last _ ending, rfl, hone⟩
    · rw [dif_neg hleft] at hrest
      -- the next poll comes in the same moment, or after a pause
      by_cases hroom : s.pollInterval = 0 ∧ 0 < room
      · rw [dif_pos hroom] at hrest
        obtain ⟨⟨⟩, rest, rfl, hpolling⟩ := Dialogue.ends_question_bind_iff.1 hrest
        obtain ⟨count, hpolls, hcount, -⟩ := ihMoment ending hroom hpolling
        exact ⟨count + 1, .again hsaw hpolls, hcount.trans (hnext count),
          fun hpositive => absurd hroom.1 hpositive.ne'⟩
      · rw [dif_neg hroom] at hrest
        obtain ⟨⟨⟩, rest, rfl, hpolling⟩ := Dialogue.ends_question_bind_iff.1 hrest
        obtain ⟨count, hpolls, hcount, hle⟩ := ihLater ending hleft hpolling
        refine ⟨count + 1, .again hsaw hpolls, hcount.trans (hnext count), fun hpositive => ?_⟩
        -- the pause is a whole interval, or what is left
        have hshorter : remaining - ending.elapsed limit -
            max 1 (min s.pollInterval (remaining - ending.elapsed limit)) ≤
              remaining - s.pollInterval := by grind
        rw [ceilDiv_eq_succ (Nat.pos_of_ne_zero fun h0 => hleft (by simp [h0])) hpositive]
        exact Nat.succ_le_succ ((hle hpositive).trans (Nat.succ_le_succ
          ((gc_mul_ceilDiv hpositive).monotone_l hshorter)))

/-- A course with a poll that saw its cluster finished is one that saw it finished. -/
private lemma sawFinished_of_mem {x : Task.Step} (before after : Task.Course)
    (hx : x.sawFinished = true) : Task.Course.sawFinished (before ++ x :: after) = true := by
  simp only [Task.Course.sawFinished_append, Task.Course.sawFinished_cons, hx, Bool.true_or,
    Bool.or_true]

namespace Polls

variable {c : Task.Course} {finished : Bool} {count : Nat}

/-- What holds of polls and of pauses holds of every step of the polling. -/
lemma forall_mem {p : Task.Step → Prop} (hpoll : ∀ limit ending, p (polled h limit ending))
    (hpause : ∀ span, p (paused h span)) (hc : Polls h c finished count) : ∀ x ∈ c, p x := by
  induction hc with
  | last limit ending => exact List.forall_mem_singleton.2 (hpoll limit ending)
  | again _ _ ih =>
    exact List.forall_mem_cons.2 ⟨hpoll _ _, List.forall_mem_cons.2 ⟨hpause _, ih⟩⟩

/-- The polling tells whether a poll saw the cluster finished. -/
lemma sawFinished_eq (hc : Polls h c finished count) : c.sawFinished = finished := by
  induction hc with
  | last limit ending => simp
  | again hsaw _ ih => simpa [hsaw] using ih

/-- A poll that saw the cluster finished is the first one that did, and the polling ends with it.

**Proof sketch.** Induction on the polling, with whatever comes after it. A poll with others behind
it did not see the cluster finished, and neither did a pause; so only the last poll is left. -/
lemma stops (hc : Polls h c finished count) {tail before after : Task.Course} {x : Task.Step}
    (htail : tail.sawFinished = false) (hsplit : c ++ tail = before ++ x :: after)
    (hx : x.sawFinished = true) : before.sawFinished = false ∧ after = tail := by
  induction hc generalizing before with
  | last limit ending =>
    match before with
    | [] =>
      obtain ⟨-, rfl⟩ := List.cons.inj hsplit
      exact ⟨rfl, rfl⟩
    | y :: before =>
      obtain ⟨-, rfl⟩ := List.cons.inj hsplit
      exact absurd (htail.symm.trans (sawFinished_of_mem before after hx)) Bool.false_ne_true
  | @again limit ending span rest finished count hsaw _ ih =>
    match before with
    | [] =>
      obtain ⟨rfl, -⟩ := List.cons.inj hsplit
      exact absurd (hsaw.symm.trans hx) Bool.false_ne_true
    | [y] =>
      obtain ⟨-, hrest⟩ := List.cons.inj hsplit
      obtain ⟨rfl, -⟩ := List.cons.inj hrest
      exact absurd hx Bool.false_ne_true
    | y :: z :: before =>
      obtain ⟨rfl, hrest⟩ := List.cons.inj hsplit
      obtain ⟨rfl, hlater⟩ := List.cons.inj hrest
      obtain ⟨hbefore, hafter⟩ := ih hlater
      exact ⟨by simpa [hsaw] using hbefore, hafter⟩

end Polls

/-! ## Killing -/

/-- What is reported of a cluster that was to be killed: it is gone if that worked, and may still be
running if not. -/
def killReport (h : ClusterHandle) : Except DeployError Unit → Termination × Option DeployError
  | .ok () => (.killed, none)
  | .error e => (.running, some (teardownError h.applicationId e))

/-- What is reported of an attempt to kill a cluster. -/
def verdict (s : Supervisor) (h : ClusterHandle) (ending : Ending Unit) :
    Termination × Option DeployError :=
  killReport h (Task.settleWithin .termination (some h.applicationId) s.callTimeout ending)

/-- The kill of a cluster is one step. -/
lemma ends_kill_iff {c : Task.Course} {result : Termination × Option DeployError} :
    Ends (s.kill h) c result ↔ ∃ ending, c = [killed s h ending] ∧ result = s.verdict h ending := by
  have hkill : s.kill h = (Task.bounded .termination (some h.applicationId) s.callTimeout
      (.platform (.forceKill h)) (some h) >>= fun settled => pure (killReport h settled)) := by
    unfold kill
    congr 1
    funext settled
    cases settled <;> rfl
  rw [hkill, Dialogue.ends_bind_pure_iff]
  constructor
  · rintro ⟨settled, hrun, rfl⟩
    obtain ⟨ending, rfl, rfl⟩ := Task.ends_bounded_iff.1 hrun
    exact ⟨ending, rfl, rfl⟩
  · rintro ⟨ending, rfl, rfl⟩
    exact ⟨_, Task.ends_bounded_iff.2 ⟨ending, rfl, rfl⟩, rfl⟩

/-- What comes of a kill that worked in time. -/
lemma verdict_of_success {ending : Ending Unit}
    (hend : ending.within s.callTimeout = some (.ok ())) :
    s.verdict h ending = (.killed, none) := by
  unfold verdict Task.settleWithin
  rw [hend]
  rfl

/-- What comes of a kill that did not work in time: an error of teardown. -/
lemma verdict_of_failure {ending : Ending Unit}
    (hend : ending.within s.callTimeout ≠ some (.ok ())) :
    ∃ e : DeployError, e.kind = .teardown ∧ s.verdict h ending = (.running, some e) := by
  unfold verdict Task.settleWithin
  rcases hwithin : ending.within s.callTimeout with _ | ⟨_ | _⟩ | ⟨⟨⟩⟩
  · exact ⟨_, rfl, rfl⟩
  · exact ⟨_, rfl, rfl⟩
  · exact ⟨_, rfl, rfl⟩
  · exact absurd hwithin hend

/-! ## The end of a cluster -/

/-- A cluster that is killed at once is killed, and then its connection is closed. -/
lemma ends_terminateNow_iff {c : Task.Course} {report : SupervisionReport} :
    Ends (s.terminateNow h) c report ↔
      ∃ ending, c = [killed s h ending, released h] ∧
        report = ⟨(s.verdict h ending).1, (s.verdict h ending).2, 0⟩ := by
  unfold terminateNow
  rw [Dialogue.ends_bind_iff]
  constructor
  · rintro ⟨c₁, c₂, result, rfl, hkill, hrelease⟩
    obtain ⟨ending, rfl, rfl⟩ := ends_kill_iff.1 hkill
    obtain ⟨⟨⟩, rest, rfl, hrest⟩ := Dialogue.ends_question_bind_iff.1 hrelease
    obtain ⟨rfl, rfl⟩ := Dialogue.ends_pure_iff.1 hrest
    exact ⟨ending, rfl, rfl⟩
  · rintro ⟨ending, rfl, rfl⟩
    exact ⟨[killed s h ending], _, _, rfl, ends_kill_iff.2 ⟨ending, rfl, rfl⟩, .ask (.done _)⟩

/-- A cluster is polled, killed unless it was seen finished, and then its connection is closed. -/
lemma ends_conclude_iff {c : Task.Course} {report : SupervisionReport} :
    Ends (s.conclude h) c report ↔
      ∃ polls count, (Ends (s.pollUntil h s.deadline burst 0) polls (true, count) ∧
          c = polls ++ [released h] ∧ report = ⟨.finished, none, count⟩) ∨
        (Ends (s.pollUntil h s.deadline burst 0) polls (false, count) ∧
          ∃ ending, c = polls ++ [killed s h ending, released h] ∧
            report = ⟨(s.verdict h ending).1, (s.verdict h ending).2, count⟩) := by
  unfold conclude
  rw [Dialogue.ends_bind_iff]
  constructor
  · rintro ⟨polls, rest, ⟨finished, count⟩, rfl, hpolls, hrest⟩
    cases finished with
    | true =>
      obtain ⟨⟨⟩, rest, rfl, hend⟩ := Dialogue.ends_question_bind_iff.1 hrest
      obtain ⟨rfl, rfl⟩ := Dialogue.ends_pure_iff.1 hend
      exact ⟨polls, count, .inl ⟨hpolls, rfl, rfl⟩⟩
    | false =>
      obtain ⟨c₁, c₂, result, rfl, hkill, hrelease⟩ := Dialogue.ends_bind_iff.1 hrest
      obtain ⟨ending, rfl, rfl⟩ := ends_kill_iff.1 hkill
      obtain ⟨⟨⟩, c₂, rfl, hend⟩ := Dialogue.ends_question_bind_iff.1 hrelease
      obtain ⟨rfl, rfl⟩ := Dialogue.ends_pure_iff.1 hend
      exact ⟨polls, count, .inr ⟨hpolls, ending, rfl, rfl⟩⟩
  · rintro ⟨polls, count, ⟨hpolls, rfl, rfl⟩ | ⟨hpolls, ending, rfl, rfl⟩⟩
    · exact ⟨polls, [released h], _, rfl, hpolls, .ask (.done _)⟩
    · refine ⟨polls, [killed s h ending, released h], _, rfl, hpolls, ?_⟩
      exact Dialogue.ends_bind_iff.2 ⟨[killed s h ending], [released h], _, rfl,
        ends_kill_iff.2 ⟨ending, rfl, rfl⟩, .ask (.done _)⟩

/-- What holds of the kill and of the release holds of every step when a cluster is killed at once.
-/
lemma forall_mem_of_ends_terminateNow {p : Task.Step → Prop}
    (hkill : ∀ ending, p (killed s h ending)) (hrelease : p (released h)) {c : Task.Course}
    {report : SupervisionReport}
    (hrun : Ends (s.terminateNow h) c report) : ∀ x ∈ c, p x := by
  obtain ⟨ending, rfl, -⟩ := ends_terminateNow_iff.1 hrun
  exact List.forall_mem_cons.2 ⟨hkill ending, List.forall_mem_singleton.2 hrelease⟩

/-- What holds of polls, pauses, the kill and the release holds of every step of concluding. -/
lemma forall_mem_of_ends_conclude {p : Task.Step → Prop}
    (hpoll : ∀ limit ending, p (polled h limit ending)) (hpause : ∀ span, p (paused h span))
    (hkill : ∀ ending, p (killed s h ending)) (hrelease : p (released h)) {c : Task.Course}
    {report : SupervisionReport} (hrun : Ends (s.conclude h) c report) : ∀ x ∈ c, p x := by
  obtain ⟨polls, count, ⟨hpolls, rfl, -⟩ | ⟨hpolls, ending, rfl, -⟩⟩ := ends_conclude_iff.1 hrun
  · obtain ⟨_, hgrammar, -⟩ := polls_of_ends s h _ _ _ hpolls
    exact List.forall_mem_append.2
      ⟨hgrammar.forall_mem hpoll hpause, List.forall_mem_singleton.2 hrelease⟩
  · obtain ⟨_, hgrammar, -⟩ := polls_of_ends s h _ _ _ hpolls
    exact List.forall_mem_append.2 ⟨hgrammar.forall_mem hpoll hpause,
      List.forall_mem_cons.2 ⟨hkill ending, List.forall_mem_singleton.2 hrelease⟩⟩

end Supervisor

end ClusterDeploy
