import ClusterDeploy.Proofs.Platform.Looks
import ClusterDeploy.Rehearsal.Play

set_option relaxedAutoImplicit false
set_option autoImplicit false

/-!
# Polling for the result of a job

The result of a job is the first outcome among the answers to the looks, unless five of them in a
row are of no use before. This is so for every sequence of answers, and in every rehearsal.

## Main definitions

* `JobResult.lookedAt`, `JobResult.answeredAt` — when a look begins, and when its answer is there.
* `Rehearsal.World.replies` — what the server of a rehearsal is going to reply.
* `Rehearsal.World.IsCalm` — nothing else is under way that could use up replies.

## Main results

* `Rehearsal.runThread_look_of_lt`, `Rehearsal.runThread_look_of_le` — one look in a rehearsal.
* `Rehearsal.polledResult_from` — the looks in a rehearsal.
* `Rehearsal.exists_decides` — a script always decides.
* `JobResult.poll_decides` — the result of polling.

## Implementation notes

A rehearsal keeps the time. In virtual time a look takes no time at all, and only the pauses count.
In real time a reply takes as long as the script says, and a reply that comes at the limit or later
is not waited for.
-/

namespace ClusterDeploy

namespace JobResult

variable {url : String} {replies : Nat → Millis × Http.Reply} {interval start : Millis}

/-- When a look begins. -/
def lookedAt (url : String) (replies : Nat → Millis × Http.Reply) (interval start : Millis) :
    Nat → Millis
  | 0 => start
  | n + 1 => lookedAt url replies interval start n + (heard url replies n).1 + interval

/-- When the answer to a look is there. -/
def answeredAt (url : String) (replies : Nat → Millis × Http.Reply) (interval start : Millis)
    (n : Nat) : Millis :=
  lookedAt url replies interval start n + (heard url replies n).1

/-- A later look does not begin earlier. -/
lemma lookedAt_le_add (n m : Nat) :
    lookedAt url replies interval start n ≤ lookedAt url replies interval start (n + m) := by
  induction m with
  | zero => exact Nat.le_refl _
  | succ m ih =>
    rw [← Nat.add_assoc, lookedAt, Nat.add_assoc]
    exact Nat.le_add_right_of_le ih

/-- The answer to a later look is not there earlier. -/
lemma answeredAt_le_add (n m : Nat) :
    answeredAt url replies interval start n ≤ answeredAt url replies interval start (n + m) := by
  rcases m with _ | m
  · exact Nat.le_refl _
  · have hnext : answeredAt url replies interval start n ≤
        lookedAt url replies interval start (n + 1) := Nat.le_add_right _ interval
    have hle : lookedAt url replies interval start (n + 1) ≤
        lookedAt url replies interval start (n + (m + 1)) := by
      rw [← Nat.add_assoc, Nat.add_right_comm]
      exact lookedAt_le_add (n + 1) m
    exact Nat.le_add_right_of_le (Nat.le_trans hnext hle)

end JobResult

namespace Rehearsal

open JobResult

variable {α : Type} {url : String} {p : Polling} {w : World} {limit interval time : Millis}
  {bound n m : Nat}

/-! ## The server of a rehearsal -/

/-- What a server is going to reply. -/
def Peer.replies (p : Peer) (n : Nat) : Millis × Http.Reply :=
  match p.script[n]? with
  | some next => (next.delay, next.reply)
  | none => Peer.exhausted

/-- A server gives the first reply of its script. -/
lemma Peer.exchange_fst (peer : Peer) (request : Http.Request) :
    (peer.exchange request).1 = peer.replies 0 := by
  unfold exchange replies
  rcases peer.script with _ | ⟨next, rest⟩ <;> rfl

/-- After an exchange the first reply of the script is gone. -/
lemma Peer.replies_exchange (peer : Peer) (request : Http.Request) (n : Nat) :
    (peer.exchange request).2.replies n = peer.replies (n + 1) := by
  unfold exchange replies
  rcases peer.script with _ | ⟨next, rest⟩
  · simp
  · rfl

/-- What the server is going to reply, and how long that takes in the time of the rehearsal. -/
def World.replies (w : World) (n : Nat) : Millis × Http.Reply :=
  (if w.realTime then (w.peer.replies n).1 else 0, (w.peer.replies n).2)

/-- Nothing else is under way that could use up replies while the time passes. -/
def World.IsCalm (w : World) : Prop :=
  w.realTime = true → w.inFlight = []

/-- A world at another time. -/
def World.atTime (w : World) (time : Millis) : World :=
  { w with clock := time }

/-- A world after a look at the result of a job. -/
def World.afterLook (w : World) (url : String) : World :=
  match Url.parse url with
  | none => w
  | some u => { w with peer := (w.peer.exchange (inquiry u)).2 }

/-- A look changes nothing but what the server has left to say. -/
lemma afterLook_eq (w : World) (url : String) :
    w.afterLook url = { w with peer := (w.afterLook url).peer } := by
  unfold World.afterLook
  split <;> rfl

/-- A look leaves the kind of time as it is. -/
lemma realTime_afterLook : (w.afterLook url).realTime = w.realTime := by
  rw [afterLook_eq]

/-- A look by itself takes no time. -/
lemma clock_afterLook : (w.afterLook url).clock = w.clock := by
  rw [afterLook_eq]

/-- A look brings nothing under way. -/
lemma World.IsCalm.afterLook (hcalm : w.IsCalm) : (w.afterLook url).IsCalm := by
  rw [afterLook_eq]
  exact hcalm

/-- The replies that are left after a look are those after the first one. -/
lemma replies_afterLook : (w.afterLook url).replies = later url w.replies 1 := by
  unfold World.afterLook later asked
  rcases Url.parse url with _ | u
  · funext k
    simp
  · funext k
    simp only [World.replies, Peer.replies_exchange, List.length_replicate, Nat.add_comm 1]

/-- A look is the last request that the server has received. -/
lemma received_afterLook :
    (w.afterLook url).peer.received = asked url 1 ++ w.peer.received := by
  unfold World.afterLook asked
  rcases Url.parse url with _ | u
  · rfl
  · change (Peer.exchange _ _).2.received = _
    unfold Peer.exchange
    rcases w.peer.script with _ | ⟨next, rest⟩ <;> rfl

/-! ## One look -/

/-- What happens while a thread sleeps up to a time. -/
abbrev passing (time : Millis) : Run Unit :=
  settleUpTo (some time)

/-- Where nothing is under way, nothing happens as time passes. -/
lemma passing_of_inFlight (hempty : w.inFlight = []) : (passing time).run w = ((), w) := by
  have hsame : { w with inFlight := [] } = w := by
    rw [← hempty]
  change (((w.inFlight.mergeSort _).forM (runBehind _)).run { w with inFlight := [] }) = _
  rw [hempty, List.mergeSort_nil, hsame]
  rfl

section Sleeping

variable {next : Unit → Thread α} {now span : Millis}

/-- A thread that sleeps too long is not waited for. -/
lemma runFrom_sleep_of_le (hreal : w.realTime = true) (hspan : span ≠ 0)
    (hle : limit ≤ now + span) :
    (runFrom passing (some limit) (.ask (.sleep span) next) now).run w =
      (.asleep (now + span) (next ()), w) := by
  change (if !w.realTime || span = 0 then _ else if (some limit).any (· ≤ now + span) then _
    else _ : Run (Progress α)).run w = _
  rw [if_neg (by simp [hreal, hspan]), if_pos (by simpa using hle)]
  rfl

/-- Other threads go on after their sleep, which counts in real time only. -/
lemma runFrom_sleep_of_lt (hcalm : w.IsCalm) (hlt : w.realTime = true → now + span < limit) :
    (runFrom passing (some limit) (.ask (.sleep span) next) now).run w =
      (runFrom passing (some limit) (next ()) (now + if w.realTime then span else 0)).run w := by
  change (if !w.realTime || span = 0 then _ else if (some limit).any (· ≤ now + span) then _
    else (passing (now + span) >>= fun _ => _) : Run (Progress α)).run w = _
  rcases hreal : w.realTime with _ | _
  · rw [if_pos (by simp)]
    rfl
  · by_cases hspan : span = 0
    · rw [if_pos (by simp [hspan]), hspan]
      rfl
    · rw [if_neg (by simp [hspan]), if_neg (by simpa using hlt hreal), StateT.run_bind,
        passing_of_inFlight (hcalm hreal)]
      rfl

end Sleeping

/-- No request is sent to a URL that cannot be read. -/
lemma clientThread_look_of_none (hurl : Url.parse url = none) :
    clientThread (look url p) = .done (p.next (read .none)) := by
  unfold look Http.send Http.sendTimed
  rw [hurl]
  rfl

/-- A look is a request and a sleep until the reply is there. -/
lemma runThread_look_of_some {u : Url} (hurl : Url.parse url = some u) :
    (runThread (some limit) (clientThread (look url p))).run w =
      (runFrom passing (some limit)
        (.ask (.sleep (w.peer.replies 0).1) fun _ =>
          .done (p.next (read (.ofReply (w.peer.replies 0).2)))) w.clock).run
        (w.afterLook url) := by
  unfold World.afterLook look Http.send Http.sendTimed
  rw [hurl, ← Peer.exchange_fst w.peer (inquiry u)]
  rfl

/-- A look at a URL that can be read hears the next reply, and takes its time if time is real. -/
lemma heard_zero_of_some {u : Url} (hurl : Url.parse url = some u) (w : World) :
    heard url w.replies 0 = (if w.realTime then (w.peer.replies 0).1 else 0,
      .ofReply (w.peer.replies 0).2) := by
  rw [heard, hurl]
  rfl

/-- A look whose answer is there before the limit. -/
lemma runThread_look_of_lt (hcalm : w.IsCalm)
    (hlt : w.clock + (heard url w.replies 0).1 < limit) :
    (runThread (some limit) (clientThread (look url p))).run w =
      (.over (w.clock + (heard url w.replies 0).1) (p.next (answersOf url w.replies 0)),
        w.afterLook url) := by
  unfold answersOf
  rcases hurl : Url.parse url with _ | u
  · rw [clientThread_look_of_none hurl, heard, hurl, World.afterLook, hurl]
    rfl
  · rw [heard_zero_of_some hurl] at hlt ⊢
    rw [runThread_look_of_some hurl, runFrom_sleep_of_lt hcalm.afterLook, realTime_afterLook]
    · rfl
    · intro hreal
      rwa [realTime_afterLook.symm.trans hreal, if_pos rfl] at hlt

/-- A look whose answer is not there before the limit. -/
lemma runThread_look_of_le (hlt : w.clock < limit)
    (hle : limit ≤ w.clock + (heard url w.replies 0).1) :
    ∃ wake rest, (runThread (some limit) (clientThread (look url p))).run w =
      (.asleep wake rest, w.afterLook url) := by
  rcases hurl : Url.parse url with _ | u
  · rw [heard, hurl] at hle
    exact absurd hle (Nat.not_le_of_lt hlt)
  · rw [heard_zero_of_some hurl] at hle
    rw [runThread_look_of_some hurl]
    rcases hreal : w.realTime with _ | _
    · rw [hreal] at hle
      exact absurd hle (Nat.not_le_of_lt hlt)
    · rw [hreal, if_pos rfl] at hle
      refine ⟨_, _, runFrom_sleep_of_le (realTime_afterLook.trans hreal) ?_ hle⟩
      intro hspan
      rw [hspan] at hle
      exact absurd hle (Nat.not_le_of_lt hlt)

/-! ## Looks again and again -/

variable {replies : Nat → Millis × Http.Reply}

/-- Nothing comes of polling when its time is over. -/
lemma polledResult_of_le (hle : limit ≤ time) :
    (polledResult url interval limit (bound + 1) p time).run w = (none, w) := by
  rw [polledResult, if_pos hle]
  rfl

/-- As long as there is time polling goes on with a look, and what comes of it decides how. -/
lemma polledResult_of_lt (hlt : time < limit) :
    (polledResult url interval limit (bound + 1) p time).run w =
      match (runThread (some limit) (clientThread (look url p))).run
        (w.atTime (max w.clock time)) with
      | (.asleep wake rest, w') =>
        (none, { w' with inFlight := w'.inFlight ++ [(wake, rest.bind fun _ => .done ())] })
      | (.over answered (.inl result), w') => (some (answered, result), w')
      | (.over answered (.inr next), w') =>
        (polledResult url interval limit bound next (answered + interval)).run w' := by
  rw [polledResult, if_neg (Nat.not_le_of_lt hlt), StateT.run_bind]
  change StateT.run (runThread _ _ >>= _) (w.atTime (max w.clock time)) = _
  rw [StateT.run_bind]
  rcases (runThread (some limit) (clientThread (look url p))).run
    (w.atTime (max w.clock time)) with ⟨⟨_, _ | _⟩ | _, _⟩ <;> rfl

/-- One look, and what comes after it, if the answer is there before the limit. -/
lemma polledResult_succ (interval : Millis) (bound : Nat) (p : Polling) (hcalm : w.IsCalm)
    (hreplies : w.replies = later url replies n) (hclock : w.clock ≤ time)
    (hlt : time + (heard url replies n).1 < limit) :
    (polledResult url interval limit (bound + 1) p time).run w =
      match p.next (answersOf url replies n) with
      | .inl result =>
        (some (time + (heard url replies n).1, result), (w.atTime time).afterLook url)
      | .inr next =>
        (polledResult url interval limit bound next (time + (heard url replies n).1 + interval)).run
          ((w.atTime time).afterLook url) := by
  have hcalm' : (w.atTime time).IsCalm := hcalm
  have hreplies' : (w.atTime time).replies = later url replies n := hreplies
  have hheard : heard url (w.atTime time).replies 0 = heard url replies n := by
    rw [hreplies', heard_later]
  have hanswer : answersOf url (w.atTime time).replies 0 = answersOf url replies n := by
    rw [hreplies', answersOf_later]
  rw [polledResult_of_lt (Nat.lt_of_le_of_lt (Nat.le_add_right _ _) hlt),
    Nat.max_eq_right hclock, runThread_look_of_lt hcalm' (hheard ▸ hlt), hanswer, hheard]
  rcases p.next (answersOf url replies n) with result | next <;> rfl

/-- There is no result before the limit if a look is too late. -/
lemma polledResult_eq_none (hreplies : w.replies = later url replies n) (hclock : w.clock ≤ time)
    (hle : limit ≤ time + (heard url replies n).1) :
    ((polledResult url interval limit (bound + 1) p time).run w).1 = none := by
  by_cases hlate : limit ≤ time
  · rw [polledResult_of_le hlate]
  · have hlt := Nat.lt_of_not_le hlate
    rw [← heard_later, ← hreplies] at hle
    obtain ⟨wake, rest, hasleep⟩ :
        ∃ wake rest, (runThread (some limit) (clientThread (look url p))).run (w.atTime time) =
          (.asleep wake rest, (w.atTime time).afterLook url) := runThread_look_of_le hlt hle
    rw [polledResult_of_lt hlt, Nat.max_eq_right hclock, hasleep]

/-- **The looks in a rehearsal** give what the replies of the server decide, as soon as the answer
that decides is there, if that is before the limit.

**Proof sketch.** Induction on the number of looks that may still be made. If the next answer is too
late, so is the one that decides. Else either it is the one that decides, or the rest is a polling
from the next answer on, which has a server with the replies that are left. -/
lemma polledResult_from (limit interval : Millis) {start : Millis}
    {result : Except DeployError JobOutcome} (hcalm : w.IsCalm)
    (hreplies : w.replies = later url replies n)
    (hclock : w.clock ≤ lookedAt url replies interval start n)
    (hopen : IsUndecided (answersOf url replies) n) (hm : m < bound)
    (hdecides : Decides (answersOf url replies) (n + m) result) :
    (answeredAt url replies interval start (n + m) < limit →
      ∃ w', (polledResult url interval limit bound ⟨failures (answersOf url replies) n⟩
          (lookedAt url replies interval start n)).run w =
            (some (answeredAt url replies interval start (n + m), result), w') ∧
        w'.peer.received = asked url (m + 1) ++ w.peer.received) ∧
    (limit ≤ answeredAt url replies interval start (n + m) →
      ((polledResult url interval limit bound ⟨failures (answersOf url replies) n⟩
        (lookedAt url replies interval start n)).run w).1 = none) := by
  induction bound generalizing n m w with
  | zero => exact absurd hm m.not_lt_zero
  | succ bound ih =>
    have hlater : answeredAt url replies interval start n ≤
        answeredAt url replies interval start (n + m) := answeredAt_le_add n m
    by_cases hlate : limit ≤ answeredAt url replies interval start n
    · exact ⟨fun hlt => absurd (Nat.le_trans hlate hlater) (Nat.not_le_of_lt hlt),
        fun _ => polledResult_eq_none hreplies hclock hlate⟩
    have hstep := polledResult_succ interval bound ⟨failures (answersOf url replies) n⟩ hcalm
      hreplies hclock (Nat.lt_of_not_le hlate)
    -- the next answer decides, or it leaves open what comes of the job
    rcases next_failures hopen with ⟨result', hdecides', hnext⟩ | ⟨hopen', hnext⟩
    · obtain ⟨hnumber, rfl⟩ := hdecides.unique hdecides'
      obtain rfl : m = 0 := by omega
      rw [hnext] at hstep
      exact ⟨fun _ => ⟨_, hstep, received_afterLook⟩, fun hle => absurd hle hlate⟩
    · rcases m with _ | m
      · exact absurd hopen' (hdecides.not_isUndecided n.lt_succ_self)
      rw [hnext] at hstep
      let w' := (w.atTime (lookedAt url replies interval start n)).afterLook url
      have hcalm' : w'.IsCalm := World.IsCalm.afterLook hcalm
      have hreplies' : w'.replies = later url replies (n + 1) := by
        rw [replies_afterLook, ← later_later, ← hreplies]
        rfl
      have hclock' : w'.clock ≤ lookedAt url replies interval start (n + 1) := by
        rw [clock_afterLook]
        exact lookedAt_le_add n 1
      have hreceived' : w'.peer.received = asked url 1 ++ w.peer.received := received_afterLook
      rw [Nat.add_comm m, ← Nat.add_assoc] at hdecides
      obtain ⟨hsome, hnone⟩ :=
        ih hcalm' hreplies' hclock' hopen' (Nat.lt_of_succ_lt_succ hm) hdecides
      rw [Nat.add_comm m, ← Nat.add_assoc]
      refine ⟨fun hlt => ?_, fun hle => ?_⟩
      · obtain ⟨after, hrun, hreceived⟩ := hsome hlt
        refine ⟨after, hstep.trans hrun, ?_⟩
        rw [hreceived, hreceived', ← List.append_assoc, ← asked_add, Nat.add_comm 1]
      · rw [hstep]
        exact hnone hle

/-- **A script always decides**: once it is over there are nothing but failures. -/
lemma exists_decides (w : World) (url : String) :
    ∃ n < w.peer.script.length + 5, ∃ result, Decides (answersOf url w.replies) n result := by
  refine (isUndecided_or_exists_decides _ _).resolve_left fun hopen => ?_
  refine (hopen _ (Nat.lt_succ_self _)).2 ⟨Nat.le_add_left 4 _, fun k hk => ?_⟩
  have hover : w.peer.script[w.peer.script.length + 4 - k]? = none :=
    List.getElem?_eq_none (by omega)
  have hexhausted : w.peer.replies (w.peer.script.length + 4 - k) = Peer.exhausted := by
    rw [Peer.replies, hover]
  unfold answersOf heard
  rcases Url.parse url with _ | u
  · exact ⟨_, rfl⟩
  · simp only [World.replies, hexhausted]
    exact ⟨_, rfl⟩

/-- A world in virtual time, in which nothing has happened yet. -/
def World.untouched (script : List ScriptedReply) : World where
  files := .empty
  peer := ⟨script, []⟩
  backends := ⟨.memory, .simulated .default⟩
  storage := .empty "/user/deployer" 3 512
  platform := .start 1700000000000 .default
  ledgerPath := "ledger.db"
  wallClock := 0
  realTime := false
  rules := []
  callCounts := []
  log := []
  clock := 0
  disturbance := .none
  cancelled := false
  left := false
  held := none
  delivered := none
  inFlight := []

end Rehearsal

namespace JobResult

open Dialogue (Ends Obeys)

/-- **Polling for the result of a job.** Whatever a server replies to the looks, one after the
other,

* there is a run of the polling, however many looks it may make;
* if the first outcome comes before five answers in a row were of no use, or else a fifth such
  answer comes, then every run that gets so far ends there, with this outcome or with the error of
  this fifth answer, and has made exactly that many requests, all of them the same;
* a run that does not get so far goes on, with one request for each look;
* the polling goes on for ever exactly if no answer tells an outcome and no five answers in a row
  are of no use.

In a rehearsal the replies are those of the script, and one of them decides. The polling gives its
result at the time of this answer if that is before the limit, and nothing else. -/
theorem poll_decides (url : String) (interval : Millis) :
    (∀ replies : Nat → Millis × Http.Reply,
      (∀ bound, ∃ c r, Ends (poll url interval bound .start) c r ∧ Obeys (hears replies) c) ∧
      (∀ bound c r, Ends (poll url interval bound .start) c r → Obeys (hears replies) c →
        (∀ n < bound, ∀ result, Decides (answersOf url replies) n result →
          r = .inl result ∧ requests c = asked url (n + 1)) ∧
        (IsUndecided (answersOf url replies) bound →
          (∃ p, r = .inr p) ∧ requests c = asked url bound)) ∧
      ((∀ bound c r, Ends (poll url interval bound .start) c r → Obeys (hears replies) c →
          ∃ p, r = .inr p) ↔
        ∀ n, (∀ outcome, answersOf url replies n ≠ .ok (some outcome)) ∧
          ¬EndsRow (answersOf url replies) n)) ∧
    ∀ (w : Rehearsal.World) (limit : Millis) (id : String), w.IsCalm →
      ∃ n result, Decides (answersOf url w.replies) n result ∧
        (answeredAt url w.replies interval w.clock n < limit →
          ∃ w', (Rehearsal.jobResult limit (.polled id url interval)).run w =
              (some (answeredAt url w.replies interval w.clock n, result), w') ∧
            w'.peer.received = asked url (n + 1) ++ w.peer.received) ∧
        (limit ≤ answeredAt url w.replies interval w.clock n →
          ((Rehearsal.jobResult limit (.polled id url interval)).run w).1 = none) := by
  have hruns : ∀ replies bound, ∃ c r,
      Ends (poll url interval bound .start) c r ∧ Obeys (hears replies) c := by
    intro replies bound
    obtain ⟨⟨c, r⟩, hrun, -⟩ :=
      Dialogue.existsUnique_ends (poll url interval bound .start) (hears replies)
    exact ⟨c, r, hrun⟩
  refine ⟨fun replies => ⟨hruns replies, fun bound c r hends hobeys => ⟨?_, ?_⟩, ?_, ?_⟩, ?_⟩
  · intro n hn result hdecides
    rcases ends_poll hends hobeys with ⟨n', -, result', hdecides', hr, hc⟩ | ⟨hopen, -⟩
    · obtain ⟨rfl, rfl⟩ := hdecides.unique hdecides'
      exact ⟨hr, hc⟩
    · exact absurd hopen (hdecides.not_isUndecided hn)
  · intro hopen
    rcases ends_poll hends hobeys with ⟨n, hn, result, hdecides, -⟩ | ⟨-, hr, hc⟩
    · exact absurd hopen (hdecides.not_isUndecided hn)
    · exact ⟨hr, hc⟩
  · intro hforever n
    -- not even a run with one look more decides
    obtain ⟨c, r, hends, hobeys⟩ := hruns replies (n + 1)
    obtain ⟨p, rfl⟩ := hforever (n + 1) c r hends hobeys
    rcases ends_poll hends hobeys with ⟨_, -, _, -, hr, -⟩ | ⟨hopen, -⟩
    · exact nomatch hr
    · exact hopen n n.lt_succ_self
  · intro hnever bound c r hends hobeys
    rcases ends_poll hends hobeys with ⟨n, -, result, hdecides, -⟩ | ⟨-, hr, -⟩
    · exact absurd (fun m _ => hnever m) (hdecides.not_isUndecided n.lt_succ_self)
    · exact hr
  · intro w limit id hcalm
    obtain ⟨n, hn, result, hdecides⟩ := Rehearsal.exists_decides w url
    have hbound : n < w.peer.script.length + maxErrors + 1 := Nat.lt_succ_of_lt hn
    rw [← Nat.zero_add n] at hdecides
    have hpolled := Rehearsal.polledResult_from limit interval hcalm later_zero.symm
      (Nat.le_refl w.clock) isUndecided_zero hbound hdecides
    rw [Nat.zero_add] at hdecides hpolled
    exact ⟨n, result, hdecides, hpolled⟩

/-- An answer that can be read interrupts a row of failures: four are not enough, twice. -/
theorem poll_decides_of_interrupted_row :
    let url := "http://node-3:8088/jobs/7/execution-result"
    let lost : Rehearsal.ScriptedReply := ⟨0, .dropped⟩
    let tells : String → Rehearsal.ScriptedReply := fun status => ⟨0, .answered 200
      (some (Utf8.encode (Json.object [("status", .object [("id", .string status)])]).compact))⟩
    let w := Rehearsal.World.untouched
      [lost, lost, lost, lost, tells "IN_PROGRESS", lost, lost, lost, lost, tells "COMPLETED"]
    (∀ c r, Ends (poll url 500 12 .start) c r → Obeys (hears w.replies) c →
      r = .inl (.ok .succeeded) ∧ (requests c).length = 10) ∧
    ∃ w', (Rehearsal.jobResult 5000 (.polled "7" url 500)).run w =
        (some (4500, .ok .succeeded), w') ∧ w'.peer.received.length = 10 := by
  intro url lost tells w
  have hearly : ∀ m < 9,
      (answersOf url w.replies m).toOption = if m = 4 then some none else none := by
    decide +kernel
  have hlast : answersOf url w.replies 9 = .ok (some .succeeded) := by
    have hvalue : (answersOf url w.replies 9).toOption = some (some .succeeded) := by decide +kernel
    cases hanswer : answersOf url w.replies 9 with
    | error e =>
      rw [hanswer] at hvalue
      exact nomatch hvalue
    | ok value =>
      rw [hanswer] at hvalue
      rw [Option.some.inj hvalue]
  have hdecides : Decides (answersOf url w.replies) 9 (.ok .succeeded) := by
    refine .completed (fun m hm => ⟨fun outcome htold => ?_, fun ⟨hrow, hfailed⟩ => ?_⟩) hlast
    · have hvalue := hearly m hm
      rw [htold] at hvalue
      split at hvalue <;> exact nomatch hvalue
    · -- Every five answers in a row before the last one have the one in them that can be read.
      obtain ⟨e, he⟩ := hfailed (m - 4) (by omega)
      rw [Nat.sub_sub_self hrow] at he
      have hvalue := hearly 4 (by decide)
      rw [he] at hvalue
      exact nomatch hvalue
  obtain ⟨hpoll, hrehearsal⟩ := poll_decides url 500
  have hlength : (asked url 10).length = 10 := by decide +kernel
  refine ⟨fun c r hends hobeys => ?_, ?_⟩
  · obtain ⟨hr, hc⟩ := ((hpoll w.replies).2.1 12 c r hends hobeys).1 9 (by decide) _ hdecides
    exact ⟨hr, by rw [hc, hlength]⟩
  · have hcalm : w.IsCalm := nofun
    obtain ⟨n, result, hdecides', hsome, -⟩ := hrehearsal w 5000 "7" hcalm
    obtain ⟨rfl, rfl⟩ := hdecides.unique hdecides'
    have htime : answeredAt url w.replies 500 w.clock 9 = 4500 := by decide +kernel
    rw [htime] at hsome
    obtain ⟨w', hrun, hreceived⟩ := hsome (by decide)
    refine ⟨w', hrun, ?_⟩
    rw [hreceived, List.length_append, hlength]
    rfl

end JobResult

end ClusterDeploy
