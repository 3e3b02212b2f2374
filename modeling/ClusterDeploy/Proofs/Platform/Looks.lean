import ClusterDeploy.Platform.JobResult
import ClusterDeploy.Proofs.Platform.Conversations

set_option relaxedAutoImplicit false
set_option autoImplicit false

/-!
# Looks at the result of a job

What a sequence of answers decides about a job, and what is said until it is decided. The answers
are those to all looks that could ever be made; a polling that ends makes no use of the later ones.

## Main definitions

* `JobResult.EndsRow` — an answer is the last of five in a row that are of no use.
* `JobResult.Decides` — the answer at which the polling ends, and the result.
* `JobResult.failures` — how many answers in a row were of no use.
* `JobResult.hears`, `JobResult.answersOf` — a server with a sequence of replies, and what these
  replies say about the job.
* `JobResult.asked` — the requests of a number of looks.

## Main results

* `JobResult.next_failures` — one more answer ends the polling exactly if it decides.
* `JobResult.Decides.unique`, `JobResult.isUndecided_or_exists_decides` — at most one answer
  decides, and if none does then nothing is decided.
* `JobResult.ends_poll` — the runs of the polling.

## Implementation notes

Nothing is sent to a URL that cannot be read. A look at it is a look all the same, and its answer is
of no use; so the looks are counted, and not the requests.
-/

namespace ClusterDeploy.JobResult

open Dialogue (Ends Obeys)

/-! ## What answers decide -/

/-- The answers to looks at the result of a job, by the number of the look. -/
abbrev Answers := Nat → Except DeployError (Option JobOutcome)

variable {answers : Answers} {n m : Nat} {result result' : Except DeployError JobOutcome}

/-- Holds if an answer is the last of five in a row that are of no use. -/
def EndsRow (answers : Answers) (n : Nat) : Prop :=
  4 ≤ n ∧ ∀ k < 5, ∃ e, answers (n - k) = .error e

/-- Holds if no answer before this one tells an outcome, or is the last of five in a row that are of
no use. -/
def IsUndecided (answers : Answers) (n : Nat) : Prop :=
  ∀ m < n, (∀ outcome, answers m ≠ .ok (some outcome)) ∧ ¬EndsRow answers m

/-- Holds if the polling is to end at an answer, with a result. -/
inductive Decides (answers : Answers) (n : Nat) : Except DeployError JobOutcome → Prop where
  /-- The answer is the first that tells an outcome. -/
  | completed {outcome : JobOutcome} : IsUndecided answers n → answers n = .ok (some outcome) →
    Decides answers n (.ok outcome)
  /-- The answer is the fifth in the first row of answers of no use. -/
  | gaveUp {e : DeployError} : IsUndecided answers n → EndsRow answers n → answers n = .error e →
    Decides answers n (.error e)

/-- Before the first answer nothing is decided. -/
lemma isUndecided_zero : IsUndecided answers 0 :=
  nofun

/-- An answer that tells no outcome and ends no row leaves open what comes of the job. -/
lemma IsUndecided.succ (hopen : IsUndecided answers n)
    (hrunning : ∀ outcome, answers n ≠ .ok (some outcome)) (hrow : ¬EndsRow answers n) :
    IsUndecided answers (n + 1) := by
  intro m hm
  rcases Nat.lt_succ_iff_lt_or_eq.1 hm with hm | rfl
  · exact hopen m hm
  · exact ⟨hrunning, hrow⟩

/-- The answers before the one that decides leave it open. -/
lemma Decides.isUndecided (h : Decides answers n result) : IsUndecided answers n := by
  cases h <;> assumption

/-- After an answer that decides nothing is open any more. -/
lemma Decides.not_isUndecided (h : Decides answers n result) (hlt : n < m) :
    ¬IsUndecided answers m := by
  intro hopen
  obtain ⟨hrunning, hrow⟩ := hopen n hlt
  cases h with
  | completed _ hanswer => exact hrunning _ hanswer
  | gaveUp _ hends _ => exact hrow hends

/-- **At most one answer decides**, and it decides one result. -/
lemma Decides.unique (h : Decides answers n result) (h' : Decides answers m result') :
    n = m ∧ result = result' := by
  obtain rfl : n = m := by
    rcases Nat.lt_trichotomy n m with hlt | heq | hlt
    · exact absurd h'.isUndecided (h.not_isUndecided hlt)
    · exact heq
    · exact absurd h.isUndecided (h'.not_isUndecided hlt)
  refine ⟨rfl, ?_⟩
  cases h with
  | completed _ hanswer =>
    cases h' with
    | completed _ hanswer' =>
      exact congrArg Except.ok (Option.some.inj (Except.ok.inj (hanswer.symm.trans hanswer')))
    | gaveUp _ _ hanswer' => exact nomatch hanswer.symm.trans hanswer'
  | gaveUp _ _ hanswer =>
    cases h' with
    | completed _ hanswer' => exact nomatch hanswer.symm.trans hanswer'
    | gaveUp _ _ hanswer' =>
      exact congrArg Except.error (Except.error.inj (hanswer.symm.trans hanswer'))

/-! ## Counting failures -/

/-- How many answers in a row were of no use before the one with a number. -/
def failures (answers : Answers) : Nat → Nat
  | 0 => 0
  | n + 1 =>
    match answers n with
    | .ok _ => 0
    | .error _ => failures answers n + 1

/-- An answer that can be read ends a row of failures. -/
lemma failures_succ_of_ok {value : Option JobOutcome} (h : answers n = .ok value) :
    failures answers (n + 1) = 0 := by
  rw [failures, h]

/-- An answer of no use makes a row of failures longer. -/
lemma failures_succ_of_error {e : DeployError} (h : answers n = .error e) :
    failures answers (n + 1) = failures answers n + 1 := by
  rw [failures, h]

/-- The count is at least a number if that many answers before were of no use. -/
lemma le_failures_iff {k : Nat} : k ≤ failures answers n ↔
    k ≤ n ∧ ∀ i < k, ∃ e, answers (n - (i + 1)) = .error e := by
  induction n generalizing k with
  | zero =>
    constructor
    · intro h
      obtain rfl := Nat.le_zero.1 h
      exact ⟨Nat.le_refl 0, nofun⟩
    · exact fun h => h.1
  | succ n ih =>
    rcases k with _ | k
    · simp
    rw [Nat.forall_lt_succ_left]
    simp only [Nat.add_sub_add_right, Nat.sub_zero]
    rcases hanswer : answers n with e | value
    · rw [failures_succ_of_error hanswer, Nat.succ_le_succ_iff, ih]
      simp
    · rw [failures_succ_of_ok hanswer]
      simp

/-- An answer ends a row of five exactly if five failures in a row have been counted with it. -/
lemma endsRow_iff : EndsRow answers n ↔ 5 ≤ failures answers (n + 1) := by
  rw [le_failures_iff, EndsRow]
  simp only [Nat.add_sub_add_right, Nat.succ_le_succ_iff]

/-- **One more answer ends the polling exactly if it decides.** Else the polling goes on, and the
failures are counted up to this answer. -/
lemma next_failures (hopen : IsUndecided answers n) :
    (∃ result, Decides answers n result ∧
      (Polling.mk (failures answers n)).next (answers n) = .inl result) ∨
    IsUndecided answers (n + 1) ∧
      (Polling.mk (failures answers n)).next (answers n) = .inr ⟨failures answers (n + 1)⟩ := by
  rcases hanswer : answers n with e | _ | outcome
  · have hrow : EndsRow answers n ↔ _ := endsRow_iff
    rw [failures_succ_of_error hanswer] at hrow ⊢
    rw [Polling.next]
    by_cases hends : EndsRow answers n
    · exact .inl ⟨.error e, .gaveUp hopen hends hanswer, if_pos (hrow.1 hends)⟩
    · exact .inr ⟨hopen.succ (by simp [hanswer]) hends, if_neg (mt hrow.2 hends)⟩
  · have hrow : ¬EndsRow answers n := by
      rw [endsRow_iff, failures_succ_of_ok hanswer]
      decide
    rw [failures_succ_of_ok hanswer]
    exact .inr ⟨hopen.succ (by simp [hanswer]) hrow, rfl⟩
  · exact .inl ⟨.ok outcome, .completed hopen hanswer, rfl⟩

/-- As long as no answer decides, nothing is decided. -/
lemma isUndecided_or_exists_decides (answers : Answers) (n : Nat) :
    IsUndecided answers n ∨ ∃ m < n, ∃ result, Decides answers m result := by
  induction n with
  | zero => exact .inl isUndecided_zero
  | succ n ih =>
    rcases ih with hopen | ⟨m, hm, hdecides⟩
    · rcases next_failures hopen with ⟨result, hdecides, -⟩ | ⟨hopen', -⟩
      · exact .inr ⟨n, n.lt_succ_self, result, hdecides⟩
      · exact .inl hopen'
    · exact .inr ⟨m, Nat.lt_succ_of_lt hm, hdecides⟩

/-! ## What is said -/

variable {url : String} {replies : Nat → Millis × Http.Reply} {interval : Millis}
  {c : Http.Conversation} {r : Except DeployError JobOutcome ⊕ Polling}

/-- The requests of a conversation, in order. -/
def requests (c : Http.Conversation) : List Http.Request :=
  c.filterMap fun x => match x.question with
    | .exchange request => some request
    | .pause _ => none

/-- The requests of two parts are those of the first, and then those of the second. -/
lemma requests_append (c d : Http.Conversation) : requests (c ++ d) = requests c ++ requests d :=
  List.filterMap_append

/-- A server that gives the replies of a sequence, one for each request. -/
def hears (replies : Nat → Millis × Http.Reply) (before : Http.Conversation) :
    (q : Http.Question) → Http.Answer q
  | .exchange _ => replies (requests before).length
  | .pause _ => ()

/-- How long a look takes, and what comes of it. -/
def heard (url : String) (replies : Nat → Millis × Http.Reply) (n : Nat) :
    Millis × Http.Response :=
  match Url.parse url with
  | none => (0, .none)
  | some _ => ((replies n).1, .ofReply (replies n).2)

/-- What the replies of a server say about a job. -/
def answersOf (url : String) (replies : Nat → Millis × Http.Reply) : Answers :=
  fun n => read (heard url replies n).2

/-- The request for the result of a job. -/
def inquiry (u : Url) : Http.Request :=
  ⟨u.server, "GET", u.target, none⟩

/-- The requests of a number of looks. All are the same, and to the same URL. -/
def asked (url : String) (n : Nat) : List Http.Request :=
  match Url.parse url with
  | none => []
  | some u => List.replicate n (inquiry u)

/-- The replies that are left after a number of looks. -/
def later (url : String) (replies : Nat → Millis × Http.Reply) (n : Nat) :
    Nat → Millis × Http.Reply :=
  fun k => replies ((asked url n).length + k)

/-- No looks, no requests. -/
lemma asked_zero : asked url 0 = [] := by
  unfold asked
  split <;> rfl

/-- The requests of some looks and of some more follow one another. -/
lemma asked_add : asked url (n + m) = asked url n ++ asked url m := by
  unfold asked
  split
  · rfl
  · exact List.replicate_append_replicate.symm

/-- All replies are left before the first look. -/
lemma later_zero : later url replies 0 = replies := by
  funext k
  rw [later, asked_zero, List.length_nil, Nat.zero_add]

/-- The replies that are left after some looks and then some more are those after all of them. -/
lemma later_later : later url (later url replies n) m = later url replies (n + m) := by
  funext k
  simp only [later, asked_add, List.length_append, Nat.add_assoc]

/-- The first look from now on hears what the look with its number in the whole hears. -/
lemma heard_later : heard url (later url replies n) 0 = heard url replies n := by
  unfold heard later asked
  split
  · rfl
  · rw [List.length_replicate, Nat.add_zero]

/-- The first answer from now on is the one with its number in the whole. -/
lemma answersOf_later : answersOf url (later url replies n) 0 = answersOf url replies n :=
  congrArg (fun said : Millis × Http.Response => read said.2) heard_later

/-- After some looks a server gives the replies that are left. -/
lemma hears_append {before : Http.Conversation} (h : requests before = asked url n) :
    (fun rest => hears replies (before ++ rest)) = hears (later url replies n) := by
  funext rest q
  cases q with
  | exchange request =>
    simp only [hears, later, requests_append, List.length_append, h]
  | pause span => rfl

/-! ## Runs -/

/-- A look is one request, unless the URL cannot be read. -/
lemma eq_of_ends_look {p : Polling} (hends : Ends (look url p) c r)
    (hobeys : Obeys (hears replies) c) :
    requests c = asked url 1 ∧ r = p.next (answersOf url replies 0) := by
  obtain ⟨response, hsend, rfl⟩ := Dialogue.ends_bind_pure_iff.1 hends
  obtain ⟨took, htimed⟩ := Http.ends_send_iff.1 hsend
  unfold answersOf heard asked
  rcases Http.ends_sendTimed_iff.1 htimed with ⟨hurl, rfl, -, rfl⟩ | ⟨u, reply, hurl, rfl, rfl⟩
  · rw [hurl]
    exact ⟨rfl, rfl⟩
  · rw [hurl]
    obtain hreply : (took, reply) = replies 0 := hobeys [] _ [] rfl
    rw [← hreply]
    exact ⟨rfl, rfl⟩

/-- The rest of a polling, from a look on. -/
private lemma ends_poll_from {bound : Nat} (hopen : IsUndecided (answersOf url replies) n)
    (hends : Ends (poll url interval bound ⟨failures (answersOf url replies) n⟩) c r)
    (hobeys : Obeys (hears (later url replies n)) c) :
    (∃ m < bound, ∃ result, Decides (answersOf url replies) (n + m) result ∧
      r = .inl result ∧ requests c = asked url (m + 1)) ∨
    IsUndecided (answersOf url replies) (n + bound) ∧
      r = .inr ⟨failures (answersOf url replies) (n + bound)⟩ ∧ requests c = asked url bound := by
  induction bound generalizing n c with
  | zero =>
    obtain ⟨rfl, rfl⟩ := Dialogue.ends_pure_iff.1 hends
    exact .inr ⟨hopen, rfl, asked_zero.symm⟩
  | succ bound ih =>
    obtain ⟨c₁, c₂, looked, rfl, hlook, hrest⟩ := Dialogue.ends_bind_iff.1 hends
    obtain ⟨hobeys₁, hobeys₂⟩ := Dialogue.obeys_append_iff.1 hobeys
    obtain ⟨hrequests, rfl⟩ := eq_of_ends_look hlook hobeys₁
    rw [answersOf_later] at hrest
    rcases next_failures hopen with ⟨result, hdecides, hnext⟩ | ⟨hopen', hnext⟩
    · rw [hnext] at hrest
      obtain ⟨rfl, rfl⟩ := Dialogue.ends_pure_iff.1 hrest
      refine .inl ⟨0, bound.succ_pos, result, hdecides, rfl, ?_⟩
      rw [List.append_nil, hrequests]
    · rw [hnext] at hrest
      obtain ⟨pause, c₃, rfl, hgoesOn⟩ := Dialogue.ends_question_bind_iff.1 hrest
      -- Neither the look nor the pause keeps the server from the replies that follow.
      have hsaid : requests (c₁ ++ [⟨.pause interval, pause⟩]) = asked url 1 := by
        rw [requests_append, hrequests]
        exact List.append_nil _
      rw [List.append_cons] at hobeys ⊢
      have hobeys₃ := (Dialogue.obeys_append_iff.1 hobeys).2
      rw [hears_append hsaid, later_later] at hobeys₃
      rw [requests_append, hsaid]
      rcases ih hopen' hgoesOn hobeys₃ with ⟨m, hm, result, hdecides, rfl, hc⟩ | ⟨hopen'', rfl, hc⟩
      · refine .inl ⟨m + 1, Nat.succ_lt_succ hm, result, ?_, rfl, ?_⟩
        · rwa [Nat.add_comm m, ← Nat.add_assoc]
        · rw [hc, ← asked_add, Nat.add_comm 1]
      · rw [Nat.add_comm bound, ← Nat.add_assoc]
        exact .inr ⟨hopen'', rfl, by rw [hc, ← asked_add]⟩

/-- **The runs of the polling**, with a server that gives the replies of a sequence. A run ends with
the answer that decides, if that is among the first ones, and else it goes on.

**Proof sketch.** Induction on the number of looks that may still be made. So far nothing is
decided, and what the polling remembers is the number of failures; the next answer ends the polling
exactly if it decides, and the rest is a polling from the next answer on. -/
lemma ends_poll {bound : Nat} (hends : Ends (poll url interval bound .start) c r)
    (hobeys : Obeys (hears replies) c) :
    (∃ n < bound, ∃ result, Decides (answersOf url replies) n result ∧ r = .inl result ∧
      requests c = asked url (n + 1)) ∨
    IsUndecided (answersOf url replies) bound ∧ (∃ p, r = .inr p) ∧
      requests c = asked url bound := by
  have hobeys' : Obeys (hears (later url replies 0)) c := by rwa [later_zero]
  rcases ends_poll_from isUndecided_zero hends hobeys' with
    ⟨n, hn, result, hdecides, hr, hc⟩ | ⟨hopen, hr, hc⟩
  · rw [Nat.zero_add] at hdecides
    exact .inl ⟨n, hn, result, hdecides, hr, hc⟩
  · rw [Nat.zero_add] at hopen
    exact .inr ⟨hopen, ⟨_, hr⟩, hc⟩

end ClusterDeploy.JobResult
