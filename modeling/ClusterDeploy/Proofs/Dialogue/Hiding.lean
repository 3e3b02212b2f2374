import ClusterDeploy.Proofs.Dialogue.Questions
import Mathlib.Tactic.SplitIfs

set_option relaxedAutoImplicit false
set_option autoImplicit false

/-!
# Programs seen without some of their questions

Some questions of a program may not matter to whoever watches it. If the program goes on in the same
way whatever it is answered to them, then it looks like another program, which does not ask them.

## Main definitions

* `Dialogue.LooksLike` — what a program looks like to somebody who does not see some questions.

## Main results

* `Dialogue.LooksLike.bind` — programs in sequence.
* `Dialogue.LooksLike.ends` — what is seen of a run is a run of the program that is seen.
* `Dialogue.LooksLike.exists_ends` — and every run of that program is seen of some run.

## Implementation notes

The answers to the hidden questions may be restricted. What is said of a program then holds of the
runs in which only these answers are given.
-/

namespace ClusterDeploy

namespace Dialogue

variable {Q : Type} {A : Q → Type} {α β : Type} {hidden : Q → Bool}
  {allowed : (q : Q) → A q → Prop} {p seen : Dialogue Q A α} {t : List (Exchange Q A)} {a : α}

/-- What a program looks like to somebody who does not see the hidden questions, as long as the
answers to these are among those that are allowed. -/
def LooksLike (hidden : Q → Bool) (allowed : (q : Q) → A q → Prop) :
    Dialogue Q A α → Dialogue Q A α → Prop
  | done a, seen => seen = done a
  | ask q next, seen =>
    if hidden q then ∀ a, allowed q a → LooksLike hidden allowed (next a) seen
    else ∃ shown, seen = ask q shown ∧ ∀ a, LooksLike hidden allowed (next a) (shown a)

namespace LooksLike

/-- A value is seen as it is. -/
lemma pure (a : α) : LooksLike hidden allowed (Pure.pure a : Dialogue Q A α) (Pure.pure a) :=
  rfl

/-- A hidden question is not seen, and neither is its answer. -/
lemma ask_of_hidden {q : Q} {next : A q → Dialogue Q A α} (hq : hidden q = true)
    (h : ∀ a, allowed q a → LooksLike hidden allowed (next a) seen) :
    LooksLike hidden allowed (ask q next) seen := by
  rw [LooksLike, if_pos hq]
  exact h

/-- Every other question is seen. -/
lemma ask {q : Q} {next shown : A q → Dialogue Q A α} (hq : hidden q = false)
    (h : ∀ a, LooksLike hidden allowed (next a) (shown a)) :
    LooksLike hidden allowed (Dialogue.ask q next) (Dialogue.ask q shown) := by
  rw [LooksLike, hq, if_neg Bool.false_ne_true]
  exact ⟨shown, rfl, h⟩

/-- A question that is not hidden is seen as it is. -/
lemma question {q : Q} (hq : hidden q = false) :
    LooksLike hidden allowed (Dialogue.question q : Dialogue Q A (A q)) (Dialogue.question q) :=
  ask hq fun _ => rfl

/-- Programs in sequence. -/
lemma bind {f g : α → Dialogue Q A β} (hp : LooksLike hidden allowed p seen)
    (hf : ∀ a, LooksLike hidden allowed (f a) (g a)) :
    LooksLike hidden allowed (p >>= f) (seen >>= g) := by
  induction p generalizing seen with
  | done a =>
    obtain rfl : seen = done a := hp
    exact hf a
  | ask q next ih =>
    rw [LooksLike] at hp
    split_ifs at hp with hq
    · exact ask_of_hidden hq fun a ha => ih a (hp a ha)
    · obtain ⟨shown, rfl, hshown⟩ := hp
      exact ask (eq_false_of_ne_true hq) fun a => ih a (hshown a)

/-- **What is seen of a run is a run of the program that is seen.** -/
lemma ends (h : LooksLike hidden allowed p seen) (hrun : Ends p t a)
    (hallowed : ∀ x ∈ t, hidden x.question = true → allowed x.question x.answer) :
    Ends seen (t.filter fun x => !hidden x.question) a := by
  induction hrun generalizing seen with
  | done a =>
    obtain rfl : seen = done a := h
    exact .done a
  | @ask q next answer rest a hrest ih =>
    obtain ⟨hfirst, hlater⟩ := List.forall_mem_cons.1 hallowed
    rw [LooksLike] at h
    split_ifs at h with hq
    · rw [List.filter_cons_of_neg (by simp [hq])]
      exact ih (h answer (hfirst hq)) hlater
    · obtain ⟨shown, rfl, hshown⟩ := h
      rw [List.filter_cons_of_pos (by simp [hq])]
      exact .ask (ih (hshown answer) hlater)

/-- **Every run of the program that is seen is seen of some run**, whatever is answered to the
hidden questions. -/
lemma exists_ends (h : LooksLike hidden allowed p seen) (answer : (q : Q) → A q)
    (hanswer : ∀ q, hidden q = true → allowed q (answer q)) (hrun : Ends seen t a) :
    ∃ whole, Ends p whole a ∧ (whole.filter fun x => !hidden x.question) = t ∧
      ∀ x ∈ whole, hidden x.question = true → x.answer = answer x.question := by
  induction p generalizing seen t with
  | done b =>
    obtain rfl : seen = done b := h
    cases hrun
    exact ⟨[], .done _, rfl, fun x hx => absurd hx List.not_mem_nil⟩
  | ask q next ih =>
    rw [LooksLike] at h
    split_ifs at h with hq
    · obtain ⟨whole, hends, hfilter, hanswers⟩ := ih (answer q) (h _ (hanswer q hq)) hrun
      refine ⟨⟨q, answer q⟩ :: whole, .ask hends, ?_, ?_⟩
      · rw [List.filter_cons_of_neg (by simp [hq])]
        exact hfilter
      · exact List.forall_mem_cons.2 ⟨fun _ => rfl, hanswers⟩
    · obtain ⟨shown, rfl, hshown⟩ := h
      obtain ⟨b, rest, rfl, hrest⟩ := ends_ask_iff.1 hrun
      obtain ⟨whole, hends, hfilter, hanswers⟩ := ih b (hshown b) hrest
      refine ⟨⟨q, b⟩ :: whole, .ask hends, ?_, ?_⟩
      · rw [List.filter_cons_of_pos (by simp [hq]), hfilter]
      · exact List.forall_mem_cons.2 ⟨fun hhidden => absurd hhidden hq, hanswers⟩

end LooksLike

end Dialogue

end ClusterDeploy
