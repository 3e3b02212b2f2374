import ClusterDeploy.Dialogue
import Mathlib.Logic.ExistsUnique
import Mathlib.Tactic.Lemma

set_option relaxedAutoImplicit false
set_option autoImplicit false

/-!
# Runs of dialogues

A run of a dialogue is a list of questions with their answers. This module has the equations of
`Dialogue.Ends` for programs written with `do`, the runs that are broken off before the end, and the
runs in which somebody answers by a fixed rule.

## Main definitions

* `Dialogue.Reaches` — the questions and answers on the way to a part of a program.
* `Dialogue.Obeys` — all answers of a run are those of a rule.

## Main results

* `Dialogue.ends_bind_iff`, `Dialogue.ends_question_bind_iff`, `Dialogue.ends_run_bind_iff` — runs
  of programs in sequence.
* `Dialogue.exists_ends_of_reaches` — a run that is broken off is the first part of a whole run.
* `Dialogue.existsUnique_ends` — whoever answers, there is exactly one run.
-/

namespace ClusterDeploy

namespace Dialogue

variable {Q : Type} {A : Q → Type} {α β : Type}

/-! ## Whole runs -/

/-- A result ends at once. -/
@[simp]
lemma ends_pure_iff {a b : α} {t : List (Exchange Q A)} :
    Ends (pure a : Dialogue Q A α) t b ↔ t = [] ∧ b = a := by
  constructor
  · intro h
    cases h
    exact ⟨rfl, rfl⟩
  · rintro ⟨rfl, rfl⟩
    exact .done _

/-- The run of a program that asks a question goes on after its answer. -/
lemma ends_ask_iff {q : Q} {next : A q → Dialogue Q A α} {t : List (Exchange Q A)} {b : α} :
    Ends (ask q next) t b ↔ ∃ a rest, t = ⟨q, a⟩ :: rest ∧ Ends (next a) rest b := by
  constructor
  · intro h
    cases h with
    | ask h => exact ⟨_, _, rfl, h⟩
  · rintro ⟨a, rest, rfl, h⟩
    exact .ask h

/-- `Dialogue.ends_bind` for programs written with `do`. -/
lemma ends_bind_iff {p : Dialogue Q A α} {f : α → Dialogue Q A β} {t : List (Exchange Q A)}
    {b : β} :
    Ends (p >>= f) t b ↔ ∃ t₁ t₂ a, t = t₁ ++ t₂ ∧ Ends p t₁ a ∧ Ends (f a) t₂ b :=
  ends_bind

/-- A question that is asked first is the first one of the run. -/
lemma ends_question_bind_iff {q : Q} {f : A q → Dialogue Q A β} {t : List (Exchange Q A)} {b : β} :
    Ends (question q >>= f) t b ↔ ∃ a rest, t = ⟨q, a⟩ :: rest ∧ Ends (f a) rest b :=
  ends_ask_iff

/-- A program whose result is converted at the end has the same runs. -/
lemma ends_bind_pure_iff {p : Dialogue Q A α} {f : α → β} {t : List (Exchange Q A)} {b : β} :
    Ends (p >>= fun a => pure (f a)) t b ↔ ∃ a, Ends p t a ∧ b = f a := by
  rw [ends_bind_iff]
  constructor
  · rintro ⟨t₁, t₂, a, rfl, h₁, h₂⟩
    obtain ⟨rfl, rfl⟩ := ends_pure_iff.1 h₂
    exact ⟨a, by rwa [List.append_nil], rfl⟩
  · rintro ⟨a, h, rfl⟩
    exact ⟨t, [], a, (List.append_nil t).symm, h, .done _⟩

/-- Of two runs of one program neither goes on where the other is over. -/
lemma Ends.append_inj {p : Dialogue Q A α} {t₁ t₂ x y : List (Exchange Q A)} {a b : α}
    (h₁ : Ends p t₁ a) (h₂ : Ends p t₂ b) (happend : t₁ ++ x = t₂ ++ y) :
    t₁ = t₂ ∧ a = b ∧ x = y := by
  induction h₁ generalizing t₂ with
  | done a =>
    cases h₂
    exact ⟨rfl, rfl, happend⟩
  | ask h₁ ih =>
    cases h₂ with
    | ask h₂ =>
      obtain ⟨hstep, hrest⟩ := List.cons.inj happend
      cases hstep
      obtain ⟨rfl, rfl, rfl⟩ := ih h₂ hrest
      exact ⟨rfl, rfl, rfl⟩

/-! ## Programs that may fail -/

section Failing

variable {ε : Type} {t : List (Exchange Q A)}

/-- Programs in sequence: the second one runs if the first one did not fail. -/
lemma ends_run_bind_iff {p : ExceptT ε (Dialogue Q A) α} {f : α → ExceptT ε (Dialogue Q A) β}
    {r : Except ε β} :
    Ends (p >>= f).run t r ↔ ∃ t₁ t₂ a, t = t₁ ++ t₂ ∧ Ends p.run t₁ a ∧
      Ends (match a with
        | .ok a => (f a).run
        | .error e => pure (.error e)) t₂ r := by
  have hrun : (p >>= f).run = p.run >>= fun a => match a with
      | .ok a => (f a).run
      | .error e => pure (.error e) := by
    rw [ExceptT.run_bind]
    congr 1
    funext a
    cases a <;> rfl
  rw [hrun, ends_bind_iff]

/-- A sequence of programs gives a value only if the first one gives one too. -/
lemma ends_run_bind_ok_iff {p : ExceptT ε (Dialogue Q A) α} {f : α → ExceptT ε (Dialogue Q A) β}
    {b : β} :
    Ends (p >>= f).run t (.ok b) ↔
      ∃ t₁ t₂ a, t = t₁ ++ t₂ ∧ Ends p.run t₁ (.ok a) ∧ Ends (f a).run t₂ (.ok b) := by
  rw [ends_run_bind_iff]
  constructor
  · rintro ⟨t₁, t₂, a, rfl, hfirst, hrest⟩
    cases a with
    | error e => exact nomatch (ends_pure_iff.1 hrest).2
    | ok a => exact ⟨t₁, t₂, a, rfl, hfirst, hrest⟩
  · rintro ⟨t₁, t₂, a, rfl, hfirst, hrest⟩
    exact ⟨t₁, t₂, .ok a, rfl, hfirst, hrest⟩

/-- A part that cannot fail, and then a program. -/
lemma ends_run_lift_bind_iff {p : Dialogue Q A α} {f : α → ExceptT ε (Dialogue Q A) β}
    {r : Except ε β} :
    Ends (ExceptT.lift p >>= f).run t r ↔
      ∃ t₁ t₂ a, t = t₁ ++ t₂ ∧ Ends p t₁ a ∧ Ends (f a).run t₂ r := by
  have hrun : (ExceptT.lift p >>= f).run = p >>= fun a => (f a).run := by simp
  rw [hrun, ends_bind_iff]

/-- A value ends at once. -/
lemma ends_run_pure_iff {a : α} {r : Except ε α} :
    Ends (pure a : ExceptT ε (Dialogue Q A) α).run t r ↔ t = [] ∧ r = .ok a :=
  ends_pure_iff

/-- A failure ends at once. -/
lemma ends_run_throw_iff {e : ε} {r : Except ε α} :
    Ends (throw e : ExceptT ε (Dialogue Q A) α).run t r ↔ t = [] ∧ r = .error e :=
  ends_pure_iff

end Failing

/-! ## Runs that are broken off -/

/-- Holds if a program comes to what is left of it after exactly these questions and answers. -/
inductive Reaches : Dialogue Q A α → List (Exchange Q A) → Dialogue Q A α → Prop where
  | here (p : Dialogue Q A α) : Reaches p [] p
  | ask {q : Q} {next : A q → Dialogue Q A α} {a : A q} {rest : List (Exchange Q A)}
      {left : Dialogue Q A α} :
    Reaches (next a) rest left → Reaches (ask q next) (⟨q, a⟩ :: rest) left

/-- What is left of a program may be run to its end. -/
lemma Reaches.ends {p left : Dialogue Q A α} {t₁ t₂ : List (Exchange Q A)} {b : α}
    (h : Reaches p t₁ left) (hleft : Ends left t₂ b) : Ends p (t₁ ++ t₂) b := by
  induction h with
  | here p => exact hleft
  | ask _ ih => exact .ask (ih hleft)

/-- Programs in sequence come to what is left of the second one. -/
lemma Ends.reaches_bind {p : Dialogue Q A α} {f : α → Dialogue Q A β} {left : Dialogue Q A β}
    {t₁ t₂ : List (Exchange Q A)} {a : α} (h : Ends p t₁ a) (hleft : Reaches (f a) t₂ left) :
    Reaches (p >>= f) (t₁ ++ t₂) left := by
  induction h with
  | done a => exact hleft
  | ask _ ih => exact .ask (ih hleft)

/-! ## Runs with somebody who answers -/

/-- All answers of a run are those of a rule, which knows what was said before. -/
def Obeys (rule : List (Exchange Q A) → (q : Q) → A q) (t : List (Exchange Q A)) : Prop :=
  ∀ before x after, t = before ++ x :: after → x.answer = rule before x.question

/-- Answers that depend on their questions alone. -/
lemma obeys_of_forall_mem {answer : (q : Q) → A q} {t : List (Exchange Q A)}
    (h : ∀ x ∈ t, x.answer = answer x.question) : Obeys (fun _ => answer) t := by
  rintro before x after rfl
  exact h x (List.mem_append_right before List.mem_cons_self)

/-- A run in two parts obeys a rule if the first part does, and the second part obeys the rule that
knows of the first one. -/
lemma obeys_append_iff {rule : List (Exchange Q A) → (q : Q) → A q} {t₁ t₂ : List (Exchange Q A)} :
    Obeys rule (t₁ ++ t₂) ↔ Obeys rule t₁ ∧ Obeys (fun before => rule (t₁ ++ before)) t₂ := by
  constructor
  · intro h
    constructor
    · rintro before x after rfl
      exact h before x (after ++ t₂) (by simp)
    · rintro before x after rfl
      exact h (t₁ ++ before) x after (by simp)
  · rintro ⟨h₁, h₂⟩ before x after h
    rcases List.append_eq_append_iff.1 h with ⟨middle, rfl, hsecond⟩ | ⟨middle, rfl, hfirst⟩
    · exact h₂ middle x after hsecond
    · cases middle with
      | nil =>
        have hx := h₂ [] x after hfirst.symm
        simp only [List.append_nil] at hx
        exact hx
      | cons y middle =>
        obtain ⟨rfl, -⟩ := List.cons.inj hfirst
        exact h₁ before x middle rfl

/-- **Whoever answers, there is exactly one run.** Programs always come to an end.

**Proof sketch.** Induction on the program. The answer to the first question is given by the rule;
the rest of the run obeys the rule that knows of this first exchange as well. -/
lemma existsUnique_ends (p : Dialogue Q A α) (rule : List (Exchange Q A) → (q : Q) → A q) :
    ∃! run : List (Exchange Q A) × α, Ends p run.1 run.2 ∧ Obeys rule run.1 := by
  induction p generalizing rule with
  | done a =>
    refine ⟨([], a), ⟨.done a, fun before x after h => by simp at h⟩, ?_⟩
    rintro ⟨t, b⟩ ⟨h, -⟩
    cases h
    rfl
  | ask q next ih =>
    obtain ⟨⟨rest, b⟩, ⟨hends, hobeys⟩, huniq⟩ :=
      ih (rule [] q) fun before => rule (⟨q, rule [] q⟩ :: before)
    refine ⟨(⟨q, rule [] q⟩ :: rest, b), ⟨.ask hends, ?_⟩, ?_⟩
    · intro before x after h
      cases before with
      | nil =>
        obtain ⟨rfl, -⟩ := List.cons.inj h
        rfl
      | cons y before =>
        obtain ⟨rfl, htail⟩ := List.cons.inj h
        exact hobeys before x after htail
    · rintro ⟨t, c⟩ ⟨h, hrule⟩
      cases h with
      | @ask _ _ a rest' _ h =>
        obtain rfl : a = rule [] q := hrule [] ⟨q, a⟩ rest' rfl
        have hrest : Obeys (fun before => rule (⟨q, rule [] q⟩ :: before)) rest' :=
          fun before x after h => hrule (_ :: before) x after (by rw [h]; rfl)
        obtain ⟨rfl, rfl⟩ := Prod.mk.inj (huniq (rest', c) ⟨h, hrest⟩)
        rfl

/-- Whoever answers, a program that is run with these answers has a run with the same result. -/
lemma exists_ends_run (p : Dialogue Q A α) (answer : (q : Q) → A q) :
    ∃ t, Ends p t (Id.run (p.run (M := Id) answer)) := by
  induction p with
  | done a => exact ⟨[], .done a⟩
  | ask q next ih =>
    obtain ⟨t, h⟩ := ih (answer q)
    exact ⟨⟨q, answer q⟩ :: t, .ask h⟩

/-- A program that gives a value with these answers has a run with this value. -/
lemma exists_ends_of_toOption {ε : Type} {p : ExceptT ε (Dialogue Q A) α} {a : α}
    (answer : (q : Q) → A q)
    (h : (Id.run (p.run.run (M := Id) answer)).toOption = some a) : ∃ t, Ends p.run t (.ok a) := by
  obtain ⟨t, hrun⟩ := exists_ends_run p.run answer
  rcases hresult : Id.run (p.run.run (M := Id) answer) with e | value
  · rw [hresult] at h
    exact nomatch h
  · rw [hresult] at h hrun
    exact ⟨t, Option.some.inj h ▸ hrun⟩

/-- **A run that is broken off is the first part of a whole run**, if every question can be
answered. -/
lemma exists_ends_of_reaches [hA : ∀ q, Nonempty (A q)] {p left : Dialogue Q A α}
    {t : List (Exchange Q A)} (h : Reaches p t left) :
    ∃ rest b, Ends left rest b ∧ Ends p (t ++ rest) b := by
  obtain ⟨⟨rest, b⟩, ⟨hends, -⟩, -⟩ := existsUnique_ends left fun _ q => Classical.choice (hA q)
  exact ⟨rest, b, hends, h.ends hends⟩

end Dialogue

end ClusterDeploy
