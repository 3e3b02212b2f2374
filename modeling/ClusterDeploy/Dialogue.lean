/-!
# Dialogues

A program that needs the world around it is written as a dialogue: a tree of questions, each with
one way on for every answer that it may get. Nothing is said about who answers. The same program can
be run against a simulated world, and statements about all its runs are statements about all its
branches.

## Main definitions

* `Dialogue` — a program with a result that asks questions.
* `Dialogue.run` — runs a program, with somebody who answers.
* `Dialogue.Ends` — the questions and answers on the way to a result.

## Main results

* `Dialogue.bind_assoc`, `Dialogue.bind_done` — the laws of sequencing.
* `Dialogue.ends_bind` — a run of two programs in sequence is a run of the first, then one of the
  second.
-/

namespace ClusterDeploy

/-- A program with a result of type `α` that asks questions from `Q`; the answers to `q` are those
of type `A q`. -/
inductive Dialogue (Q : Type) (A : Q → Type) (α : Type) where
  /-- The program is over. -/
  | done (result : α)
  /-- The program asks a question and goes on with the answer. -/
  | ask (question : Q) (next : A question → Dialogue Q A α)

namespace Dialogue

variable {Q : Type} {A : Q → Type} {α β γ : Type}

/-- Runs a program and goes on with its result. -/
def bind : Dialogue Q A α → (α → Dialogue Q A β) → Dialogue Q A β
  | done a, f => f a
  | ask q next, f => ask q fun answer => (next answer).bind f

/-- Programs are put together one after the other. -/
instance : Monad (Dialogue Q A) where
  pure := done
  bind := bind

/-- The program that asks one question and ends with the answer. -/
def question (q : Q) : Dialogue Q A (A q) :=
  ask q done

/-- Runs a program in which somebody else answers the questions. -/
def run {M : Type → Type} [Monad M] (answer : (q : Q) → M (A q)) : Dialogue Q A α → M α
  | done a => pure a
  | ask q next => do
    let a ← answer q
    (next a).run answer

/-- A question together with its answer. -/
structure Exchange (Q : Type) (A : Q → Type) where
  question : Q
  answer : A question

/-- Holds if a program ends with a result after exactly these questions and answers. -/
inductive Ends : Dialogue Q A α → List (Exchange Q A) → α → Prop where
  | done (a : α) : Ends (done a) [] a
  | ask {q : Q} {next : A q → Dialogue Q A α} {a : A q} {rest : List (Exchange Q A)} {result : α} :
    Ends (next a) rest result → Ends (ask q next) (⟨q, a⟩ :: rest) result

/-! ## Laws -/

/-- A program with nothing after it is itself. -/
@[simp]
theorem bind_done (p : Dialogue Q A α) : p.bind done = p := by
  induction p with
  | done => rfl
  | ask q next ih => simp only [bind, ih]

/-- It does not matter how three programs are grouped. -/
theorem bind_assoc (p : Dialogue Q A α) (f : α → Dialogue Q A β) (g : β → Dialogue Q A γ) :
    (p.bind f).bind g = p.bind fun a => (f a).bind g := by
  induction p with
  | done => rfl
  | ask q next ih => simp only [bind, ih]

/-- Programs in sequence follow the laws of a monad. -/
instance : LawfulMonad (Dialogue Q A) :=
  LawfulMonad.mk' (Dialogue Q A)
    (fun p => bind_done p)
    (fun _ _ => rfl)
    (fun p f g => bind_assoc p f g)

/-- A run of two programs in sequence is a run of the first, then one of the second. -/
theorem ends_bind {p : Dialogue Q A α} {f : α → Dialogue Q A β} {t : List (Exchange Q A)} {b : β} :
    Ends (p.bind f) t b ↔ ∃ t₁ t₂ a, t = t₁ ++ t₂ ∧ Ends p t₁ a ∧ Ends (f a) t₂ b := by
  induction p generalizing t with
  | done a =>
    constructor
    · intro h
      exact ⟨[], t, a, rfl, .done a, h⟩
    · rintro ⟨t₁, t₂, a', rfl, h₁, h₂⟩
      cases h₁
      exact h₂
  | ask q next ih =>
    constructor
    · intro h
      cases h with
      | ask h =>
        obtain ⟨t₁, t₂, a, rfl, h₁, h₂⟩ := (ih _).1 h
        exact ⟨_ :: t₁, t₂, a, rfl, .ask h₁, h₂⟩
    · rintro ⟨t₁, t₂, a, rfl, h₁, h₂⟩
      cases h₁ with
      | ask h₁ => exact .ask ((ih _).2 ⟨_, _, _, rfl, h₁, h₂⟩)

end Dialogue

end ClusterDeploy
