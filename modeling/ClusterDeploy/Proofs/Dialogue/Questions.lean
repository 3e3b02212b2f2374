import ClusterDeploy.Proofs.Dialogue.Runs

set_option relaxedAutoImplicit false
set_option autoImplicit false

/-!
# What a program asks

All questions of a program are of some kind, and so is its result, as long as the answers are of
some kind. This is said of the program as a tree, part by part, and then holds of all its runs,
those that are broken off included.

## Main definitions

* `Dialogue.Asks` — the kind of the questions of a program and of its result.

## Main results

* `Dialogue.Asks.bind`, `Dialogue.Asks.run_bind` — programs in sequence.
* `Dialogue.Reaches.forall_asked` — the questions of a run are of the kind of those of the program.
-/

namespace ClusterDeploy

namespace Dialogue

variable {Q : Type} {A : Q → Type} {α β : Type} {asked weaker : Q → Prop}
  {answered : (q : Q) → A q → Prop} {given : α → Prop} {given' : β → Prop} {p : Dialogue Q A α}
  {t : List (Exchange Q A)}

/-- The kind of the questions of a program and of its result, as long as the answers are of some
kind. -/
def Asks (asked : Q → Prop) (answered : (q : Q) → A q → Prop) (given : α → Prop) :
    Dialogue Q A α → Prop
  | done a => given a
  | ask q next => asked q ∧ ∀ a, answered q a → Asks asked answered given (next a)

namespace Asks

/-- A program that asks questions of one kind asks questions of every wider kind. -/
lemma mono (h : Asks asked answered given p) (hasked : ∀ q, asked q → weaker q) :
    Asks weaker answered given p := by
  induction p with
  | done a => exact h
  | ask q next ih => exact ⟨hasked q h.1, fun a ha => ih a (h.2 a ha)⟩

/-- A program that gives results of one kind gives results of every wider kind. -/
lemma mono_result {weaker : α → Prop} (h : Asks asked answered given p)
    (hgiven : ∀ a, given a → weaker a) : Asks asked answered weaker p := by
  induction p with
  | done a => exact hgiven a h
  | ask q next ih => exact ⟨h.1, fun a ha => ih a (h.2 a ha)⟩

/-- Programs in sequence: the second one may rely on the result of the first one. -/
lemma bind {f : α → Dialogue Q A β} (hp : Asks asked answered given p)
    (hf : ∀ a, given a → Asks asked answered given' (f a)) :
    Asks asked answered given' (p >>= f) := by
  induction p with
  | done a => exact hf a hp
  | ask q next ih => exact ⟨hp.1, fun a ha => ih a (hp.2 a ha)⟩

/-- Programs that may fail, in sequence. Nothing is said of the failures. -/
lemma run_bind {ε : Type} {p : ExceptT ε (Dialogue Q A) α} {f : α → ExceptT ε (Dialogue Q A) β}
    (hp : Asks asked answered (fun r => ∀ a, r = .ok a → given a) p.run)
    (hf : ∀ a, given a → Asks asked answered (fun r => ∀ b, r = .ok b → given' b) (f a).run) :
    Asks asked answered (fun r => ∀ b, r = .ok b → given' b) (p >>= f).run := by
  rw [ExceptT.run_bind]
  refine hp.bind fun r hr => ?_
  cases r with
  | ok a => exact hf a (hr a rfl)
  | error e => exact fun _ h => nomatch h

/-- Programs in sequence, of which the second one relies on nothing. -/
lemma run_bind_any {ε : Type} {p : ExceptT ε (Dialogue Q A) α} {f : α → ExceptT ε (Dialogue Q A) β}
    (hp : Asks asked answered (fun r => ∀ a, r = .ok a → True) p.run)
    (hf : ∀ a, Asks asked answered (fun r => ∀ b, r = .ok b → given' b) (f a).run) :
    Asks asked answered (fun r => ∀ b, r = .ok b → given' b) (p >>= f).run :=
  hp.run_bind fun a _ => hf a

end Asks

/-- A program is at nothing or behind its first question. -/
lemma reaches_ask_iff {q : Q} {next : A q → Dialogue Q A α} {left : Dialogue Q A α} :
    Reaches (ask q next) t left ↔
      (t = [] ∧ left = ask q next) ∨ ∃ a rest, t = ⟨q, a⟩ :: rest ∧ Reaches (next a) rest left := by
  constructor
  · intro h
    cases h with
    | here => exact .inl ⟨rfl, rfl⟩
    | ask h => exact .inr ⟨_, _, rfl, h⟩
  · rintro (⟨rfl, rfl⟩ | ⟨a, rest, rfl, h⟩)
    · exact .here _
    · exact .ask h

/-- A run that came to its end was not broken off. -/
lemma Ends.reaches {b : α} (h : Ends p t b) : Reaches p t (.done b) := by
  induction h with
  | done a => exact .here _
  | ask _ ih => exact .ask ih

/-- **The questions of a run are of the kind of those of the program**, whether or not it is broken
off. -/
lemma Reaches.forall_asked {left : Dialogue Q A α} (h : Reaches p t left)
    (hp : Asks asked answered given p) (hanswers : ∀ x ∈ t, answered x.question x.answer) :
    ∀ x ∈ t, asked x.question := by
  induction h with
  | here p => exact fun _ hx => absurd hx List.not_mem_nil
  | ask _ ih =>
    obtain ⟨hfirst, hrest⟩ := List.forall_mem_cons.1 hanswers
    exact List.forall_mem_cons.2 ⟨hp.1, ih (hp.2 _ hfirst) hrest⟩

end Dialogue

end ClusterDeploy
