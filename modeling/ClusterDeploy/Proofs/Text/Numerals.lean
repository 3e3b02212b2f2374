import ClusterDeploy.Text.FileName
import ClusterDeploy.Text.Numeral
import Mathlib.Data.List.Induction
import Mathlib.Data.List.TakeWhile
import Mathlib.Tactic.Lemma

set_option relaxedAutoImplicit false
set_option autoImplicit false

/-!
# What is read as a number

The digits of a number denote that number, also with zeros in front of them, and none of them is a
character that stands between numbers. Nothing but digits is read as a number.

## Main definitions

* `Text.Numeral`, `Text.UnsignedNumeral` — the texts that denote a number.

## Main results

* `Text.numeral_decimal`, `Text.numeral_padded` — what is printed denotes the number.
* `Text.readNatural_eq_some_iff`, `Text.readUnsigned_eq_some_iff` — what can be read at all.
* `Text.splitOnce_append` — the text before and after a separator.
* `Text.valueOf_lt_iff` — runs of equally many digits are in the order of their numbers.
-/

namespace ClusterDeploy.Text

variable {width n bound : Nat}

/-! ## Digits -/

/-- Numbers are written in digits. -/
lemma isDigit_of_mem_decimal {c : Char} (hc : c ∈ decimal n) : c.isDigit = true :=
  Nat.isDigit_of_mem_toDigits (by decide) (by decide) hc

/-- A number is written in at least one digit. -/
lemma decimal_ne_nil : decimal n ≠ [] :=
  Nat.toDigits_ne_nil

/-- The digits of a number denote it. -/
@[simp]
lemma valueOf_decimal : valueOf (decimal n) = n :=
  Nat.ofDigitChars_ten_toDigits

/-! ## Grammar -/

/-- Runs of digits and the numbers that they denote: a digit denotes its distance from zero, and a
digit behind a run denotes that much more than ten times what the run does. -/
inductive Numeral : List Char → Nat → Prop where
  | digit {c : Char} (hc : c.isDigit = true) : Numeral [c] (c.toNat - '0'.toNat)
  | append {s : List Char} {n : Nat} {c : Char} (hs : Numeral s n) (hc : c.isDigit = true) :
      Numeral (s ++ [c]) (10 * n + (c.toNat - '0'.toNat))

/-- Runs of digits behind one plus sign or none. -/
inductive UnsignedNumeral : List Char → Nat → Prop where
  | plain {s : List Char} {n : Nat} (h : Numeral s n) : UnsignedNumeral s n
  | plus {s : List Char} {n : Nat} (h : Numeral s n) : UnsignedNumeral ('+' :: s) n

/-- One more digit counts after ten times what stands before it. -/
lemma valueOf_append_singleton (s : List Char) (c : Char) :
    valueOf (s ++ [c]) = 10 * valueOf s + (c.toNat - '0'.toNat) := by
  rw [valueOf, List.foldl_append]
  rfl

/-- A numeral has at least one digit. -/
lemma Numeral.ne_nil {s : List Char} (h : Numeral s n) : s ≠ [] := by
  cases h with
  | digit => exact List.cons_ne_nil _ _
  | append => exact List.append_ne_nil_of_right_ne_nil _ (List.cons_ne_nil _ _)

/-- A numeral consists of digits. -/
lemma Numeral.isDigit {s : List Char} (h : Numeral s n) : ∀ c ∈ s, c.isDigit = true := by
  induction h with
  | digit hc => exact List.forall_mem_singleton.2 hc
  | append _ hc ih => exact List.forall_mem_append.2 ⟨ih, List.forall_mem_singleton.2 hc⟩

/-- The value of a numeral is the number that it denotes. -/
lemma Numeral.valueOf_eq {s : List Char} (h : Numeral s n) : valueOf s = n := by
  induction h with
  | digit => exact valueOf_append_singleton [] _ |>.trans (Nat.zero_add _)
  | append _ _ ih => rw [valueOf_append_singleton, ih]

/-- A run of one digit or more denotes a number. -/
lemma numeral_valueOf {s : List Char} (hne : s ≠ []) (hs : ∀ c ∈ s, c.isDigit = true) :
    Numeral s (valueOf s) := by
  induction s using List.reverseRecOn with
  | nil => exact absurd rfl hne
  | append_singleton s c ih =>
    obtain ⟨hs, hc⟩ := List.forall_mem_append.1 hs
    rw [List.forall_mem_singleton] at hc
    rw [valueOf_append_singleton]
    by_cases hempty : s = []
    · subst hempty
      exact (Nat.zero_add (c.toNat - '0'.toNat)).symm ▸ Numeral.digit hc
    · exact .append (ih hempty hs) hc

/-- A numeral with zeros in front of it denotes the same number. -/
lemma Numeral.zeros {s : List Char} (h : Numeral s n) (k : Nat) :
    Numeral (List.replicate k '0' ++ s) n := by
  have hdigits : ∀ c ∈ List.replicate k '0' ++ s, c.isDigit = true :=
    List.forall_mem_append.2 ⟨fun c hc => List.eq_of_mem_replicate hc ▸ rfl, h.isDigit⟩
  have hvalue : valueOf (List.replicate k '0' ++ s) = n := by
    rw [← h.valueOf_eq]
    change Nat.ofDigitChars 10 (List.replicate k '0' ++ s) 0 = Nat.ofDigitChars 10 s 0
    rw [Nat.ofDigitChars_append, Nat.ofDigitChars_replicate_zero, Nat.mul_zero]
  exact hvalue ▸ numeral_valueOf (List.append_ne_nil_of_right_ne_nil _ h.ne_nil) hdigits

/-- What is printed for a number denotes it, also with zeros up to a width. -/
lemma numeral_decimal (n : Nat) : Numeral (decimal n) n := by
  have h : Numeral (decimal n) (valueOf (decimal n)) :=
    numeral_valueOf decimal_ne_nil fun _ => isDigit_of_mem_decimal
  rwa [valueOf_decimal] at h

/-- Zeros at the front do not change the number that is denoted. -/
lemma numeral_padded (width n : Nat) : Numeral (padded width n) n :=
  (numeral_decimal n).zeros _

/-- Numbers with zeros at the front are written in digits. -/
lemma isDigit_of_mem_padded {c : Char} (hc : c ∈ padded width n) : c.isDigit = true :=
  (numeral_padded width n).isDigit c hc

/-- A number with zeros at the front is written in at least one digit. -/
lemma padded_ne_nil : padded width n ≠ [] :=
  (numeral_padded width n).ne_nil

/-- Zeros in front of a number do not change it. -/
@[simp]
lemma valueOf_padded : valueOf (padded width n) = n :=
  (numeral_padded width n).valueOf_eq

/-! ## Reading -/

/-- **Numerals are what is read as a number**, and as the number that they denote. -/
lemma readNatural_eq_some_iff {s : List Char} : readNatural s = some n ↔ Numeral s n := by
  have hdigits : (!s.isEmpty && s.all Char.isDigit) = true ↔
      s ≠ [] ∧ ∀ c ∈ s, c.isDigit = true := by
    rw [Bool.and_eq_true, Bool.not_eq_true', List.isEmpty_eq_false_iff, List.all_eq_true]
  unfold readNatural
  constructor
  · intro h
    split at h
    · next hs =>
      obtain ⟨hne, hs⟩ := hdigits.1 hs
      exact Option.some.inj h ▸ numeral_valueOf hne hs
    · exact nomatch h
  · intro h
    rw [if_pos (hdigits.2 ⟨h.ne_nil, h.isDigit⟩), h.valueOf_eq]

/-- A number below a bound is read from its numerals, and from nothing else. -/
lemma filter_readNatural_eq_some_iff {s : List Char} :
    (readNatural s).filter (· < bound) = some n ↔ Numeral s n ∧ n < bound := by
  rw [Option.filter_eq_some_iff, readNatural_eq_some_iff, decide_eq_true_eq]

/-- **What is read as a number with a plus sign or none** is a numeral below the bound. -/
lemma readUnsigned_eq_some_iff {s : List Char} :
    readUnsigned bound s = some n ↔ UnsignedNumeral s n ∧ n < bound := by
  unfold readUnsigned
  split
  · next rest =>
    refine filter_readNatural_eq_some_iff.trans (and_congr_left' ⟨.plus, fun h => ?_⟩)
    cases h with
    | plus h => exact h
    | plain h => exact absurd (h.isDigit '+' List.mem_cons_self) (by decide)
  · next hplus =>
    refine filter_readNatural_eq_some_iff.trans (and_congr_left' ⟨.plain, fun h => ?_⟩)
    cases h with
    | plus h => exact absurd rfl (hplus _)
    | plain h => exact h

/-! ## Separators -/

/-- A text is split at the first separator. -/
lemma splitOnce_append {c : Char} {before after : List Char} (hbefore : c ∉ before) :
    splitOnce c (before ++ c :: after) = some (before, after) := by
  have hkeep : ∀ x ∈ before, (x != c) = true := by
    intro x hx
    exact bne_iff_ne.2 fun heq => hbefore (heq ▸ hx)
  unfold splitOnce
  rw [List.dropWhile_append_of_pos hkeep, List.takeWhile_append_of_pos hkeep]
  simp

/-- A text that is not split has no separator. -/
lemma splitOnce_eq_none_iff {c : Char} {s : List Char} : splitOnce c s = none ↔ c ∉ s := by
  constructor
  · intro h hmem
    obtain ⟨before, after, rfl, hbefore⟩ := List.eq_append_cons_of_mem hmem
    exact nomatch (splitOnce_append hbefore).symm.trans h
  · intro h
    have hall : ∀ x ∈ s, (x != c) = true := fun x hx => bne_iff_ne.2 fun heq => h (heq ▸ hx)
    rw [splitOnce, List.dropWhile_eq_nil_iff.2 hall]

/-- A text is split at the first of the characters at which it can be split. -/
lemma splitOnce_eq_some_iff {c : Char} {s before after : List Char} :
    splitOnce c s = some (before, after) ↔ s = before ++ c :: after ∧ c ∉ before := by
  constructor
  · intro h
    by_cases hmem : c ∈ s
    · obtain ⟨before', after', rfl, hbefore⟩ := List.eq_append_cons_of_mem hmem
      rw [splitOnce_append hbefore] at h
      obtain ⟨rfl, rfl⟩ := Prod.mk.inj (Option.some.inj h)
      exact ⟨rfl, hbefore⟩
    · exact nomatch h.symm.trans (splitOnce_eq_none_iff.2 hmem)
  · rintro ⟨rfl, hbefore⟩
    exact splitOnce_append hbefore

/-! ## Order -/

/-- A digit behind a number decides where the numbers do not. -/
lemma append_digit_lt_iff {m n : Nat} {c d : Char} {rest : Prop} (hc : c.isDigit = true)
    (hd : d.isDigit = true) :
    10 * m + (c.toNat - '0'.toNat) < 10 * n + (d.toNat - '0'.toNat) ∨
        10 * m + (c.toNat - '0'.toNat) = 10 * n + (d.toNat - '0'.toNat) ∧ rest ↔
      m < n ∨ m = n ∧ (c < d ∨ c = d ∧ rest) := by
  have hdigit : ∀ {c : Char}, c.isDigit = true → 48 ≤ c.toNat ∧ c.toNat ≤ 57 := by
    intro c hc
    rw [Char.isDigit, Bool.and_eq_true, decide_eq_true_eq, decide_eq_true_eq] at hc
    exact hc
  obtain ⟨hc, hc'⟩ := hdigit hc
  obtain ⟨hd, hd'⟩ := hdigit hd
  rw [show '0'.toNat = 48 from rfl, ← Char.toNat_inj, show c < d ↔ c.toNat < d.toNat from Iff.rfl]
  have hlt : 10 * m + (c.toNat - 48) < 10 * n + (d.toNat - 48) ↔
      m < n ∨ m = n ∧ c.toNat < d.toNat := by omega
  have heq : 10 * m + (c.toNat - 48) = 10 * n + (d.toNat - 48) ↔
      m = n ∧ c.toNat = d.toNat := by omega
  rw [hlt, heq, or_assoc, and_assoc, ← and_or_left]

/-- **Runs of equally many digits are in the order of their numbers.**

**Proof sketch.** Induction on the digits, for runs behind any two numbers: digits decide where
these numbers are the same. -/
lemma valueOf_lt_iff {x y : List Char} (hlength : x.length = y.length)
    (hx : ∀ c ∈ x, c.isDigit = true) (hy : ∀ c ∈ y, c.isDigit = true) :
    valueOf x < valueOf y ↔ x < y := by
  suffices hbehind : ∀ m n, x.foldl (fun n c => 10 * n + (c.toNat - '0'.toNat)) m <
      y.foldl (fun n c => 10 * n + (c.toNat - '0'.toNat)) n ↔ m < n ∨ m = n ∧ x < y by
    refine (hbehind 0 0).trans ?_
    simp only [Nat.lt_irrefl, false_or, true_and]
  induction x generalizing y with
  | nil =>
    obtain rfl := List.length_eq_zero_iff.1 hlength.symm
    simp
  | cons c x ih =>
    cases y with
    | nil => exact nomatch hlength
    | cons d y =>
      intro m n
      obtain ⟨hc, hx⟩ := List.forall_mem_cons.1 hx
      obtain ⟨hd, hy⟩ := List.forall_mem_cons.1 hy
      rw [List.foldl_cons, List.foldl_cons, ih (Nat.succ.inj hlength) hx hy,
        append_digit_lt_iff hc hd, List.cons_lt_cons_iff]

/-- Texts whose beginnings have one length are in the order of these beginnings, and where they are
the same, in the order of what is behind them. -/
lemma append_lt_append_iff {x y s t : List Char} (hlength : x.length = y.length) :
    x ++ s < y ++ t ↔ x < y ∨ x = y ∧ s < t := by
  induction x generalizing y with
  | nil =>
    obtain rfl := List.length_eq_zero_iff.1 hlength.symm
    simp
  | cons c x ih =>
    cases y with
    | nil => exact nomatch hlength
    | cons d y =>
      rw [List.cons_append, List.cons_append, List.cons_lt_cons_iff, ih (Nat.succ.inj hlength),
        List.cons_lt_cons_iff, List.cons_eq_cons, and_or_left, or_assoc, and_assoc]

end ClusterDeploy.Text
