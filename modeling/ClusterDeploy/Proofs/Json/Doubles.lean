import ClusterDeploy.Decimal.Shortest
import ClusterDeploy.Proofs.Json.Numbers

set_option relaxedAutoImplicit false
set_option autoImplicit false

/-!
# The text of a double is a number in a document

The shortest decimal of a double is written in one of three ways: as a fraction below one, with
zeros behind its digits, or with an exponent. All of them are numbers as a document may have them.

## Main definitions

* `Binary64.numeral` — a double as it is read back.
* `Json.Number.numeral` — any number as it is read back.

## Main results

* `Binary64.shortest_ne_zero` — the digits of a double that is not zero are not zero.
* `Json.readsAs_number` — the text of a number is read as a number.

## Implementation notes

The digits and the exponent of zero are zero, so it does not matter that the interval of a number
could be empty in principle. What is read as a number need not be read as the same double.
-/

namespace ClusterDeploy

open Json (Numeral exponentText fractionText)

namespace Binary64

variable {f : Binary64} {i : Interval} {e p : Int} {n : Nat} {negative : Bool} {digits : List Char}

/-! ## Shortest decimals -/

/-- A hit lies in the interval. -/
lemma Interval.holds_of_nearest (h : i.nearest e = some n) : i.holds n e = true := by
  unfold nearest at h
  dsimp only at h
  generalize (if 0 ≤ e then i.value else i.value * Nat.pow 10 (-e).toNat) = num at h
  generalize (if 0 ≤ e then i.den * Nat.pow 10 e.toNat else i.den) = den at h
  split at h
  · next hlower hupper =>
    split at h
    · exact Option.some.inj h ▸ hlower
    · exact Option.some.inj h ▸ hupper
  · next hlower _ => exact Option.some.inj h ▸ hlower
  · next _ hupper => exact Option.some.inj h ▸ hupper
  · exact nomatch h

/-- Zero does not lie in the interval of a positive number. -/
lemma Interval.holds_zero (hlow : 0 < i.low) : i.holds 0 e = false := by
  have hunit : 0 < if 0 ≤ e then 1 else Nat.pow 10 (-e).toNat := by
    split
    · exact Nat.one_pos
    · exact Nat.pow_pos (by decide)
  have hpoint : ¬ i.low * (if 0 ≤ e then 1 else Nat.pow 10 (-e).toNat) ≤ 0 :=
    Nat.not_le.2 (Nat.mul_pos hlow hunit)
  unfold Interval.holds
  simp only [Nat.zero_mul, ite_self]
  split
  · exact Bool.and_eq_false_iff.2 (.inl (decide_eq_false hpoint))
  · exact Bool.and_eq_false_iff.2 (.inl (decide_eq_false (Nat.not_lt_zero _)))

/-- The numbers that are rounded to a number other than zero are positive. -/
lemma interval_low_pos (hf : f.mantissa ≠ 0) : 0 < f.interval.low := by
  unfold interval
  refine Nat.mul_pos ?_ ?_
  · split <;> omega
  · split
    · exact Nat.pow_pos (by decide)
    · exact Nat.one_pos

/-- A number that is not zero is not zero without the zeros at its end. -/
lemma dropZeros_ne_zero (fuel : Nat) (hn : n ≠ 0) : (dropZeros fuel n e).1 ≠ 0 := by
  induction fuel generalizing n e with
  | zero => exact hn
  | succ fuel ih =>
    rw [dropZeros]
    split
    · next hzero => exact ih (by omega)
    · exact hn

/-- **The digits of a number that is not zero** are not zero either, unless there are none. -/
lemma shortest_ne_zero (hf : f.mantissa ≠ 0) : f.shortest.1 = 0 → f.shortest.2 = 0 := by
  unfold shortest
  intro hzero
  cases hhit : (List.range 17).findSome? fun (n : Nat) =>
      (f.interval.nearest (f.interval.leading - (n : Int))).map fun digits =>
        dropZeros 20 digits (f.interval.leading - (n : Int)) with
  | none => simp only [hhit, Option.getD_none]
  | some hit =>
    simp only [hhit, Option.getD_some] at hzero
    obtain ⟨k, -, hk⟩ := List.exists_of_findSome?_eq_some hhit
    obtain ⟨digits, hdigits, rfl⟩ := Option.map_eq_some_iff.1 hk
    refine absurd hzero (dropZeros_ne_zero 20 ?_)
    rintro rfl
    exact Bool.false_ne_true
      ((Interval.holds_zero (interval_low_pos hf)).symm.trans (Interval.holds_of_nearest hdigits))

/-! ## Their text -/

/-- A decimal as it is read back, whose first digit stands at `10 ^ p`. -/
def layoutNumeral (negative : Bool) (digits : List Char) (p : Int) : Numeral :=
  if minPositional ≤ p ∧ p ≤ maxPositional then
    if p < 0 then ⟨negative, ['0'], List.replicate ((-p).toNat - 1) '0' ++ digits, none⟩
    else
      let whole := p.toNat + 1
      let fraction := digits.drop whole
      ⟨negative, digits.take whole ++ List.replicate (whole - digits.length) '0',
        if fraction.isEmpty then ['0'] else fraction, none⟩
  else ⟨negative, digits.take 1, digits.drop 1, some (decide (p < 0), Text.decimal p.natAbs)⟩

/-- A double as it is read back. -/
def numeral (f : Binary64) : Numeral :=
  if f.mantissa = 0 then ⟨f.negative, ['0'], ['0'], none⟩
  else
    let digits := Text.decimal f.shortest.1
    layoutNumeral f.negative digits (f.shortest.2 + (digits.length : Int) - 1)

/-- The text of a number with its sign. -/
lemma text_layoutNumeral (hdigits : digits ≠ []) :
    (layoutNumeral negative digits p).text =
      if negative then '-' :: layout digits p else layout digits p := by
  have hbody : (layoutNumeral negative digits p).whole ++
      (fractionText (layoutNumeral negative digits p).fraction ++
        exponentText (layoutNumeral negative digits p).exponent) = layout digits p := by
    unfold layoutNumeral layout
    split
    · split
      · simp [fractionText, exponentText, hdigits]
      · dsimp only
        by_cases hfraction : digits.drop (p.toNat + 1) = []
        · simp [fractionText, exponentText, hfraction]
        · simp [fractionText, exponentText, hfraction]
    · dsimp only
      by_cases hsign : p < 0 <;> by_cases hfraction : digits.drop 1 = [] <;>
        simp [fractionText, exponentText, hsign, hfraction]
  have hnegative : (layoutNumeral negative digits p).negative = negative := by
    unfold layoutNumeral
    split_ifs <;> rfl
  rw [Numeral.text, hbody, hnegative]
  cases negative <;> rfl

/-- The text of a double is that of the number as which it is read back. -/
lemma text_numeral : f.numeral.text = f.display := by
  unfold numeral display
  by_cases hzero : f.mantissa = 0
  · rw [if_pos hzero, if_pos hzero]
    cases f.negative <;> rfl
  · rw [if_neg hzero, if_neg hzero]
    exact text_layoutNumeral Text.decimal_ne_nil

/-- Zeros are digits. -/
lemma isDigit_zeros (k : Nat) : ∀ c ∈ List.replicate k '0', c.isDigit = true := by
  intro c hc
  rw [(List.mem_replicate.1 hc).2]
  rfl

/-- The text of a decimal is that of a number if its digits do not begin with zero. -/
lemma isWritten_layoutNumeral (hne : digits ≠ []) (hdigits : ∀ c ∈ digits, c.isDigit = true)
    (hleading : ∀ {ds : List Char}, digits = '0' :: ds → ds = [] ∧ p = 0) :
    (layoutNumeral negative digits p).IsWritten := by
  obtain ⟨d, ds, rfl⟩ := List.exists_cons_of_ne_nil hne
  unfold layoutNumeral
  split
  · split
    · exact ⟨isDigit_zeros 1, List.cons_ne_nil _ _, fun hzero => (List.cons.inj hzero).2.symm,
        List.forall_mem_append.2 ⟨isDigit_zeros _, hdigits⟩, nofun⟩
    · refine ⟨List.forall_mem_append.2
        ⟨fun c hc => hdigits c (List.mem_of_mem_take hc), isDigit_zeros _⟩,
        List.cons_ne_nil _ _, fun {rest} hzero => ?_, ?_, nofun⟩
      · obtain ⟨rfl, hrest⟩ := List.cons.inj hzero
        obtain ⟨rfl, rfl⟩ := hleading rfl
        exact hrest.symm
      · dsimp only
        split
        · exact isDigit_zeros 1
        · exact fun c hc => hdigits c (List.mem_of_mem_drop hc)
  · refine ⟨fun c hc => hdigits c (List.mem_of_mem_take hc), List.cons_ne_nil _ _,
      fun hzero => (List.cons.inj hzero).2.symm,
      fun c hc => hdigits c (List.mem_of_mem_drop hc), ?_⟩
    rintro _ ⟨⟩
    exact ⟨Text.decimal_ne_nil, fun c => Text.isDigit_of_mem_decimal⟩

/-- The numeral of a number has the form in which numbers are written. -/
lemma isWritten_numeral : f.numeral.IsWritten := by
  unfold numeral
  split
  · exact ⟨isDigit_zeros 1, List.cons_ne_nil _ _, fun hzero => (List.cons.inj hzero).2.symm,
      isDigit_zeros 1, nofun⟩
  · next hf =>
    refine isWritten_layoutNumeral Text.decimal_ne_nil (fun c => Text.isDigit_of_mem_decimal) ?_
    intro ds hzero
    obtain rfl := Json.eq_nil_of_decimal_eq hzero
    have hnone : f.shortest.1 = 0 := by
      rw [← Text.valueOf_decimal (n := f.shortest.1), hzero]
      rfl
    refine ⟨rfl, ?_⟩
    rw [shortest_ne_zero hf hnone, hzero]
    rfl

end Binary64

namespace Json

/-- A number as it is read back. -/
def Number.numeral : Number → Numeral
  | .natural n => ⟨false, Text.decimal n, [], none⟩
  | .negative n => ⟨true, Text.decimal n, [], none⟩
  | .double f => f.numeral

/-- **The text of a number is read as a number.** -/
lemma readsAs_number (n : Number) : ReadsAs n.text (.number n.numeral) := by
  cases n with
  | natural n => exact readsAs_decimal n
  | negative n =>
    have hread := readsAs_numeral (isWritten_decimal true n)
    rwa [show (⟨true, Text.decimal n, [], none⟩ : Numeral).text = '-' :: Text.decimal n from
      congrArg _ (List.append_nil _)] at hread
  | double f =>
    have hread := readsAs_numeral (Binary64.isWritten_numeral (f := f))
    rwa [Binary64.text_numeral] at hread

end Json

end ClusterDeploy
