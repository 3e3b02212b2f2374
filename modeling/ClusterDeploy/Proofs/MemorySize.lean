import ClusterDeploy.MemorySize
import ClusterDeploy.Proofs.Quantity
import Mathlib.Algebra.GroupWithZero.Nat

set_option relaxedAutoImplicit false
set_option autoImplicit false

/-!
# What is read as a memory size

A memory size is a whole number of one binary unit. Every size is read back from the text that is
printed for it, whether this counts bytes or mebibytes.

## Main definitions

* `MemorySize.BinaryUnit` — the units of memory, with their names and their bytes.

## Main results

* `MemorySize.units` — the units are those that a size is read with.
* `MemorySize.parse_display` — every size is read back.
* `MemorySize.text_exact` — what is read as a size, and as which.
-/

namespace ClusterDeploy.MemorySize

open Quantity (Denotes Respelled)

/-- The units of memory. -/
inductive BinaryUnit where
  | byte | kibibyte | mebibyte | gibibyte | tebibyte

namespace BinaryUnit

/-- The names of a unit in small letters. A number alone counts bytes. -/
def names : BinaryUnit → List String
  | .byte => ["", "b", "bytes"]
  | .kibibyte => ["k", "kb", "kibibytes"]
  | .mebibyte => ["m", "mb", "mebibytes"]
  | .gibibyte => ["g", "gb", "gibibytes"]
  | .tebibyte => ["t", "tb", "tebibytes"]

/-- The bytes of a unit. -/
def bytes : BinaryUnit → Nat
  | .byte => 1
  | .kibibyte => 2 ^ 10
  | .mebibyte => 2 ^ 20
  | .gibibyte => 2 ^ 30
  | .tebibyte => 2 ^ 40

/-- Every name of a unit of memory stands for it. -/
lemma unit_of_mem_names (u : BinaryUnit) : ∀ name ∈ u.names, unit name = some u.bytes := by
  cases u <;> decide

/-- The names of units of memory consist of letters. -/
lemma isAlpha_of_mem_names (u : BinaryUnit) :
    ∀ name ∈ u.names, ∀ c ∈ name.toList, c.isAlpha = true := by
  have hall : u.names.all (fun name => name.toList.all Char.isAlpha) = true := by
    cases u <;> rfl
  simpa only [List.all_eq_true] using hall

end BinaryUnit

variable {text : String} {size : MemorySize}

/-- Nothing but the names of units of memory stands for a unit. -/
lemma exists_binaryUnit {name : String} {n : Nat} (h : unit name = some n) :
    ∃ u : BinaryUnit, name ∈ u.names ∧ u.bytes = n := by
  unfold unit at h
  split at h
  · next hname => exact ⟨.byte, hname, Option.some.inj h⟩
  split at h
  · next hname => exact ⟨.kibibyte, hname, Option.some.inj h⟩
  split at h
  · next hname => exact ⟨.mebibyte, hname, Option.some.inj h⟩
  split at h
  · next hname => exact ⟨.gibibyte, hname, Option.some.inj h⟩
  split at h
  · next hname => exact ⟨.tebibyte, hname, Option.some.inj h⟩
  · exact nomatch h

/-- **A size is read with the units of memory.** -/
lemma units : Quantity.Units unit BinaryUnit.names BinaryUnit.bytes where
  sizeOf_eq_some_iff := ⟨exists_binaryUnit, fun ⟨u, hname, hbytes⟩ =>
    hbytes ▸ u.unit_of_mem_names _ hname⟩
  scale_pos u := by cases u <;> decide
  isAlpha := fun hname => BinaryUnit.isAlpha_of_mem_names _ _ hname

/-! ## Minus signs -/

/-- Texts with a minus sign behind the blanks at their start. -/
def Negative (s : List Char) : Prop :=
  (Text.trim s).head? = some '-'

/-- A text with a minus sign before everything else has no number there. -/
lemma read_of_negative {s : List Char} (h : Negative s) :
    Quantity.read unit s = .error .noNumber :=
  Quantity.read_noDigit fun c hc => by
    obtain rfl := Option.some.inj (h.symm.trans hc)
    rfl

/-- A text that begins with a numeral is not that of a negative number. -/
lemma not_negative_of_numeral {before digits : List Char} {number : Nat}
    (hbefore : Text.Blank before) (hdigits : Text.Numeral digits number) (rest : List Char) :
    ¬ Negative (before ++ digits ++ rest) := by
  intro h
  obtain ⟨c, cs, rfl⟩ := List.exists_cons_of_ne_nil hdigits.ne_nil
  rw [Negative, Quantity.trim_number hbefore hdigits] at h
  have hdigit := hdigits.isDigit c List.mem_cons_self
  rw [Option.some.inj h] at hdigit
  exact absurd hdigit (by decide)

/-- A minus sign has no case. -/
lemma negative_foldCase_iff {s : List Char} : Negative (Text.foldCase s) ↔ Negative s := by
  rw [Negative, Text.trim_foldCase, Text.foldCase, List.head?_map, Option.map_eq_some_iff]
  constructor
  · rintro ⟨c, hc, hlower⟩
    have halpha : c.isAlpha = false := by
      rw [← Text.isAlpha_toLower, hlower]
      rfl
    rw [Text.toLower_of_not_isAlpha halpha] at hlower
    exact hc.trans (congrArg some hlower)
  · exact fun h => ⟨'-', h, rfl⟩

/-- What does not count in a quantity hides no minus sign. -/
lemma negative_iff_of_respelled {s t : List Char} (h : Respelled s t) :
    Negative s ↔ Negative t := by
  cases h with
  | @zeros before rest d hbefore hd count =>
    have hzeros := not_negative_of_numeral hbefore ((Text.Numeral.digit hd).zeros count) rest
    have hplain := not_negative_of_numeral hbefore (.digit hd) rest
    simp only [List.append_assoc, List.cons_append, List.nil_append] at hzeros hplain ⊢
    exact iff_of_false hzeros hplain
  | blanksAround hbefore hafter =>
    rw [Negative, Text.trim_append hbefore hafter]
    rfl
  | blanksBetween hbefore hdigits =>
    exact iff_of_false (not_negative_of_numeral hbefore hdigits _)
      (not_negative_of_numeral hbefore hdigits _)
  | letterCase h => rw [← negative_foldCase_iff, h, negative_foldCase_iff]

/-! ## Reading -/

/-- **A size is read as the quantity of its bytes.** Nothing is lost when they are put into 64
bits. -/
lemma parse_eq_ok_iff :
    parse text = .ok size ↔ Quantity.read unit text.toList = .ok size.bytes.toNat := by
  unfold parse
  split
  · next hnegative =>
    rw [read_of_negative (beq_iff_eq.1 hnegative)]
    exact iff_of_false nofun nofun
  · cases hread : Quantity.read unit text.toList with
    | error fault => exact iff_of_false nofun nofun
    | ok n =>
      obtain ⟨u, number, -, hfits, hn⟩ := units.read_eq_ok_iff.1 hread
      have hbytes : (UInt64.ofNat n).toNat = n := UInt64.toNat_ofNat_of_lt' (hn ▸ hfits)
      rw [Except.ok.injEq, Except.ok.injEq]
      exact ⟨fun h => h ▸ hbytes.symm, fun h => congrArg mk (UInt64.toNat_inj.1 (hbytes.trans h))⟩

/-- A text is refused as a size exactly if it is refused as a quantity. -/
lemma parse_eq_error_iff : (∃ fault, parse text = .error fault) ↔
    ∃ fault, Quantity.read unit text.toList = .error fault := by
  unfold parse
  split
  · next hnegative =>
    exact iff_of_true ⟨_, rfl⟩ ⟨_, read_of_negative (beq_iff_eq.1 hnegative)⟩
  · cases Quantity.read unit text.toList with
    | error fault => exact iff_of_true ⟨_, rfl⟩ ⟨_, rfl⟩
    | ok n => exact iff_of_false nofun nofun

/-- **What does not count in a quantity does not count in a size.** -/
lemma parse_of_respelled {text' : String} (h : Respelled text.toList text'.toList) :
    parse text = parse text' := by
  have hnegative : ((Text.trim text.toList).head? == some '-') =
      ((Text.trim text'.toList).head? == some '-') := by
    rw [Bool.eq_iff_iff, beq_iff_eq, beq_iff_eq]
    exact negative_iff_of_respelled h
  rw [parse, parse, hnegative, Quantity.read_of_respelled h]

/-! ## Printing -/

/-- **Every size is read back.** -/
lemma parse_display (size : MemorySize) : parse size.display = .ok size := by
  have hbytes : size.bytes.toNat < Quantity.limit := size.bytes.toNat_lt_size
  rw [parse_eq_ok_iff, units.read_eq_ok_iff]
  simp only [display]
  split
  · next hwhole =>
    have hmebibytes : size.bytes.toNat / mebibyte * BinaryUnit.mebibyte.bytes = size.bytes.toNat :=
      Nat.div_mul_cancel (Nat.dvd_of_mod_eq_zero hwhole.2)
    rw [String.toList_ofList]
    exact ⟨.mebibyte, _, Quantity.denotes_decimal (by decide) _, hmebibytes.symm ▸ hbytes,
      hmebibytes.symm⟩
  · rw [String.toList_ofList]
    exact ⟨.byte, _, Quantity.denotes_decimal (by decide) _,
      (Nat.mul_one size.bytes.toNat).symm ▸ hbytes, (Nat.mul_one _).symm⟩

/-- **Memory sizes are read exactly.** Every size is read back from the text that is printed for it.
A text is read as a size exactly if it denotes a number of units of memory that come to less than
`2 ^ 64` bytes, and then as exactly so many, so nothing wraps around; every other text is refused.
Texts that differ only in zeros before the number, however many, in blanks or in the case of letters
are read alike. -/
theorem text_exact :
    (∀ bytes : UInt64, parse (display ⟨bytes⟩) = .ok ⟨bytes⟩) ∧
    (∀ (text : String) (size : MemorySize), parse text = .ok size ↔
      ∃ (u : BinaryUnit) (number : Nat), Denotes u.names text.toList number ∧
        number * u.bytes < 2 ^ 64 ∧ size.bytes.toNat = number * u.bytes) ∧
    (∀ text : String, (∃ fault, parse text = .error fault) ↔
      ∀ (u : BinaryUnit) (number : Nat), Denotes u.names text.toList number →
        2 ^ 64 ≤ number * u.bytes) ∧
    ∀ text text' : String, Respelled text.toList text'.toList → parse text = parse text' :=
  ⟨fun _ => parse_display _, fun _ _ => parse_eq_ok_iff.trans units.read_eq_ok_iff,
    fun _ => parse_eq_error_iff.trans units.read_eq_error_iff, fun _ _ => parse_of_respelled⟩

/-- The greatest number of kibibytes, with zeros and blanks, and one kibibyte more. -/
theorem text_exact_of_greatest :
    parse " 18014398509481983 Kb\n" = .ok ⟨18446744073709550592⟩ ∧
    (∃ fault, parse "18014398509481984k" = .error fault) ∧
    Respelled " 00018014398509481983 Kb\n".toList " 18014398509481983 Kb\n".toList ∧
    parse " 00018014398509481983 Kb\n" = parse " 18014398509481983 Kb\n" := by
  obtain ⟨-, haccepts, -, hrespelled⟩ := text_exact
  have hzeros : Respelled " 00018014398509481983 Kb\n".toList " 18014398509481983 Kb\n".toList :=
    @Respelled.zeros [' '] "8014398509481983 Kb\n".toList '1' (by decide) rfl 3
  have hdenotes : Denotes BinaryUnit.kibibyte.names
      ([' '] ++ Text.decimal 18014398509481983 ++ [' '] ++ ['K', 'b'] ++ ['\n'])
      18014398509481983 :=
    .intro (by decide) (Text.numeral_decimal _) (by decide) (by decide) (by decide)
  exact ⟨(haccepts _ _).2 ⟨.kibibyte, _, hdenotes, by decide, by decide⟩, ⟨_, rfl⟩, hzeros,
    hrespelled _ _ hzeros⟩

end ClusterDeploy.MemorySize
