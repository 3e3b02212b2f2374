import ClusterDeploy.Proofs.Json.Documents
import ClusterDeploy.Proofs.Text.Numerals

set_option relaxedAutoImplicit false
set_option autoImplicit false

/-!
# Numbers in JSON documents can be read back

A number is written as its digits, without leading zeros, which a fraction and an exponent may
follow. In front of a mark it is read as it was written. A whole number has the value that was
written if it has no more than 64 bits.

## Main definitions

* `Json.Numeral.text`, `Json.Numeral.IsWritten` — the text of a number, and numbers that have one.
* `Json.readUnsigned` — reads a number behind its sign.

## Main results

* `Json.readsAs_numeral` — the text of a number is read as this number.
* `Json.readsAs_decimal` — the digits of a whole number are read as this number.
* `Json.value_decimal` — the value of these digits.

## Implementation notes

An exponent is written with its sign, whether it is plus or minus.
-/

namespace ClusterDeploy.Json

open Utf8 (bytesOf)

variable {c : Char} {s : List Char} {rest : Bytes} {n : Nat}

/-! ## Digits -/

/-- A digit is written as one byte and read back. -/
lemma utf8EncodeChar_digit (hc : c.isDigit = true) : String.utf8EncodeChar c = [ascii c] ∧
    isDigit (ascii c) = true ∧ Char.ofNat (ascii c).toNat = c := by
  have hten : ∀ d < 10,
      String.utf8EncodeChar (Char.ofNat (48 + d)) = [ascii (Char.ofNat (48 + d))] ∧
      isDigit (ascii (Char.ofNat (48 + d))) = true ∧
      Char.ofNat (ascii (Char.ofNat (48 + d))).toNat = Char.ofNat (48 + d) := by decide
  have hlow : 48 ≤ c.toNat ∧ c.toNat ≤ 57 := by
    simp only [Char.isDigit, Bool.and_eq_true, decide_eq_true_eq, ge_iff_le, UInt32.le_iff_toNat_le]
      at hc
    exact hc
  have hdigit : Char.ofNat (48 + (c.toNat - 48)) = c := by
    rw [Nat.add_sub_cancel' hlow.1, Char.ofNat_toNat]
  rw [← hdigit]
  exact hten _ (by omega)

/-- A digit is different from what is none. -/
lemma ne_of_isDigit {b d : UInt8} (hb : isDigit b = true) (hd : isDigit d = false) : b ≠ d := by
  rintro rfl
  exact Bool.false_ne_true (hd.symm.trans hb)

/-- Digits are written as one byte each. -/
lemma bytesOf_digits (hs : ∀ c ∈ s, c.isDigit = true) : bytesOf s = s.map ascii := by
  induction s with
  | nil => rfl
  | cons c s ih =>
    obtain ⟨hc, hs⟩ := List.forall_mem_cons.1 hs
    rw [Utf8.bytesOf_cons, (utf8EncodeChar_digit hc).1, ih hs, List.map_cons, List.singleton_append]

/-- Digits are read up to the first byte that is none. -/
lemma digits_append (hs : ∀ c ∈ s, c.isDigit = true) (hrest : ∀ b ∈ rest.head?, isDigit b = false) :
    digits (bytesOf s ++ rest) = s := by
  have htaken : (bytesOf s ++ rest).takeWhile isDigit = s.map ascii := by
    rw [bytesOf_digits hs, List.takeWhile_append_of_pos]
    · cases rest with
      | nil => exact List.append_nil _
      | cons b rest =>
        have hb : isDigit b = false := hrest b rfl
        rw [List.takeWhile_cons_of_neg (by simp [hb]), List.append_nil]
    · intro b hb
      obtain ⟨c, hc, rfl⟩ := List.mem_map.1 hb
      exact (utf8EncodeChar_digit (hs c hc)).2.1
  rw [digits, htaken, List.map_map]
  exact (List.map_congr_left fun c hc => (utf8EncodeChar_digit (hs c hc)).2.2).trans (List.map_id s)

/-- Only zero is written with a zero in front. -/
lemma eq_nil_of_decimal_eq (h : Text.decimal n = '0' :: s) : s = [] := by
  induction n using Nat.strongRecOn generalizing s with
  | ind n ih =>
    by_cases hsmall : n < 10
    · rw [Text.decimal, Nat.toDigits_of_lt_base hsmall] at h
      exact (List.cons.inj h).2.symm
    · have hsplit : Text.decimal n = Text.decimal (n / 10) ++ [(n % 10).digitChar] :=
        Nat.toDigits_of_base_le (by decide) (Nat.le_of_not_lt hsmall)
      -- The digits in front of the last one would be those of zero, but there are ten or more.
      rcases hfront : Text.decimal (n / 10) with _ | ⟨d, front⟩
      · exact absurd hfront Text.decimal_ne_nil
      · rw [hsplit, hfront, List.cons_append] at h
        obtain ⟨rfl, -⟩ := List.cons.inj h
        have hzero : n / 10 = 0 := by
          rw [← Text.valueOf_decimal (n := n / 10), hfront, ih (n / 10) (by omega) hfront]
          rfl
        omega

/-- What follows digits that were read is what comes behind them. -/
lemma dropWhile_isDigit_append (hs : ∀ c ∈ s, c.isDigit = true)
    (hrest : ∀ b ∈ rest.head?, isDigit b = false) :
    (bytesOf s ++ rest).dropWhile isDigit = rest := by
  rw [bytesOf_digits hs, List.dropWhile_append_of_pos]
  · cases rest with
    | nil => rfl
    | cons b rest => rw [List.dropWhile_cons_of_neg (by simp [hrest b rfl])]
  · intro b hb
    obtain ⟨c, hc, rfl⟩ := List.mem_map.1 hb
    exact (utf8EncodeChar_digit (hs c hc)).2.1

/-! ## Numbers -/

/-- The text of an exponent. -/
def exponentText : Option (Bool × List Char) → List Char
  | none => []
  | some (true, ds) => 'e' :: '-' :: ds
  | some (false, ds) => 'e' :: '+' :: ds

/-- The text of a fraction. -/
def fractionText (ds : List Char) : List Char :=
  if ds = [] then [] else '.' :: ds

/-- The text of a number. -/
def Numeral.text (n : Numeral) : List Char :=
  (if n.negative then ['-'] else []) ++
    (n.whole ++ (fractionText n.fraction ++ exponentText n.exponent))

/-- Numbers that are written as digits, the first of which is zero only if it is the only one of the
whole part. -/
structure Numeral.IsWritten (n : Numeral) : Prop where
  digits : ∀ c ∈ n.whole, c.isDigit = true
  nonempty : n.whole ≠ []
  leading : ∀ {ds : List Char}, n.whole = '0' :: ds → ds = []
  fraction : ∀ c ∈ n.fraction, c.isDigit = true
  exponent : ∀ e ∈ n.exponent, e.2 ≠ [] ∧ ∀ c ∈ e.2, c.isDigit = true

/-- A mark is no part of a number. -/
lemma ne_of_isMark {b : UInt8} (hb : isMark b = true) :
    isDigit b = false ∧ b ≠ ascii '.' ∧ b ≠ ascii 'e' ∧ b ≠ ascii 'E' := by
  simp only [isMark, Bool.or_eq_true, beq_iff_eq] at hb
  rcases hb with (rfl | rfl) | rfl <;> decide

/-- An exponent with its sign is read up to a mark. -/
lemma readExponent_text {e : Option (Bool × List Char)}
    (he : ∀ d ∈ e, d.2 ≠ [] ∧ ∀ c ∈ d.2, c.isDigit = true)
    (hrest : ∀ b ∈ rest.head?, isMark b = true) :
    readExponent (bytesOf (exponentText e) ++ rest) = some (e, rest) := by
  rcases e with _ | ⟨negative, ds⟩
  · cases rest with
    | nil => rfl
    | cons b rest =>
      obtain ⟨-, -, hsmall, hgreat⟩ := ne_of_isMark (hrest b rfl)
      simp [exponentText, readExponent, hsmall, hgreat]
  · obtain ⟨hne, hds⟩ := he (negative, ds) rfl
    have hmark : ∀ b ∈ rest.head?, isDigit b = false := fun b hb => (ne_of_isMark (hrest b hb)).1
    have hread := digits_append hds hmark
    have hdrop := dropWhile_isDigit_append hds hmark
    cases negative with
    | true =>
      have hbytes : bytesOf (exponentText (some (true, ds))) ++ rest =
          ascii 'e' :: ascii '-' :: (bytesOf ds ++ rest) := rfl
      rw [hbytes, readExponent]
      simp [hread, hdrop, hne]
    | false =>
      have hbytes : bytesOf (exponentText (some (false, ds))) ++ rest =
          ascii 'e' :: ascii '+' :: (bytesOf ds ++ rest) := rfl
      rw [hbytes, readExponent]
      simp [hread, hdrop, hne, show ascii '+' ≠ ascii '-' by decide]

/-- A fraction is read up to the first byte that is no digit of it. -/
lemma readFraction_text (hs : ∀ c ∈ s, c.isDigit = true)
    (hrest : ∀ b ∈ rest.head?, isDigit b = false ∧ b ≠ ascii '.') :
    readFraction (bytesOf (fractionText s) ++ rest) = some (s, rest) := by
  unfold fractionText
  split
  · next hnil =>
    subst hnil
    cases rest with
    | nil => rfl
    | cons b rest => simp [readFraction, (hrest b rfl).2]
  · next hne =>
    have hdigit : ∀ b ∈ rest.head?, isDigit b = false := fun b hb => (hrest b hb).1
    have hbytes : bytesOf ('.' :: s) ++ rest = ascii '.' :: (bytesOf s ++ rest) := rfl
    rw [hbytes, readFraction]
    simp [digits_append hs hdigit, dropWhile_isDigit_append hs hdigit, hne]

/-- What follows the digits of a number does not begin with a digit. -/
lemma isDigit_head?_text {e : Option (Bool × List Char)}
    (hrest : ∀ b ∈ rest.head?, isMark b = true) :
    (∀ b ∈ (bytesOf (exponentText e) ++ rest).head?, isDigit b = false ∧ b ≠ ascii '.') ∧
      ∀ b ∈ (bytesOf (fractionText s) ++ (bytesOf (exponentText e) ++ rest)).head?,
        isDigit b = false := by
  have hexponent : ∀ b ∈ (bytesOf (exponentText e) ++ rest).head?,
      isDigit b = false ∧ b ≠ ascii '.' := by
    intro b hb
    rcases e with _ | ⟨_ | _, ds⟩
    · obtain ⟨hdigit, hpoint, -⟩ := ne_of_isMark (hrest b hb)
      exact ⟨hdigit, hpoint⟩
    · obtain rfl : ascii 'e' = b := Option.some.inj hb
      decide
    · obtain rfl : ascii 'e' = b := Option.some.inj hb
      decide
  refine ⟨hexponent, fun b hb => ?_⟩
  unfold fractionText at hb
  split at hb
  · exact (hexponent b hb).1
  · obtain rfl : ascii '.' = b := Option.some.inj hb
    decide

variable {m : Numeral}

/-- A number without its sign is read. -/
lemma readFraction_unsigned (hm : m.IsWritten) (hrest : ∀ b ∈ rest.head?, isMark b = true)
    {unsigned : Bytes} (hunsigned : unsigned = bytesOf (m.whole ++
      (fractionText m.fraction ++ exponentText m.exponent)) ++ rest) :
    digits unsigned = m.whole ∧ readFraction (unsigned.drop m.whole.length) =
      some (m.fraction, bytesOf (exponentText m.exponent) ++ rest) := by
  obtain ⟨hexponent, hfraction⟩ :=
    isDigit_head?_text (s := m.fraction) (e := m.exponent) hrest
  rw [Utf8.bytesOf_append, Utf8.bytesOf_append, List.append_assoc, List.append_assoc] at hunsigned
  have hlength : m.whole.length = (bytesOf m.whole).length := by
    rw [bytesOf_digits hm.digits, List.length_map]
  rw [hunsigned, digits_append hm.digits hfraction, hlength, List.drop_left,
    readFraction_text hm.fraction hexponent]
  exact ⟨rfl, rfl⟩

/-- The first byte of the digits of a number. -/
lemma exists_bytesOf_whole (hm : m.IsWritten) :
    ∃ b more, bytesOf m.whole = b :: more ∧ isDigit b = true := by
  rw [bytesOf_digits hm.digits]
  rcases hwhole : m.whole with _ | ⟨d, ds⟩
  · exact absurd hwhole hm.nonempty
  · exact ⟨_, _, rfl, (utf8EncodeChar_digit (hm.digits d (hwhole ▸ List.mem_cons_self))).2.1⟩

/-- Reads a number behind its sign. -/
def readUnsigned (negative : Bool) (unsigned : Bytes) : Option (Numeral × Bytes) :=
  let whole := match digits unsigned with
    | '0' :: _ => ['0']
    | ds => ds
  if whole.isEmpty then none
  else do
    let (fraction, afterFraction) ← readFraction (unsigned.drop whole.length)
    let (exponent, after) ← readExponent afterFraction
    return (⟨negative, whole, fraction, exponent⟩, after)

/-- After a minus sign a negative number is read. -/
lemma readNumeral_minus (s : Bytes) : readNumeral (ascii '-' :: s) = readUnsigned true s :=
  rfl

/-- A numeral that begins with a digit is that of a number that is not negative. -/
lemma readNumeral_of_isDigit {b : UInt8} (hb : isDigit b = true) (s : Bytes) :
    readNumeral (b :: s) = readUnsigned false (b :: s) := by
  have hcons : readNumeral (b :: s) = (fun sign : Bool × Bytes => readUnsigned sign.1 sign.2)
      (if b == ascii '-' then (true, s) else (false, b :: s)) := rfl
  rw [hcons, if_neg (mt beq_iff_eq.1 (ne_of_isDigit hb (by decide)))]

/-- A number without its sign is read part by part. -/
lemma readUnsigned_text (hm : m.IsWritten) (hrest : ∀ b ∈ rest.head?, isMark b = true)
    {unsigned : Bytes} (hunsigned : unsigned = bytesOf (m.whole ++
      (fractionText m.fraction ++ exponentText m.exponent)) ++ rest) :
    readUnsigned m.negative unsigned = some (m, rest) := by
  obtain ⟨hdigits, hfraction⟩ := readFraction_unsigned hm hrest hunsigned
  have hwhole : (match digits unsigned with | '0' :: _ => ['0'] | ds => ds) = m.whole := by
    rw [hdigits]
    split
    · next ds hzero => rw [hzero, hm.leading hzero]
    · rfl
  unfold readUnsigned
  simp only [hwhole, List.isEmpty_eq_false_iff.2 hm.nonempty, Bool.false_eq_true, if_false,
    hfraction, readExponent_text hm.exponent hrest, Option.bind_eq_bind, Option.bind_some]
  rfl

/-- The text of a number is read as this number up to a mark. -/
lemma readNumeral_text (hm : m.IsWritten) (hrest : ∀ b ∈ rest.head?, isMark b = true) :
    readNumeral (bytesOf m.text ++ rest) = some (m, rest) := by
  have hread := readUnsigned_text hm hrest rfl
  unfold Numeral.text
  by_cases hnegative : m.negative = true
  · rw [if_pos hnegative]
    rw [hnegative] at hread
    exact (readNumeral_minus _).trans hread
  · obtain ⟨b, more, hfirst, hb⟩ := exists_bytesOf_whole hm
    rw [if_neg hnegative, List.nil_append]
    rw [Bool.eq_false_iff.2 hnegative] at hread
    rw [Utf8.bytesOf_append, hfirst] at hread ⊢
    exact (readNumeral_of_isDigit hb _).trans hread

/-- The first byte of a number is a digit or a minus sign. -/
lemma exists_bytesOf_text (hm : m.IsWritten) :
    ∃ b more, bytesOf m.text = b :: more ∧ (isDigit b = true ∨ b = ascii '-') := by
  unfold Numeral.text
  by_cases hnegative : m.negative = true
  · rw [if_pos hnegative]
    exact ⟨_, _, rfl, .inr rfl⟩
  · obtain ⟨b, more, hfirst, hb⟩ := exists_bytesOf_whole hm
    rw [if_neg hnegative, List.nil_append, Utf8.bytesOf_append, hfirst]
    exact ⟨_, _, rfl, .inl hb⟩

/-- **The text of a number is read as this number.** -/
lemma readsAs_numeral (hm : m.IsWritten) : ReadsAs m.text (.number m) := by
  intro bound rest hbound hrest
  have hnumber := readNumeral_text hm hrest
  obtain ⟨b, more, hbytes, hb⟩ := exists_bytesOf_text hm
  have hpos : 0 < m.text.length := by
    refine List.length_pos_iff.2 fun hnil => ?_
    rw [hnil] at hbytes
    exact nomatch hbytes
  obtain ⟨bound, rfl⟩ : ∃ k, bound = k + 1 := ⟨bound - 1, by omega⟩
  have hother : ∀ d : UInt8, isDigit d = false → d ≠ ascii '-' → (b == d) = false := by
    intro d hd hsign
    refine beq_eq_false_iff_ne.2 (hb.elim (fun hb => ne_of_isDigit hb hd) fun hb => ?_)
    exact fun heq => hsign (heq.symm.trans hb)
  have hspace : isSpace b = false := by
    simp only [isSpace, Bool.or_eq_false_iff]
    exact ⟨⟨⟨hother _ (by decide) (by decide), hother _ (by decide) (by decide)⟩,
      hother _ (by decide) (by decide)⟩, hother _ (by decide) (by decide)⟩
  rw [hbytes, List.cons_append] at hnumber ⊢
  rw [readValue, skipSpace_cons hspace]
  simp only [hother (ascii '"') (by decide) (by decide), hother (ascii '[') (by decide) (by decide),
    hother (ascii '\x7b') (by decide) (by decide), hother (ascii 'n') (by decide) (by decide),
    hother (ascii 't') (by decide) (by decide), hother (ascii 'f') (by decide) (by decide),
    Bool.false_eq_true, if_false, hnumber, Option.map_some]

/-! ## Whole numbers -/

/-- The digits of a number, with a sign in front of them or not, are the text of a number. -/
lemma isWritten_decimal (negative : Bool) (n : Nat) :
    Numeral.IsWritten ⟨negative, Text.decimal n, [], none⟩ where
  digits _ := Text.isDigit_of_mem_decimal
  nonempty := Text.decimal_ne_nil
  leading := eq_nil_of_decimal_eq
  fraction := List.forall_mem_nil _
  exponent _ he := nomatch he

/-- **The digits of a number are read as a number.** -/
lemma readsAs_decimal (n : Nat) :
    ReadsAs (Text.decimal n) (.number ⟨false, Text.decimal n, [], none⟩) := by
  have hread := readsAs_numeral (isWritten_decimal false n)
  rwa [show (⟨false, Text.decimal n, [], none⟩ : Numeral).text = Text.decimal n from
    List.append_nil _] at hread

/-- **The value of the digits of a number** is this number if it has no more than 64 bits. -/
lemma value_decimal (hn : n < UInt64.size) :
    (⟨false, Text.decimal n, [], none⟩ : Numeral).value = some (.natural n) := by
  simp [Numeral.value, Numeral.isWhole, hn]

end ClusterDeploy.Json
