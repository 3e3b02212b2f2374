import ClusterDeploy.Proofs.Text.Utf8
import ClusterDeploy.Text.Percent
import Mathlib.Data.List.Infix

set_option relaxedAutoImplicit false
set_option autoImplicit false

/-!
# Escaped bytes can be read back

A byte that is escaped is read as this byte. A text in which nothing looks like an escaped byte is
read as its own bytes, and in any other text bytes get lost.

## Main definitions

* `Text.HasEscape` — something in a text looks like an escaped byte.

## Main results

* `Text.unescape_escape` — a character that is escaped is read as its bytes.
* `Text.unescape_append_cons` — a text can be read in two parts, cut before a character that is no
  digit.
* `Text.unescape_eq_of_not_hasEscape`, `Text.length_unescape_lt_of_hasEscape` — when a text is read
  as its own bytes.
-/

namespace ClusterDeploy.Text

open Utf8 (bytesOf)

variable {a b c high low : Char} {s t : List Char} {n : Nat}

/-! ## What looks like an escaped byte -/

/-- A text begins with something that looks like an escaped byte. -/
def StartsEscape (s : List Char) : Prop :=
  ∃ high low n, ['%', high, low] <+: s ∧ readInBase 16 [high, low] = some n

/-- Something in a text looks like an escaped byte. -/
def HasEscape (s : List Char) : Prop :=
  ∃ high low n, ['%', high, low] <:+: s ∧ readInBase 16 [high, low] = some n

/-- What looks like an escaped byte begins at the front or later. -/
lemma hasEscape_cons_iff : HasEscape (c :: s) ↔ StartsEscape (c :: s) ∨ HasEscape s := by
  simp only [HasEscape, StartsEscape, List.infix_cons_iff, or_and_right, exists_or]

lemma not_hasEscape_nil : ¬HasEscape [] := by
  rintro ⟨high, low, n, hpattern, -⟩
  exact absurd (List.infix_nil.1 hpattern) (List.cons_ne_nil _ _)

/-- Without a percent sign nothing looks like an escaped byte. -/
lemma not_hasEscape_of_notMem (h : '%' ∉ s) : ¬HasEscape s := by
  rintro ⟨high, low, n, hpattern, -⟩
  exact h (hpattern.subset List.mem_cons_self)

/-- Nothing is read if the first character is no digit. -/
lemma readInBase_eq_none_of_left (h : hexValue a = none) : readInBase 16 [a, b] = none := by
  simp [readInBase, h]

/-- Nothing is read if the second character is no digit. -/
lemma readInBase_eq_none_of_right (h : hexValue b = none) : readInBase 16 [a, b] = none := by
  simp [readInBase, h]

/-- Digits are ASCII characters. -/
lemma toNat_lt_of_hexValue (h : hexValue c ≠ none) : c.toNat < 128 := by
  by_contra hlarge
  have hdigit : c.isDigit = false := by
    simp only [Char.isDigit, ge_iff_le, Bool.and_eq_false_iff, decide_eq_false_iff_not,
      UInt32.le_iff_toNat_le]
    exact .inr fun hle => hlarge (Nat.lt_of_le_of_lt hle (by decide))
  have hlower : c.toLower = c := by
    unfold Char.toLower
    rw [dif_neg]
    rintro ⟨-, hle⟩
    exact hlarge (Nat.lt_of_le_of_lt (UInt32.le_iff_toNat_le.1 hle) (by decide))
  have hletter : ¬c ≤ 'f' := fun hle =>
    hlarge (Nat.lt_of_le_of_lt (UInt32.le_iff_toNat_le.1 hle) (by decide))
  exact h (by simp [hexValue, hdigit, hlower, hletter])

/-- An escaped byte begins with a percent sign and has two digits. -/
lemma startsEscape_cons_iff : StartsEscape (c :: s) ↔
    c = '%' ∧ ∃ high low rest n, s = high :: low :: rest ∧ readInBase 16 [high, low] = some n := by
  constructor
  · rintro ⟨high, low, n, ⟨rest, hrest⟩, hn⟩
    obtain ⟨rfl, rfl⟩ := List.cons.inj hrest
    exact ⟨rfl, high, low, rest, n, rfl, hn⟩
  · rintro ⟨rfl, high, low, rest, n, rfl, hn⟩
    exact ⟨high, low, n, ⟨rest, rfl⟩, hn⟩

/-- A percent sign is literal if no byte is read behind it. -/
lemma not_startsEscape_of_eq_none (h : readInBase 16 [high, low] = none) :
    ¬StartsEscape ('%' :: high :: low :: s) := by
  intro hstarts
  obtain ⟨-, _, _, _, n, heq, hn⟩ := startsEscape_cons_iff.1 hstarts
  simp only [List.cons.injEq] at heq
  obtain ⟨rfl, rfl, -⟩ := heq
  exact nomatch h.symm.trans hn

/-- Where less than two characters follow, or no percent sign stands, nothing is escaped. -/
lemma not_startsEscape_of_short (h : ∀ high low rest, c = '%' → s = high :: low :: rest → False) :
    ¬StartsEscape (c :: s) := by
  intro hstarts
  obtain ⟨hpercent, high, low, rest, -, heq, -⟩ := startsEscape_cons_iff.1 hstarts
  exact h high low rest hpercent heq

/-! ## Reading -/

/-- An escaped byte is turned into the byte. -/
lemma unescape_of_startsEscape (h : readInBase 16 [high, low] = some n) :
    unescape ('%' :: high :: low :: s) = UInt8.ofNat n :: unescape s := by
  rw [unescape, h]

/-- A character that begins no escaped byte is read as its own bytes. -/
lemma unescape_cons (h : ¬StartsEscape (c :: s)) :
    unescape (c :: s) = String.utf8EncodeChar c ++ unescape s := by
  rw [startsEscape_cons_iff, not_and] at h
  rw [unescape.eq_def]
  split
  · next high low rest heq =>
    obtain ⟨rfl, rfl⟩ := List.cons.inj heq
    rcases hread : readInBase 16 [high, low] with _ | n
    · rfl
    · exact absurd ⟨high, low, rest, n, rfl, hread⟩ (h rfl)
  · next heq =>
    obtain ⟨rfl, rfl⟩ := List.cons.inj heq
    rfl
  · next heq => exact absurd heq (List.cons_ne_nil _ _)

/-- A character other than the percent sign stands for its own bytes. -/
lemma unescape_cons_of_ne (h : c ≠ '%') :
    unescape (c :: s) = String.utf8EncodeChar c ++ unescape s :=
  unescape_cons fun hstarts => h (startsEscape_cons_iff.1 hstarts).1

/-- **A text can be read in two parts**, if the second one does not begin with a digit.

**Proof sketch.** Induction on the reading of the first part. No escaped byte lies across the cut,
for it would have the first character of the second part as a digit. -/
lemma unescape_append_cons (s t : List Char) (hc : hexValue c = none) :
    unescape (s ++ c :: t) = unescape s ++ unescape (c :: t) := by
  induction s using unescape.induct with
  | case1 high low rest n hread ih =>
    rw [List.cons_append, List.cons_append, List.cons_append, unescape_of_startsEscape hread,
      unescape_of_startsEscape hread, ih, List.cons_append]
  | case2 high low rest hread ih =>
    rw [unescape_cons (not_startsEscape_of_eq_none hread), List.append_assoc, ← ih]
    exact unescape_cons (not_startsEscape_of_eq_none hread)
  | case3 d rest hshort ih =>
    have hstarts : ¬StartsEscape (d :: (rest ++ c :: t)) := by
      rintro hstarts
      obtain ⟨rfl, high, low, more, n, heq, hn⟩ := startsEscape_cons_iff.1 hstarts
      match rest, heq with
      | [], heq =>
        obtain ⟨rfl, -⟩ := List.cons.inj heq
        exact nomatch (readInBase_eq_none_of_left hc).symm.trans hn
      | [x], heq =>
        obtain ⟨-, heq⟩ := List.cons.inj heq
        obtain ⟨rfl, -⟩ := List.cons.inj heq
        exact nomatch (readInBase_eq_none_of_right hc).symm.trans hn
      | x :: y :: rest, _ => exact hshort x y rest rfl rfl
    rw [List.cons_append, unescape_cons hstarts, unescape_cons (not_startsEscape_of_short hshort),
      ih, List.append_assoc]
  | case4 => rfl

/-- A text is read as its own bytes, or something in it looks like an escaped byte and bytes get
lost.

**Proof sketch.** Induction on the reading: three characters with a byte each or more become one
byte. -/
private lemma unescape_cases (s : List Char) :
    ¬HasEscape s ∧ unescape s = bytesOf s ∨
      HasEscape s ∧ (unescape s).length < (bytesOf s).length := by
  -- a character that starts no escaped byte has the same bytes on both sides
  have hcons : ∀ {c s}, ¬StartsEscape (c :: s) →
      (¬HasEscape s ∧ unescape s = bytesOf s ∨
        HasEscape s ∧ (unescape s).length < (bytesOf s).length) →
      (¬HasEscape (c :: s) ∧ unescape (c :: s) = bytesOf (c :: s) ∨
        HasEscape (c :: s) ∧ (unescape (c :: s)).length < (bytesOf (c :: s)).length) := by
    intro c s hstarts h
    rw [hasEscape_cons_iff, or_iff_right hstarts, unescape_cons hstarts, Utf8.bytesOf_cons,
      List.append_right_inj, List.length_append, List.length_append, Nat.add_lt_add_iff_left]
    exact h
  induction s using unescape.induct with
  | case1 high low rest n hread ih =>
    have hle : (unescape rest).length ≤ (bytesOf rest).length := by
      rcases ih with ⟨-, heq⟩ | ⟨-, hlt⟩
      · exact Nat.le_of_eq (congrArg List.length heq)
      · exact Nat.le_of_lt hlt
    refine .inr ⟨⟨high, low, n, (List.prefix_append [_, _, _] rest).isInfix, hread⟩, ?_⟩
    -- three characters become a single byte
    have hsize : ∀ c : Char, 0 < (String.utf8EncodeChar c).length := fun c => by
      rw [String.length_utf8EncodeChar]
      exact c.utf8Size_pos
    have hpercent := hsize '%'
    have hhigh := hsize high
    have hlow := hsize low
    rw [unescape_of_startsEscape hread]
    simp only [Utf8.bytesOf_cons, List.length_append, List.length_cons]
    omega
  | case2 high low rest hread ih => exact hcons (not_startsEscape_of_eq_none hread) ih
  | case3 d rest hshort ih => exact hcons (not_startsEscape_of_short hshort) ih
  | case4 => exact .inl ⟨not_hasEscape_nil, rfl⟩

/-- **A text in which nothing looks like an escaped byte** is read as its own bytes. -/
lemma unescape_eq_of_not_hasEscape (h : ¬HasEscape s) : unescape s = bytesOf s :=
  ((unescape_cases s).resolve_right fun hlt => h hlt.1).2

/-- **In any other text bytes get lost.** -/
lemma length_unescape_lt_of_hasEscape (h : HasEscape s) :
    (unescape s).length < (bytesOf s).length :=
  ((unescape_cases s).resolve_left fun heq => heq.1 h).2

/-- A text does not get longer when it is unescaped. -/
lemma length_unescape_le (s : List Char) : (unescape s).length ≤ (bytesOf s).length := by
  rcases unescape_cases s with ⟨-, heq⟩ | ⟨-, hlt⟩
  · exact Nat.le_of_eq (congrArg List.length heq)
  · exact Nat.le_of_lt hlt

/-- A text gets shorter exactly if something in it looks like an escaped byte. -/
lemma hasEscape_iff_length_lt : HasEscape s ↔ (unescape s).length < (bytesOf s).length := by
  refine ⟨length_unescape_lt_of_hasEscape, fun hlt => ?_⟩
  by_contra hnot
  rw [unescape_eq_of_not_hasEscape hnot] at hlt
  exact Nat.lt_irrefl _ hlt

/-- Nothing that looks like an escaped byte lies across a slash. -/
lemma hasEscape_append_slash : HasEscape (s ++ '/' :: t) ↔ HasEscape s ∨ HasEscape ('/' :: t) := by
  have hs := length_unescape_le s
  have ht := length_unescape_le ('/' :: t)
  rw [hasEscape_iff_length_lt, hasEscape_iff_length_lt, hasEscape_iff_length_lt,
    unescape_append_cons _ _ (by decide), Utf8.bytesOf_append, List.length_append,
    List.length_append]
  omega

/-! ## Escaping -/

/-- The two digits of a byte, and what they are read as. -/
private lemma escapeByte_digits : ∀ n < 256, ∃ high low,
    escapeByte (UInt8.ofNat n) = ['%', high, low] ∧ readInBase 16 [high, low] = some n ∧
      high.isAlphanum = true ∧ low.isAlphanum = true := by
  intro n hn
  refine ⟨_, _, rfl, ?_⟩
  revert n
  decide +kernel

/-- An escaped byte is a percent sign and two digits, from which the byte is read back. -/
lemma exists_escapeByte (b : UInt8) : ∃ high low n,
    escapeByte b = ['%', high, low] ∧ readInBase 16 [high, low] = some n ∧ UInt8.ofNat n = b ∧
      high.isAlphanum = true ∧ low.isAlphanum = true := by
  obtain ⟨high, low, hbyte, hread, hhigh, hlow⟩ := escapeByte_digits b.toNat b.toNat_lt
  rw [UInt8.ofNat_toNat] at hbyte
  exact ⟨high, low, b.toNat, hbyte, hread, UInt8.ofNat_toNat, hhigh, hlow⟩

/-- **A character that is escaped** is read as its bytes. -/
lemma unescape_escape (c : Char) (t : List Char) :
    unescape (escape c ++ t) = String.utf8EncodeChar c ++ unescape t := by
  unfold escape
  induction String.utf8EncodeChar c with
  | nil => rfl
  | cons b bytes ih =>
    obtain ⟨high, low, n, hbyte, hread, rfl, -⟩ := exists_escapeByte b
    rw [List.flatMap_cons, List.append_assoc, hbyte, List.cons_append, List.cons_append,
      List.cons_append, List.nil_append, unescape_of_startsEscape hread, ih, List.cons_append]

/-- What is escaped consists of percent signs, digits and letters. -/
lemma eq_or_isAlphanum_of_mem_escape (h : a ∈ escape c) : a = '%' ∨ a.isAlphanum = true := by
  obtain ⟨b, -, hb⟩ := List.mem_flatMap.1 h
  obtain ⟨high, low, n, hbyte, -, -, hhigh, hlow⟩ := exists_escapeByte b
  rw [hbyte] at hb
  simp only [List.mem_cons, List.not_mem_nil, or_false] at hb
  rcases hb with rfl | rfl | rfl
  · exact .inl rfl
  · exact .inr hhigh
  · exact .inr hlow

/-- What is escaped begins with a percent sign. -/
lemma exists_escape_eq_cons (c : Char) : ∃ s, escape c = '%' :: s := by
  obtain ⟨b, bytes, hbytes, -⟩ := Utf8.exists_step c []
  rw [escape, hbytes, List.flatMap_cons]
  exact ⟨_, rfl⟩

end ClusterDeploy.Text
