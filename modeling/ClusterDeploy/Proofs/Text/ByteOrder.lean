import ClusterDeploy.Proofs.Text.Utf8
import Mathlib.Data.String.Basic

set_option relaxedAutoImplicit false
set_option autoImplicit false

/-!
# The order of texts is that of their bytes

Texts are compared character by character, and characters by their numbers. Comparing the bytes of
the texts instead gives the same order.

## Main results

* `Utf8.utf8EncodeChar_append_lt` — the bytes of a smaller character come first, whatever follows.
* `Utf8.encode_le_iff` — the order of texts is the order of their bytes.

## Implementation notes

A character with fewer bytes than another one has a smaller first byte. Of two characters with the
same number of bytes the digits of their numbers in base 64 are compared, from the first one on.
-/

namespace ClusterDeploy.Utf8

/-! ## Characters -/

/-- Of two numbers the smaller one has the smaller digits in base 64. -/
lemma digits_lt {m n : Nat} (h : m < n) :
    m / 64 < n / 64 ∨ m / 64 = n / 64 ∧ m % 64 < n % 64 := by
  omega

/-- Bytes are compared as numbers. -/
lemma ofNat_cons_lt_iff {m n : Nat} {x y : Bytes} (hm : m < 256) (hn : n < 256) :
    UInt8.ofNat m :: x < UInt8.ofNat n :: y ↔ m < n ∨ m = n ∧ x < y := by
  rw [List.cons_lt_cons_iff, UInt8.lt_iff_toNat_lt, ← UInt8.toNat_inj, UInt8.toNat_ofNat',
    UInt8.toNat_ofNat', Nat.mod_eq_of_lt hm, Nat.mod_eq_of_lt hn]

/-- **The bytes of a smaller character come first**, whatever follows them.

**Proof sketch.** A case for each pair of numbers of bytes. If they differ, so do the first bytes,
and else the digits in base 64 decide. -/
lemma utf8EncodeChar_append_lt {c d : Char} (h : c < d) (x y : Bytes) :
    String.utf8EncodeChar c ++ x < String.utf8EncodeChar d ++ y := by
  have hlt : c.toNat < d.toNat := h
  have hvalid : d.toNat < 0x110000 := by
    have hd : d.toNat < 0xD800 ∨ 0xDFFF < d.toNat ∧ d.toNat < 0x110000 := d.valid
    omega
  have hlast := digits_lt hlt
  have hmiddle := fun h' => @digits_lt (c.toNat / 64) (d.toNat / 64) h'
  have hfirst := fun h' => @digits_lt (c.toNat / 64 / 64) (d.toNat / 64 / 64) h'
  simp only [Nat.div_div_eq_div_mul, Nat.reduceMul] at hmiddle hfirst
  unfold String.utf8EncodeChar
  simp only [show c.val.toNat = c.toNat from rfl, show d.val.toNat = d.toNat from rfl]
  split_ifs <;>
    simp (disch := omega) only [List.cons_append, List.nil_append, ofNat_cons_lt_iff,
      Nat.mod_eq_of_lt]
  all_goals omega

/-! ## Texts -/

/-- The bytes of a smaller text come first.

**Proof sketch.** Induction on the comparison of the texts, with a case for each way in which it can
end. -/
lemma bytesOf_lt {s t : List Char} (h : s < t) : bytesOf s < bytesOf t := by
  induction h with
  | @nil d t =>
    obtain ⟨b, tail, hbytes, -⟩ := exists_step d []
    rw [bytesOf_nil, bytesOf_cons, hbytes]
    exact List.Lex.nil
  | cons _ ih => exact List.append_left_lt ih
  | rel hlt => exact utf8EncodeChar_append_lt hlt _ _

/-- **The order of texts is the order of their bytes.** -/
lemma encode_le_iff {a b : String} : encode a ≤ encode b ↔ a ≤ b := by
  refine not_congr ⟨fun h => ?_, fun h => bytesOf_lt (String.lt_iff_toList_lt.1 h)⟩
  rcases lt_trichotomy b a with hlt | rfl | hlt
  · exact hlt
  · exact absurd h (List.lt_irrefl _)
  · exact absurd (bytesOf_lt (String.lt_iff_toList_lt.1 hlt)) (List.lt_asymm h)

end ClusterDeploy.Utf8
