import ClusterDeploy.Json.Value
import ClusterDeploy.Proofs.Text.Utf8

set_option relaxedAutoImplicit false
set_option autoImplicit false

/-!
# Strings in JSON documents can be read back

A text is written in quotes, with its quotes, backslashes and control characters escaped. Reading
what was written gives parts that denote the same text.

## Main definitions

* `Json.piecesOf`, `Json.pieces` — the parts as which a character and a text are read.

## Main results

* `Json.readString_quoted` — a text in quotes is read as its parts.
* `Json.text?_pieces` — the parts of a text denote it.

## Implementation notes

Most escapes are letters, which are read as the bytes that they stand for. Only a control character
without a letter is read as a number.
-/

namespace ClusterDeploy.Json

open Utf8 (bytesOf)

/-- Whether a character is written as a number inside a string: it is a control character without a
letter of its own. -/
def isNumbered (c : Char) : Bool :=
  c.toNat < 0x20 && !(['\x08', '\t', '\n', '\x0c', '\r'].contains c)

/-- The parts of a string as which a character is read. -/
def piecesOf (c : Char) : List Piece :=
  if isNumbered c then [.unit c.toNat] else (String.utf8EncodeChar c).map .byte

/-- The parts as which a text is read. -/
def pieces (s : String) : List Piece :=
  s.toList.flatMap piecesOf

/-- Whether a byte stands for itself inside a string. -/
def IsPlain (b : UInt8) : Prop :=
  b ≠ ascii '"' ∧ b ≠ ascii '\\' ∧ ¬b < 0x20

variable {c : Char} {rest : Bytes}

/-! ## One character -/

/-- Bytes that stand for themselves are read as such. -/
lemma readString_append {s : Bytes} (hs : ∀ b ∈ s, IsPlain b) :
    readString (s ++ rest) =
      (readString rest).map fun (pieces, after) => (s.map .byte ++ pieces, after) := by
  induction s with
  | nil => simp
  | cons b s ih =>
    obtain ⟨⟨hquote, hslash, hcontrol⟩, hs⟩ := List.forall_mem_cons.1 hs
    rw [List.cons_append, readString.eq_def]
    simp only [beq_eq_false_iff_ne.2 hquote, beq_eq_false_iff_ne.2 hslash, if_neg hcontrol, ih hs]
    rcases readString rest with _ | ⟨pieces, after⟩ <;> rfl

/-- The bytes of a character that is not escaped stand for themselves. -/
lemma isPlain_of_mem (hquote : c ≠ '"') (hslash : c ≠ '\\') (hcontrol : ¬c.toNat < 0x20) :
    ∀ b ∈ String.utf8EncodeChar c, IsPlain b := by
  intro b hb
  have hother : ∀ d : Char, d.toNat < 0x80 → c ≠ d → b ≠ ascii d := by
    rintro d hd hne rfl
    have hascii : (ascii d).toNat = d.toNat := by
      simp [ascii]
      omega
    rcases Utf8.toNat_of_mem hb with heq | hle
    · exact hne (Char.toNat_inj.1 (by omega))
    · omega
  refine ⟨hother _ (by decide) hquote, hother _ (by decide) hslash, fun hlt => ?_⟩
  rw [UInt8.lt_iff_toNat_lt] at hlt
  rcases Utf8.toNat_of_mem hb with heq | hle
  · exact hcontrol (heq ▸ hlt)
  · exact absurd hlt (by simp; omega)

/-- A letter behind a backslash is read as the byte that it stands for. -/
lemma readString_letter {e b : UInt8} (he : e ≠ ascii 'u') (hb : escapeByte e = some b) :
    readString (ascii '\\' :: e :: rest) =
      (readString rest).map fun (pieces, after) => (.byte b :: pieces, after) := by
  rw [readString.eq_def]
  simp only [show (ascii '\\' == ascii '"') = false by decide, BEq.rfl, if_true,
    beq_eq_false_iff_ne.2 he, hb]
  rcases readString rest with _ | ⟨pieces, after⟩ <;> rfl

/-- The number of a control character is read as this number. -/
lemma readString_number {n : Nat} (hn : n < 0x20) :
    readString (bytesOf ['\\', 'u', '0', '0', Text.hexDigit (n / 16), Text.hexDigit (n % 16)] ++
        rest) =
      (readString rest).map fun (pieces, after) => (.unit n :: pieces, after) := by
  have hdigit : ∀ d < 16, String.utf8EncodeChar (Text.hexDigit d) = [ascii (Text.hexDigit d)] ∧
      hexValue (ascii (Text.hexDigit d)) = some d := by decide
  obtain ⟨htext1, hvalue1⟩ := hdigit (n / 16) (by omega)
  obtain ⟨htext2, hvalue2⟩ := hdigit (n % 16) (by omega)
  have hzero : hexValue (ascii '0') = some 0 := by decide
  have hnumber : ((0 * 16 + 0) * 16 + n / 16) * 16 + n % 16 = n := by omega
  have hbytes : bytesOf ['\\', 'u', '0', '0', Text.hexDigit (n / 16), Text.hexDigit (n % 16)] ++
      rest = ascii '\\' :: ascii 'u' :: ascii '0' :: ascii '0' :: ascii (Text.hexDigit (n / 16)) ::
        ascii (Text.hexDigit (n % 16)) :: rest := by
    simp only [Utf8.bytesOf_cons, Utf8.bytesOf_nil, htext1, htext2]
    rfl
  rw [hbytes, readString.eq_def]
  simp only [show (ascii '\\' == ascii '"') = false by decide, BEq.rfl, if_true, hvalue1, hvalue2,
    hzero, Option.bind_eq_bind, Option.bind_some, hnumber]
  rcases readString rest with _ | ⟨pieces, after⟩ <;> rfl

/-- A character inside a string is read as its parts. -/
lemma readString_escapeChar :
    readString (bytesOf (escapeChar c) ++ rest) =
      (readString rest).map fun (pieces, after) => (piecesOf c ++ pieces, after) := by
  unfold escapeChar
  split_ifs with hquote hslash h8 h9 h10 h12 h13 hcontrol
  · subst hquote
    exact readString_letter (e := ascii '"') (by decide) rfl
  · subst hslash
    exact readString_letter (e := ascii '\\') (by decide) rfl
  · subst h8
    exact readString_letter (e := ascii 'b') (by decide) rfl
  · subst h9
    exact readString_letter (e := ascii 't') (by decide) rfl
  · subst h10
    exact readString_letter (e := ascii 'n') (by decide) rfl
  · subst h12
    exact readString_letter (e := ascii 'f') (by decide) rfl
  · subst h13
    exact readString_letter (e := ascii 'r') (by decide) rfl
  · have hnumbered : isNumbered c = true := by simp [isNumbered, h8, h9, h10, h12, h13, hcontrol]
    rw [piecesOf, if_pos hnumbered]
    exact readString_number hcontrol
  · have hnumbered : isNumbered c = false := by simp [isNumbered, hcontrol]
    rw [piecesOf, hnumbered, Utf8.bytesOf_cons, Utf8.bytesOf_nil, List.append_nil]
    exact readString_append (isPlain_of_mem hquote hslash hcontrol)

/-- The parts of a character denote its bytes. -/
lemma stringBytes_piecesOf (more : List Piece) :
    stringBytes (piecesOf c ++ more) = (stringBytes more).map (String.utf8EncodeChar c ++ ·) := by
  unfold piecesOf
  split_ifs with hnumbered
  · have hsmall : c.toNat < 0x20 := by
      unfold isNumbered at hnumbered
      exact of_decide_eq_true (Bool.and_eq_true _ _ ▸ hnumbered).1
    rw [List.singleton_append, stringBytes.eq_def]
    simp only [if_pos (Or.inl (show c.toNat < 0xD800 by omega)), Char.ofNat_toNat]
  · generalize String.utf8EncodeChar c = s
    induction s with
    | nil => simp
    | cons b s ih =>
      rw [List.map_cons, List.cons_append, stringBytes, ih, Option.map_map]
      rfl

/-! ## Texts -/

/-- **A text in quotes is read as its parts**, up to the closing quote. -/
lemma readString_quoted (s : List Char) :
    readString (bytesOf (s.flatMap escapeChar) ++ ascii '"' :: rest) =
      some (s.flatMap piecesOf, rest) := by
  induction s with
  | nil =>
    rw [List.flatMap_nil, Utf8.bytesOf_nil, List.nil_append, readString.eq_def]
    rfl
  | cons c s ih =>
    rw [List.flatMap_cons, Utf8.bytesOf_append, List.append_assoc, readString_escapeChar, ih]
    rfl

/-- **The parts of a text denote it.** -/
@[simp]
lemma text?_pieces (s : String) : text? (pieces s) = some s := by
  have hbytes : ∀ l : List Char, stringBytes (l.flatMap piecesOf) = some (bytesOf l) := by
    intro l
    induction l with
    | nil => rfl
    | cons c l ih =>
      rw [List.flatMap_cons, stringBytes_piecesOf, ih]
      rfl
  rw [text?, pieces, hbytes]
  exact Utf8.decode?_encode s

end ClusterDeploy.Json
