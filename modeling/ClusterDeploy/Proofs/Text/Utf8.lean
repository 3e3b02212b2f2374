import ClusterDeploy.Text.Utf8
import Mathlib.Tactic.Lemma
import Mathlib.Tactic.SplitIfs

set_option relaxedAutoImplicit false
set_option autoImplicit false

/-!
# The bytes of a text can be read back

The bytes of a text are well-formed and are read as its characters. So a text that was turned into
bytes comes back as it was, and it does so too if its bytes stand before others that are no text.

## Main definitions

* `Utf8.bytesOf` — the bytes of characters.

## Main results

* `Utf8.exists_step` — the bytes of one character are read as this character.
* `Utf8.decode?_encode`, `Utf8.decodeLossy_encode` — the bytes of a text are read as this text.
* `Utf8.decodeLossy_append` — a text survives before bytes that are no text.
-/

namespace ClusterDeploy.Utf8

/-- The bytes of characters. -/
def bytesOf (s : List Char) : Bytes :=
  s.flatMap String.utf8EncodeChar

@[simp]
lemma bytesOf_nil : bytesOf [] = [] :=
  rfl

/-- The bytes of the first character come first. -/
@[simp]
lemma bytesOf_cons (c : Char) (s : List Char) :
    bytesOf (c :: s) = String.utf8EncodeChar c ++ bytesOf s :=
  rfl

/-- The bytes of two texts follow one another. -/
@[simp]
lemma bytesOf_append (s t : List Char) : bytesOf (s ++ t) = bytesOf s ++ bytesOf t :=
  List.flatMap_append

/-- A text is encoded as the bytes of its characters. -/
lemma encode_eq (s : String) : encode s = bytesOf s.toList :=
  rfl

/-- Characters are encoded one after the other. -/
@[simp]
lemma encode_ofList (s : List Char) : encode (String.ofList s) = bytesOf s := by
  rw [encode_eq, String.toList_ofList]

/-- Every character has a byte of its own. -/
lemma length_le_bytesOf (s : List Char) : s.length ≤ (bytesOf s).length := by
  induction s with
  | nil => simp
  | cons c s ih =>
    have hpos := Char.utf8Size_pos c
    rw [bytesOf_cons, List.length_append, List.length_cons, String.length_utf8EncodeChar]
    omega

/-- A byte of a character is its number, if that is small, and a large byte otherwise. -/
lemma toNat_of_mem {c : Char} {b : UInt8} (hb : b ∈ String.utf8EncodeChar c) :
    b.toNat = c.toNat ∨ 0x80 ≤ b.toNat := by
  have hlarge : ∀ n : Nat, 0x80 ≤ n → n < 256 → 0x80 ≤ (UInt8.ofNat n).toNat := by
    intro n hlo hhi
    simp
    omega
  unfold String.utf8EncodeChar at hb
  simp only [show c.val.toNat = c.toNat from rfl] at hb
  split_ifs at hb with h1 h2 h3
  · obtain rfl := List.mem_singleton.1 hb
    left
    simp
    omega
  all_goals
    right
    simp only [List.mem_cons, List.not_mem_nil, or_false] at hb
  · rcases hb with rfl | rfl <;> exact hlarge _ (by omega) (by omega)
  · rcases hb with rfl | rfl | rfl <;> exact hlarge _ (by omega) (by omega)
  · rcases hb with rfl | rfl | rfl | rfl <;> exact hlarge _ (by omega) (by omega)

/-! ## One character -/

section Step

variable {a b c d : UInt8} {rest : Bytes}

/-- A byte below 128 is a character by itself. -/
lemma step_one (ha : a.toNat < 0x80) : step a rest = (some (Char.ofNat a.toNat), 0) := by
  unfold step
  rw [if_pos (UInt8.lt_iff_toNat_lt.2 ha)]

/-- A first byte of two, with a second one that fits, is a character. -/
lemma step_two (hlo : 0xC2 ≤ a.toNat) (hhi : a.toNat ≤ 0xDF) (hb : b.toNat / 64 = 2) :
    step a (b :: rest) = (some (Char.ofNat ((a.toNat - 0xC0) * 64 + payload b)), 1) := by
  have hlarge : ¬a.toNat < 128 := by omega
  have hb1 : 128 ≤ b.toNat := by omega
  have hb2 : b.toNat ≤ 191 := by omega
  simp [step, UInt8.lt_iff_toNat_lt, UInt8.le_iff_toNat_le, hlarge, hb1, hb2, hlo, hhi]

/-- Three bytes are read as one character, unless two would do or they stand for half of a pair. -/
lemma step_three (hlo : 0xE0 ≤ a.toNat) (hhi : a.toNat ≤ 0xEF) (hb : b.toNat / 64 = 2)
    (hc : c.toNat / 64 = 2) (hlong : a.toNat = 0xE0 → 0xA0 ≤ b.toNat)
    (hhalf : a.toNat = 0xED → b.toNat ≤ 0x9F) :
    step a (b :: c :: rest) =
      (some (Char.ofNat (((a.toNat - 0xE0) * 64 + payload b) * 64 + payload c)), 2) := by
  have hlarge : ¬a.toNat < 128 := by omega
  have hlarger : ¬a.toNat ≤ 223 := by omega
  have hc1 : 128 ≤ c.toNat := by omega
  have hc2 : c.toNat ≤ 191 := by omega
  have hb1 : (if a = 0xE0 then (0xA0 : UInt8) else 0x80) ≤ b := by
    split_ifs with ha <;> rw [UInt8.le_iff_toNat_le]
    · exact hlong (by rw [ha]; rfl)
    · exact show 128 ≤ b.toNat by omega
  have hb2 : b ≤ (if a = 0xED then (0x9F : UInt8) else 0xBF) := by
    split_ifs with ha <;> rw [UInt8.le_iff_toNat_le]
    · exact hhalf (by rw [ha]; rfl)
    · exact show b.toNat ≤ 191 by omega
  simp only [step, beq_iff_eq, hb1, hb2, decide_true, Bool.and_true, Bool.not_true]
  simp [UInt8.lt_iff_toNat_lt, UInt8.le_iff_toNat_le, hlarge, hlarger, hc1, hc2, hlo, hhi]

/-- Four bytes are read as one character, unless three would do or its number is too large. -/
lemma step_four (hlo : 0xF0 ≤ a.toNat) (hhi : a.toNat ≤ 0xF4) (hb : b.toNat / 64 = 2)
    (hc : c.toNat / 64 = 2) (hd : d.toNat / 64 = 2) (hlong : a.toNat = 0xF0 → 0x90 ≤ b.toNat)
    (hhigh : a.toNat = 0xF4 → b.toNat ≤ 0x8F) :
    step a (b :: c :: d :: rest) = (some (Char.ofNat
      ((((a.toNat - 0xF0) * 64 + payload b) * 64 + payload c) * 64 + payload d)), 3) := by
  have hlarge : ¬a.toNat < 128 := by omega
  have hlarger : ¬a.toNat ≤ 223 := by omega
  have hlargest : ¬a.toNat ≤ 239 := by omega
  have hc1 : 128 ≤ c.toNat := by omega
  have hc2 : c.toNat ≤ 191 := by omega
  have hd1 : 128 ≤ d.toNat := by omega
  have hd2 : d.toNat ≤ 191 := by omega
  have hb1 : (if a = 0xF0 then (0x90 : UInt8) else 0x80) ≤ b := by
    split_ifs with ha <;> rw [UInt8.le_iff_toNat_le]
    · exact hlong (by rw [ha]; rfl)
    · exact show 128 ≤ b.toNat by omega
  have hb2 : b ≤ (if a = 0xF4 then (0x8F : UInt8) else 0xBF) := by
    split_ifs with ha <;> rw [UInt8.le_iff_toNat_le]
    · exact hhigh (by rw [ha]; rfl)
    · exact show b.toNat ≤ 191 by omega
  simp only [step, beq_iff_eq, hb1, hb2, decide_true, Bool.and_true, Bool.not_true]
  simp [UInt8.lt_iff_toNat_lt, UInt8.le_iff_toNat_le, hlarge, hlarger, hlargest, hc1, hc2, hd1, hd2,
    hlo, hhi]

end Step

/-- **The bytes of one character are read as this character**, whatever follows them.

**Proof sketch.** A case for each number of bytes. The digits of the number in base 64 are put
together again; a number that has its shortest form is not below the range of this form, and a
character is no half of a pair. -/
lemma exists_step (c : Char) (rest : Bytes) : ∃ a tail, String.utf8EncodeChar c = a :: tail ∧
    step a (tail ++ rest) = (some c, tail.length) := by
  have hvalid : c.toNat < 0xD800 ∨ 0xDFFF < c.toNat ∧ c.toNat < 0x110000 := c.valid
  unfold String.utf8EncodeChar
  simp only [show c.val.toNat = c.toNat from rfl]
  -- a case for each number of bytes
  split_ifs with h1 h2 h3
  · refine ⟨_, _, rfl, ?_⟩
    have ha : (UInt8.ofNat c.toNat).toNat = c.toNat := by simp; omega
    rw [List.nil_append, step_one (by omega), ha, Char.ofNat_toNat]
    rfl
  · refine ⟨_, _, rfl, ?_⟩
    have ha : (UInt8.ofNat (c.toNat / 64 % 32 + 192)).toNat = c.toNat / 64 + 192 := by simp; omega
    have hb : (UInt8.ofNat (c.toNat % 64 + 128)).toNat = c.toNat % 64 + 128 := by simp; omega
    have hnumber : (c.toNat / 64 + 192 - 192) * 64 + (c.toNat % 64 + 128) % 64 = c.toNat := by omega
    rw [List.singleton_append, step_two (by omega) (by omega) (by omega), payload, ha, hb, hnumber,
      Char.ofNat_toNat]
    rfl
  · refine ⟨_, _, rfl, ?_⟩
    have ha : (UInt8.ofNat (c.toNat / 4096 % 16 + 224)).toNat = c.toNat / 4096 + 224 := by
      simp
      omega
    have hb : (UInt8.ofNat (c.toNat / 64 % 64 + 128)).toNat = c.toNat / 64 % 64 + 128 := by
      simp
      omega
    have hc : (UInt8.ofNat (c.toNat % 64 + 128)).toNat = c.toNat % 64 + 128 := by simp; omega
    have hnumber : ((c.toNat / 4096 + 224 - 224) * 64 + (c.toNat / 64 % 64 + 128) % 64) * 64 +
        (c.toNat % 64 + 128) % 64 = c.toNat := by omega
    rw [List.cons_append, List.singleton_append, step_three (by omega) (by omega) (by omega)
      (by omega) (by omega) (by omega), payload, payload, ha, hb, hc, hnumber, Char.ofNat_toNat]
    rfl
  · refine ⟨_, _, rfl, ?_⟩
    have ha : (UInt8.ofNat (c.toNat / 262144 % 8 + 240)).toNat = c.toNat / 262144 + 240 := by
      simp
      omega
    have hb : (UInt8.ofNat (c.toNat / 4096 % 64 + 128)).toNat = c.toNat / 4096 % 64 + 128 := by
      simp
      omega
    have hc : (UInt8.ofNat (c.toNat / 64 % 64 + 128)).toNat = c.toNat / 64 % 64 + 128 := by
      simp
      omega
    have hd : (UInt8.ofNat (c.toNat % 64 + 128)).toNat = c.toNat % 64 + 128 := by simp; omega
    have hnumber : (((c.toNat / 262144 + 240 - 240) * 64 + (c.toNat / 4096 % 64 + 128) % 64) * 64 +
        (c.toNat / 64 % 64 + 128) % 64) * 64 + (c.toNat % 64 + 128) % 64 = c.toNat := by omega
    rw [List.cons_append, List.cons_append, List.singleton_append, step_four (by omega) (by omega)
      (by omega) (by omega) (by omega) (by omega) (by omega), payload, payload, payload, ha, hb, hc,
      hd, hnumber, Char.ofNat_toNat]
    rfl

/-! ## Texts -/

/-- The bytes of characters are read as these characters, whatever follows them. -/
lemma characters_append (s : List Char) (rest : Bytes) :
    characters (bytesOf s ++ rest) = s.map some ++ characters rest := by
  induction s with
  | nil => rfl
  | cons c s ih =>
    obtain ⟨a, tail, hc, hstep⟩ := exists_step c (bytesOf s ++ rest)
    rw [bytesOf_cons, hc, List.cons_append, List.cons_append, characters, List.append_assoc,
      hstep, List.drop_left, ih]
    rfl

/-- The characters of a text are read back from its bytes. -/
lemma characters_encode (s : String) : characters (encode s) = s.toList.map some := by
  have h := characters_append s.toList []
  rwa [List.append_nil, characters, List.append_nil] at h

/-- **The bytes of a text are well-formed**, and are read as this text. -/
@[simp]
lemma decode?_encode (s : String) : decode? (encode s) = some s := by
  have hall : ∀ l : List Char, (l.map some).mapM id = some l := by
    intro l
    induction l with
    | nil => rfl
    | cons c l ih => simp [ih]
  rw [decode?, characters_encode, hall, Option.map_some, String.ofList_toList]

/-- Different characters have different bytes. -/
lemma bytesOf_injective {s t : List Char} (h : bytesOf s = bytesOf t) : s = t := by
  have hsome : some (String.ofList s) = some (String.ofList t) := by
    rw [← decode?_encode, ← decode?_encode, encode_ofList, encode_ofList, h]
  exact String.ofList_injective (Option.some.inj hsome)

/-- **A text survives**, whatever becomes of the bytes behind it. -/
lemma decodeLossy_append (s : String) (rest : Bytes) :
    decodeLossy (encode s ++ rest) = s ++ decodeLossy rest := by
  unfold decodeLossy
  rw [encode_eq, characters_append, List.map_append, List.map_map, String.ofList_append]
  congr 1
  exact (congrArg String.ofList (List.map_id' s.toList)).trans (String.ofList_toList)

/-- A text is read back from its bytes. -/
@[simp]
lemma decodeLossy_encode (s : String) : decodeLossy (encode s) = s := by
  have hnone : decodeLossy [] = "" := by
    rw [decodeLossy, characters, List.map_nil, String.ofList_nil]
  have h := decodeLossy_append s []
  rwa [List.append_nil, hnone, String.append_empty] at h

end ClusterDeploy.Utf8
