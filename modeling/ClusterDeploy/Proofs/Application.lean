import ClusterDeploy.Application
import ClusterDeploy.Proofs.Text.Numerals
import Mathlib.Data.String.Basic

set_option relaxedAutoImplicit false
set_option autoImplicit false

/-!
# Application ids can be read back

The text form of an id determines it. Nothing but the label and two numbers is read as an id. The
text form also keeps the order of ids, but only of those that are printed in the same number of
digits.

## Main definitions

* `ApplicationId.Denotes` — the texts that denote an id.
* `ApplicationId.SameWidth` — ids whose numbers are printed in the same number of digits.

## Main results

* `ApplicationId.parse_text` — the text form of an id is read as the id.
* `ApplicationId.text_injective` — different ids have different text forms.
* `ApplicationId.parse_eq_some_iff` — what is read as an id.
* `ApplicationId.text_faithful` — what holds of all ids and of all texts.
* `ApplicationId.display_lt_iff` — ids of the same width are in the order of their text forms.
-/

namespace ClusterDeploy.ApplicationId

/-! ## Grammar -/

/-- Texts that denote an id by its two numbers: behind the label, the time, with a plus sign or
without one, and the running number. -/
inductive Denotes : List Char → Nat → Nat → Prop where
  | intro {time number : List Char} {t n : Nat} (htime : Text.UnsignedNumeral time t)
      (hnumber : Text.Numeral number n) :
      Denotes ("application_".toList ++ time ++ '_' :: number) t n

/-- The text form of an id denotes it. -/
lemma denotes_display (id : ApplicationId) :
    Denotes id.display.toList id.clusterTimestamp.toNat id.sequence.toNat := by
  rw [display, String.toList_ofList]
  exact .intro (.plain (Text.numeral_decimal _)) (Text.numeral_padded 4 _)

/-- A label is taken off the front of a text that starts with it. -/
lemma dropLabel_append (label s : List Char) : dropLabel label (label ++ s) = some s := by
  induction label with
  | nil => rfl
  | cons a label ih =>
    rw [List.cons_append, dropLabel, beq_self_eq_true, if_pos rfl]
    exact ih

/-- A label can be taken off exactly if the text starts with it, and the rest is what is left. -/
lemma dropLabel_eq_some_iff {label s rest : List Char} :
    dropLabel label s = some rest ↔ s = label ++ rest := by
  constructor
  · intro h
    induction label generalizing s with
    | nil => exact Option.some.inj h
    | cons a label ih =>
      cases s with
      | nil => exact nomatch h
      | cons b s =>
        rw [dropLabel] at h
        split at h
        · next heq => rw [List.cons_append, ← ih h, beq_iff_eq.1 heq]
        · exact nomatch h
  · rintro rfl
    exact dropLabel_append label rest

/-- The separator is no part of a time. -/
lemma notMem_of_unsignedNumeral {time : List Char} {t : Nat} (h : Text.UnsignedNumeral time t) :
    '_' ∉ time := by
  have hdigits {s : List Char} (hs : Text.Numeral s t) : '_' ∉ s :=
    fun hmem => absurd (hs.isDigit _ hmem) (by decide)
  cases h with
  | plain h => exact hdigits h
  | plus h => exact fun hmem => (List.mem_cons.1 hmem).elim (by decide) (hdigits h)

/-- A text that denotes two numbers of 64 and of 32 bits is read as the id of these.

**Proof sketch.** Each part of the text is read as what it denotes: the label by `dropLabel_append`,
the separator by `Text.splitOnce_append`, and the numbers by `Text.readUnsigned_eq_some_iff` and
`Text.filter_readNatural_eq_some_iff`. -/
lemma parse_of_denotes {text : String} {t n : Nat} (h : Denotes text.toList t n)
    (ht : t < UInt64.size) (hn : n < UInt32.size) :
    parse text = some ⟨UInt64.ofNat t, UInt32.ofNat n⟩ := by
  generalize htext : text.toList = s at h
  cases h with
  | @intro time number _ _ htime hnumber =>
    have hlabel : dropLabel label ("application_".toList ++ (time ++ '_' :: number)) =
        some (time ++ '_' :: number) := dropLabel_append label _
    have hsplit : Text.splitOnce '_' (time ++ '_' :: number) = some (time, number) :=
      Text.splitOnce_append (notMem_of_unsignedNumeral htime)
    unfold parse
    rw [htext, List.append_assoc, hlabel]
    simp only [Option.bind_eq_bind, Option.bind_some, hsplit,
      Text.readUnsigned_eq_some_iff.2 ⟨htime, ht⟩,
      Text.filter_readNatural_eq_some_iff.2 ⟨hnumber, hn⟩]
    rfl

/-- What is read as an id denotes its two numbers. -/
lemma denotes_of_parse {text : String} {id : ApplicationId} (h : parse text = some id) :
    Denotes text.toList id.clusterTimestamp.toNat id.sequence.toNat := by
  obtain ⟨rest, hrest, h⟩ := Option.bind_eq_some_iff.1 h
  obtain ⟨⟨time, number⟩, hsplit, h⟩ := Option.bind_eq_some_iff.1 h
  obtain ⟨t, ht, h⟩ := Option.bind_eq_some_iff.1 h
  obtain ⟨n, hn, h⟩ := Option.bind_eq_some_iff.1 h
  obtain ⟨htime, htbound⟩ := Text.readUnsigned_eq_some_iff.1 ht
  obtain ⟨hnumber, hnbound⟩ := Text.filter_readNatural_eq_some_iff.1 hn
  rw [dropLabel_eq_some_iff.1 hrest, (Text.splitOnce_eq_some_iff.1 hsplit).1, ← Option.some.inj h,
    UInt64.toNat_ofNat_of_lt' htbound, UInt32.toNat_ofNat_of_lt' hnbound, ← List.append_assoc]
  exact .intro htime hnumber

/-- **What is read as an id** denotes it, and all that denotes it is read. -/
lemma parse_eq_some_iff {text : String} {id : ApplicationId} :
    parse text = some id ↔ Denotes text.toList id.clusterTimestamp.toNat id.sequence.toNat := by
  refine ⟨denotes_of_parse, fun h => ?_⟩
  have hparse := parse_of_denotes h id.clusterTimestamp.toNat_lt_size id.sequence.toNat_lt_size
  rwa [UInt64.ofNat_toNat, UInt32.ofNat_toNat] at hparse

/-- **The text form of an id is read as the id.** -/
lemma parse_text (id : ApplicationId) : parse id.display = some id :=
  parse_eq_some_iff.2 (denotes_display id)

/-- Different ids have different text forms. -/
lemma text_injective {a b : ApplicationId} (h : a.display = b.display) : a = b := by
  have hparse : some a = some b := by rw [← parse_text a, h, parse_text b]
  exact Option.some.inj hparse

/-- The texts of ids are those that denote two numbers of 64 and of 32 bits. -/
lemma exists_parse_eq_some_iff {text : String} : (∃ id, parse text = some id) ↔
    ∃ t n, Denotes text.toList t n ∧ t < 2 ^ 64 ∧ n < 2 ^ 32 := by
  constructor
  · rintro ⟨id, h⟩
    exact ⟨_, _, denotes_of_parse h, id.clusterTimestamp.toNat_lt, id.sequence.toNat_lt⟩
  · rintro ⟨t, n, h, ht, hn⟩
    exact ⟨_, parse_of_denotes h ht hn⟩

/-- **The text form of ids is faithful.** Every id is read back from its text form, so different ids
have different text forms. A text is read as an id exactly if it denotes a time of 64 bits and a
running number of 32 bits, and then as the id of these two. The text form of an id that was read
is read as the same id. -/
theorem text_faithful :
    (∀ (clusterTimestamp : UInt64) (sequence : UInt32),
      parse (display ⟨clusterTimestamp, sequence⟩) = some ⟨clusterTimestamp, sequence⟩) ∧
    Function.Injective display ∧
    (∀ text : String, (∃ id, parse text = some id) ↔
      ∃ t n, Denotes text.toList t n ∧ t < 2 ^ 64 ∧ n < 2 ^ 32) ∧
    (∀ (text : String) (id : ApplicationId), parse text = some id ↔
      Denotes text.toList id.clusterTimestamp.toNat id.sequence.toNat) ∧
    ∀ text : String, (parse text).bind (fun id => parse id.display) = parse text := by
  refine ⟨fun _ _ => parse_text _, fun _ _ => text_injective, fun _ => exists_parse_eq_some_iff,
    fun _ _ => parse_eq_some_iff, fun text => ?_⟩
  cases parse text with
  | none => rfl
  | some id => exact parse_text id

/-! ## Order -/

/-- Ids whose numbers are printed in the same number of digits each. -/
structure SameWidth (a b : ApplicationId) : Prop where
  time : (Text.decimal a.clusterTimestamp.toNat).length =
    (Text.decimal b.clusterTimestamp.toNat).length
  number : (Text.padded 4 a.sequence.toNat).length = (Text.padded 4 b.sequence.toNat).length

/-- Numerals of the same length are ordered like their numbers. -/
lemma decimal_lt_iff {m n : Nat} (hlength : (Text.decimal m).length = (Text.decimal n).length) :
    Text.decimal m < Text.decimal n ↔ m < n := by
  rw [← Text.valueOf_lt_iff hlength (fun _ => Text.isDigit_of_mem_decimal)
    (fun _ => Text.isDigit_of_mem_decimal), Text.valueOf_decimal, Text.valueOf_decimal]

/-- **Ids of the same width are in the order of their texts.** -/
lemma display_lt_iff {a b : ApplicationId} (h : SameWidth a b) :
    a.display < b.display ↔ b.le a = false := by
  have htext : ∀ id : ApplicationId, id.display.toList = label ++ (Text.decimal
      id.clusterTimestamp.toNat ++ '_' :: Text.padded 4 id.sequence.toNat) := by
    intro id
    rw [display, String.toList_ofList, List.append_assoc]
  have htime : Text.decimal a.clusterTimestamp.toNat = Text.decimal b.clusterTimestamp.toNat ↔
      a.clusterTimestamp = b.clusterTimestamp := by
    refine ⟨fun heq => ?_, fun heq => by rw [heq]⟩
    rw [← UInt64.toNat_inj, ← Text.valueOf_decimal (n := a.clusterTimestamp.toNat), heq,
      Text.valueOf_decimal]
  rw [String.lt_iff_toList_lt, htext, htext, Text.append_lt_append_iff rfl,
    Text.append_lt_append_iff h.time, decimal_lt_iff h.time, htime, List.cons_lt_cons_iff,
    ← Text.valueOf_lt_iff h.number (fun _ => Text.isDigit_of_mem_padded)
      (fun _ => Text.isDigit_of_mem_padded), Text.valueOf_padded, Text.valueOf_padded,
    ← UInt64.lt_iff_toNat_lt, ← UInt32.lt_iff_toNat_lt]
  have hle : b.le a = true ↔ ¬ (a.clusterTimestamp < b.clusterTimestamp ∨
      a.clusterTimestamp = b.clusterTimestamp ∧ a.sequence < b.sequence) := by
    rw [le, Bool.or_eq_true, Bool.and_eq_true, decide_eq_true_eq, beq_iff_eq, decide_eq_true_eq,
      UInt64.lt_iff_toNat_lt, UInt64.lt_iff_toNat_lt, UInt32.le_iff_toNat_le,
      UInt32.lt_iff_toNat_lt, ← UInt64.toNat_inj, ← UInt64.toNat_inj]
    omega
  rw [Bool.eq_false_iff, ne_eq, hle, not_not]
  simp

end ClusterDeploy.ApplicationId
