import ClusterDeploy.Text.Blank
import Mathlib.Data.List.DropRight
import Mathlib.Data.List.TakeWhile
import Mathlib.Tactic.Lemma

set_option relaxedAutoImplicit false
set_option autoImplicit false

/-!
# Blanks and the case of letters

Trimming takes blanks away at the two ends of a text and nothing else, so blanks that are put there
do not count. It does not look at the case of letters: a letter is neither a blank nor a digit, and
a character that is one of these has no case.

## Main definitions

* `Text.Blank` — texts of blanks alone.

## Main results

* `Text.trim_append` — blanks around a text do not count.
* `Text.exists_trim` — a text is what trimming leaves, with blanks around it.
* `Text.trim_foldCase` — the case of letters does not matter to trimming.
-/

namespace ClusterDeploy.Text

variable {before s t after : List Char} {c : Char}

/-- Texts of blanks alone. -/
def Blank (s : List Char) : Prop :=
  ∀ c ∈ s, isBlank c = true

/-- Whether a text consists of blanks can be decided. -/
instance (s : List Char) : Decidable (Blank s) :=
  decidable_of_iff (s.all isBlank = true) List.all_eq_true

lemma blank_nil : Blank [] :=
  fun _ h => nomatch h

/-! ## Trimming -/

/-- Blanks at the front are taken off. -/
lemma trimStart_append (hbefore : Blank before) (s : List Char) :
    trimStart (before ++ s) = trimStart s :=
  List.dropWhile_append_of_pos hbefore

/-- Blanks at the end are taken off. -/
lemma trimEnd_append (hafter : Blank after) (s : List Char) : trimEnd (s ++ after) = trimEnd s := by
  have hreverse : ∀ c ∈ after.reverse, isBlank c = true :=
    fun c hc => hafter c (List.mem_reverse.1 hc)
  rw [trimEnd, List.reverse_append, List.dropWhile_append_of_pos hreverse]
  rfl

/-- Nothing is taken off before a character that is no blank. -/
lemma trimStart_cons (hc : isBlank c = false) (s : List Char) : trimStart (c :: s) = c :: s :=
  List.dropWhile_cons_of_neg (Bool.not_eq_true _ ▸ hc)

/-- What is before a character that is no blank is not touched at the end. -/
lemma trimEnd_append_cons (hc : isBlank c = false) (s t : List Char) :
    trimEnd (s ++ c :: t) = s ++ c :: trimEnd t := by
  induction t using List.reverseRecOn with
  | nil => exact List.rdropWhile_concat_neg _ _ _ (Bool.not_eq_true _ ▸ hc)
  | append_singleton t x ih =>
    rw [← List.cons_append, ← List.append_assoc]
    by_cases hx : isBlank x = true
    · have hblank : Blank [x] := fun y hy => List.mem_singleton.1 hy ▸ hx
      rw [trimEnd_append hblank, trimEnd_append hblank, ih]
    · have hkeep : ∀ u, trimEnd (u ++ [x]) = u ++ [x] :=
        fun u => List.rdropWhile_concat_neg _ u x hx
      rw [hkeep, hkeep, List.append_assoc, List.cons_append]

/-- A text is what is left of its end, with blanks behind it. -/
lemma exists_trimEnd (s : List Char) : ∃ after, Blank after ∧ s = trimEnd s ++ after :=
  ⟨s.rtakeWhile isBlank, fun _ => List.mem_rtakeWhile_imp,
    List.rdropWhile_append_rtakeWhile.symm⟩

/-- **A text is what trimming leaves, with blanks around it.** -/
lemma exists_trim (s : List Char) :
    ∃ before after, Blank before ∧ Blank after ∧ s = before ++ trim s ++ after := by
  obtain ⟨after, hafter, htrim⟩ := exists_trimEnd (trimStart s)
  refine ⟨s.takeWhile isBlank, after, fun _ => List.mem_takeWhile_imp, hafter, ?_⟩
  calc s = s.takeWhile isBlank ++ trimStart s := List.takeWhile_append_dropWhile.symm
    _ = s.takeWhile isBlank ++ (trim s ++ after) := congrArg _ htrim
    _ = s.takeWhile isBlank ++ trim s ++ after := (List.append_assoc _ _ _).symm

/-- **Blanks around a text do not count.** -/
lemma trim_append (hbefore : Blank before) (hafter : Blank after) (s : List Char) :
    trim (before ++ s ++ after) = trim s := by
  rw [trim, List.append_assoc, trimStart_append hbefore, trimStart, List.dropWhile_append]
  split
  · next hempty =>
    -- the text is blank itself, so nothing is left of it in either case
    rw [List.isEmpty_iff] at hempty
    rw [List.dropWhile_eq_nil_iff.2 hafter, trim, trimStart, hempty]
  · exact trimEnd_append hafter _

/-- It does not matter if blanks have been taken off the end before. -/
lemma trim_trimEnd (s : List Char) : trim (trimEnd s) = trim s := by
  obtain ⟨after, hafter, hs⟩ := exists_trimEnd s
  conv_rhs => rw [hs]
  exact (trim_append blank_nil hafter (trimEnd s)).symm

/-- A text without blanks is left as it is. -/
lemma trim_of_forall (hs : ∀ c ∈ s, isBlank c = false) : trim s = s := by
  have hstart : trimStart s = s := by
    cases s with
    | nil => rfl
    | cons c t => exact trimStart_cons (hs c List.mem_cons_self) t
  rw [trim, hstart]
  exact List.rdropWhile_eq_self_iff.2 fun hne =>
    Bool.eq_false_iff.1 (hs _ (List.getLast_mem hne))

/-! ## Letters -/

/-- The digits by their numbers. -/
lemma isDigit_iff : c.isDigit = true ↔ 48 ≤ c.toNat ∧ c.toNat ≤ 57 :=
  Char.isDigit_iff_toNat

/-- The letters by their numbers. -/
lemma isAlpha_iff : c.isAlpha = true ↔
    65 ≤ c.toNat ∧ c.toNat ≤ 90 ∨ 97 ≤ c.toNat ∧ c.toNat ≤ 122 := by
  have hupper : c.isUpper = true ↔ 65 ≤ c.toNat ∧ c.toNat ≤ 90 := decide_eq_true_iff
  have hlower : c.isLower = true ↔ 97 ≤ c.toNat ∧ c.toNat ≤ 122 :=
    Bool.and_eq_true_iff.trans (and_congr decide_eq_true_iff decide_eq_true_iff)
  exact Bool.or_eq_true_iff.trans (or_congr hupper hlower)

/-- Capital letters are 32 places before the small ones. -/
lemma toNat_toLower (c : Char) :
    c.toLower.toNat = if 65 ≤ c.toNat ∧ c.toNat ≤ 90 then c.toNat + 32 else c.toNat := by
  unfold Char.toLower
  split
  · next h =>
    have h' : 65 ≤ c.toNat ∧ c.toNat ≤ 90 := h
    rw [if_pos h']
    change (c.toNat + 32) % 2 ^ 32 = c.toNat + 32
    omega
  · next h => exact (if_neg (show ¬ (65 ≤ c.toNat ∧ c.toNat ≤ 90) from h)).symm

/-- The blanks by their numbers. -/
lemma isBlank_iff : isBlank c = true ↔ 9 ≤ c.toNat ∧ c.toNat ≤ 13 ∨ c.toNat = 32 ∨
    c.toNat = 133 ∨ c.toNat = 160 ∨ c.toNat = 5760 ∨ 8192 ≤ c.toNat ∧ c.toNat ≤ 8202 ∨
    c.toNat = 8232 ∨ c.toNat = 8233 ∨ c.toNat = 8239 ∨ c.toNat = 8287 ∨ c.toNat = 12288 := by
  simp only [isBlank, Bool.or_eq_true, Bool.and_eq_true, decide_eq_true_eq, beq_iff_eq, or_assoc]

/-- A digit is no blank. -/
lemma isBlank_of_isDigit (h : c.isDigit = true) : isBlank c = false := by
  rw [isDigit_iff] at h
  rw [Bool.eq_false_iff, ne_eq, isBlank_iff]
  omega

/-- A blank is no digit. -/
lemma isDigit_of_isBlank (h : isBlank c = true) : c.isDigit = false := by
  rw [isBlank_iff] at h
  rw [Bool.eq_false_iff, ne_eq, isDigit_iff]
  omega

/-- A letter is no blank. -/
lemma isBlank_of_isAlpha (h : c.isAlpha = true) : isBlank c = false := by
  rw [isAlpha_iff] at h
  rw [Bool.eq_false_iff, ne_eq, isBlank_iff]
  omega

/-- A letter is no digit. -/
lemma isDigit_of_isAlpha (h : c.isAlpha = true) : c.isDigit = false := by
  rw [isAlpha_iff] at h
  rw [Bool.eq_false_iff, ne_eq, isDigit_iff]
  omega

/-- Digits are the same as small letters and as capitals. -/
@[simp]
lemma isDigit_toLower (c : Char) : c.toLower.isDigit = c.isDigit := by
  rw [Bool.eq_iff_iff, isDigit_iff, isDigit_iff, toNat_toLower]
  split <;> omega

/-- A character is a blank exactly if it is one as a small letter. -/
@[simp]
lemma isBlank_toLower (c : Char) : isBlank c.toLower = isBlank c := by
  rw [Bool.eq_iff_iff, isBlank_iff, isBlank_iff, toNat_toLower]
  split <;> omega

/-- A character is a letter exactly if it is one as a small letter. -/
@[simp]
lemma isAlpha_toLower (c : Char) : c.toLower.isAlpha = c.isAlpha := by
  rw [Bool.eq_iff_iff, isAlpha_iff, isAlpha_iff, toNat_toLower]
  split <;> omega

/-- A small letter is its own small letter. -/
@[simp]
lemma toLower_toLower (c : Char) : c.toLower.toLower = c.toLower := by
  rw [← Char.toNat_inj, toNat_toLower, toNat_toLower]
  split
  · exact if_neg (by omega)
  · rfl

/-- A character that is no letter has no case. -/
lemma toLower_of_not_isAlpha (h : c.isAlpha = false) : c.toLower = c := by
  rw [Bool.eq_false_iff, ne_eq, isAlpha_iff] at h
  rw [← Char.toNat_inj, toNat_toLower]
  split <;> omega

/-! ## Texts in small letters -/

/-- A text in small letters stays the same. -/
@[simp]
lemma foldCase_foldCase (s : List Char) : foldCase (foldCase s) = foldCase s := by
  rw [foldCase, foldCase, List.map_map]
  exact List.map_congr_left fun c _ => toLower_toLower c

/-- Blanks at the front are the same in small letters. -/
lemma trimStart_foldCase (s : List Char) : trimStart (foldCase s) = foldCase (trimStart s) := by
  have hblank : isBlank ∘ Char.toLower = isBlank := funext isBlank_toLower
  rw [trimStart, foldCase, List.dropWhile_map, hblank]
  rfl

/-- Blanks at the end are the same in small letters. -/
lemma trimEnd_foldCase (s : List Char) : trimEnd (foldCase s) = foldCase (trimEnd s) := by
  have hreverse (t : List Char) : (foldCase t).reverse = foldCase t.reverse := List.map_reverse.symm
  change (trimStart (foldCase s).reverse).reverse = foldCase (trimStart s.reverse).reverse
  rw [hreverse, trimStart_foldCase, hreverse]

/-- **The case of letters does not matter to trimming.** -/
lemma trim_foldCase (s : List Char) : trim (foldCase s) = foldCase (trim s) := by
  rw [trim, trimStart_foldCase, trimEnd_foldCase]
  rfl

/-- Digits have no case. -/
lemma foldCase_of_digits (hs : ∀ c ∈ s, c.isDigit = true) : foldCase s = s := by
  refine (List.map_congr_left fun c hc => ?_).trans (List.map_id s)
  refine toLower_of_not_isAlpha (Bool.eq_false_iff.2 fun halpha => ?_)
  exact Bool.false_ne_true ((isDigit_of_isAlpha halpha).symm.trans (hs c hc))

end ClusterDeploy.Text
