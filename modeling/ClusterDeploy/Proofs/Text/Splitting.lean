import ClusterDeploy.Text.FileName
import Mathlib.Tactic.Lemma

set_option relaxedAutoImplicit false
set_option autoImplicit false

/-!
# The parts of a text between separators

A text that is split at a separator has at least one part, and no part has the separator in it. The
parts with a separator before each of them are the text again, with a separator before it.

## Main results

* `Text.splitAt_append` — the parts of two texts with a separator between them.
* `Text.flatMap_splitAt` — the parts with the separators are the text again.
-/

namespace ClusterDeploy.Text

variable {c : Char} {s t part : List Char}

/-- A text has at least one part. -/
lemma splitAt_ne_nil (c : Char) (s : List Char) : splitAt c s ≠ [] := by
  cases s with
  | nil => exact List.cons_ne_nil _ _
  | cons x s =>
    unfold splitAt
    split
    · exact List.cons_ne_nil _ _
    · split <;> exact List.cons_ne_nil _ _

/-- A character at which a text is split at its front makes an empty first part. -/
lemma splitAt_cons_self (c : Char) (s : List Char) : splitAt c (c :: s) = [] :: splitAt c s := by
  rw [splitAt, if_pos (beq_self_eq_true c)]

/-- A character that is no separator belongs to the first part. -/
lemma splitAt_cons_of_ne {x : Char} (hx : x ≠ c) {first : List Char} {others : List (List Char)}
    (h : splitAt c s = first :: others) : splitAt c (x :: s) = (x :: first) :: others := by
  rw [splitAt, if_neg (by simpa using hx), h]

/-- **The parts of two texts with a separator between them** are those of the one and the other. -/
lemma splitAt_append (c : Char) (s t : List Char) :
    splitAt c (s ++ c :: t) = splitAt c s ++ splitAt c t := by
  induction s with
  | nil => exact splitAt_cons_self c t
  | cons x s ih =>
    by_cases hx : x = c
    · subst hx
      rw [List.cons_append, splitAt_cons_self, splitAt_cons_self, ih, List.cons_append]
    · obtain ⟨first, others, hs⟩ := List.exists_cons_of_ne_nil (splitAt_ne_nil c s)
      rw [hs, List.cons_append] at ih
      rw [List.cons_append, splitAt_cons_of_ne hx ih, splitAt_cons_of_ne hx hs, List.cons_append]

/-- A text without the separator is its only part. -/
lemma splitAt_of_notMem (h : c ∉ s) : splitAt c s = [s] := by
  induction s with
  | nil => rfl
  | cons x s ih =>
    rw [List.mem_cons, not_or] at h
    exact splitAt_cons_of_ne (Ne.symm h.1) (ih h.2)

/-- No part has the separator in it. -/
lemma notMem_of_mem_splitAt (h : part ∈ splitAt c s) : c ∉ part := by
  induction s generalizing part with
  | nil =>
    rw [List.mem_singleton.1 h]
    exact List.not_mem_nil
  | cons x s ih =>
    by_cases hx : x = c
    · subst hx
      rw [splitAt_cons_self, List.mem_cons] at h
      rcases h with rfl | h
      · exact List.not_mem_nil
      · exact ih h
    · obtain ⟨first, others, hs⟩ := List.exists_cons_of_ne_nil (splitAt_ne_nil c s)
      rw [splitAt_cons_of_ne hx hs, List.mem_cons] at h
      rw [hs] at ih
      rcases h with rfl | h
      · rw [List.mem_cons, not_or]
        exact ⟨Ne.symm hx, ih List.mem_cons_self⟩
      · exact ih (List.mem_cons_of_mem _ h)

/-- **The parts with a separator before each of them** are the text with a separator before it. -/
lemma flatMap_splitAt (c : Char) (s : List Char) : (splitAt c s).flatMap (c :: ·) = c :: s := by
  induction s with
  | nil => rfl
  | cons x s ih =>
    by_cases hx : x = c
    · subst hx
      rw [splitAt_cons_self, List.flatMap_cons, ih]
      rfl
    · obtain ⟨first, others, hs⟩ := List.exists_cons_of_ne_nil (splitAt_ne_nil c s)
      rw [hs, List.flatMap_cons, List.cons_append] at ih
      rw [splitAt_cons_of_ne hx hs, List.flatMap_cons, List.cons_append, List.cons_append,
        List.tail_eq_of_cons_eq ih]

end ClusterDeploy.Text
