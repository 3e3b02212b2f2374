import ClusterDeploy.Proofs.Text.Blanks
import ClusterDeploy.Proofs.Text.Numerals
import ClusterDeploy.Quantity

set_option relaxedAutoImplicit false
set_option autoImplicit false

/-!
# What is read as a quantity

A text is read as a quantity if it is the digits of a number and the name of a unit, whatever blanks
are around and between them, whatever zeros are before the number and whatever the case of the
letters is. Nothing else is read, and nothing whose size does not fit in 64 bits.

## Main definitions

* `Quantity.Denotes` — the texts that denote a number of units.
* `Quantity.Irregular` — texts with a sign, with a fraction or with a second number.
* `Quantity.Respelled` — texts that differ in what does not count.
* `Quantity.Units` — units that a text can be read with.

## Main results

* `Quantity.read_number` — a text is read by its number and by what is behind the number.
* `Quantity.read_of_respelled` — what does not count.
* `Quantity.Units.read_of_denotes` — how a text that denotes a number of units is read.
* `Quantity.Units.read_eq_ok_iff`, `Quantity.Units.read_eq_error_iff` — what is read, and what not.
* `Quantity.Units.not_denotes_of_irregular` — what denotes no number of units.

## Implementation notes

Behind the blanks at its start every text has a number or none (`Quantity.exists_number`). Only
`Quantity.read_number` and `Quantity.read_noDigit` look at how a text is taken apart.
-/

namespace ClusterDeploy.Quantity

open Text (Blank Numeral foldCase trim trimEnd trimStart)

variable {sizeOf : String → Option Nat} {before digits between name after rest : List Char}
  {number n size : Nat} {unit : String} {names : List String} {s t : List Char}

/-! ## Grammar -/

/-- Texts that denote a number of units, where `names` are the names of the unit in small letters:
the digits of the number and a name, with blanks around and between them. -/
inductive Denotes (names : List String) : List Char → Nat → Prop where
  | intro {before digits between name after : List Char} {number : Nat} (hbefore : Blank before)
      (hdigits : Numeral digits number) (hbetween : Blank between)
      (hname : String.ofList (foldCase name) ∈ names) (hafter : Blank after) :
      Denotes names (before ++ digits ++ between ++ name ++ after) number

/-- Texts with a minus sign, with a mark before the digits of a fraction, or with digits behind
something else that is behind digits. -/
inductive Irregular (s : List Char) : Prop where
  | negative (h : '-' ∈ s)
  | fractional (h : '.' ∈ s ∨ ',' ∈ s)
  | compound {c x d : Char} (hc : c.isDigit = true) (hx : x.isDigit = false)
      (hd : d.isDigit = true) (h : [c, x, d].Sublist s)

/-- Texts that do not begin with a digit. -/
def NoDigit (s : List Char) : Prop :=
  ∀ c ∈ s.head?, c.isDigit = false

/-- Texts that differ in what does not count: in zeros before a number, in blanks around a text, in
blanks behind a number, or in the case of letters. -/
inductive Respelled : List Char → List Char → Prop where
  | zeros {before rest : List Char} {d : Char} (hbefore : Blank before) (hd : d.isDigit = true)
      (count : Nat) :
      Respelled (before ++ List.replicate count '0' ++ d :: rest) (before ++ d :: rest)
  | blanksAround {before after : List Char} (hbefore : Blank before) (hafter : Blank after)
      (s : List Char) : Respelled (before ++ s ++ after) s
  | blanksBetween {before digits between rest : List Char} {number : Nat} (hbefore : Blank before)
      (hdigits : Numeral digits number) (hbetween : Blank between) (hrest : NoDigit rest) :
      Respelled (before ++ digits ++ (between ++ rest)) (before ++ digits ++ rest)
  | letterCase {s t : List Char} (h : foldCase s = foldCase t) : Respelled s t

/-- A number and the name of a unit right behind it denote so many units. -/
lemma denotes_decimal (hname : String.ofList (foldCase name) ∈ names) (n : Nat) :
    Denotes names (Text.decimal n ++ name) n := by
  have h : Denotes names ([] ++ Text.decimal n ++ [] ++ name ++ []) n :=
    .intro Text.blank_nil (Text.numeral_decimal n) Text.blank_nil hname Text.blank_nil
  rwa [List.nil_append, List.append_nil, List.append_nil] at h

/-! ## Where a number ends -/

/-- No digit comes to the front when blanks are taken off the end. -/
lemma NoDigit.trimEnd (h : NoDigit s) : NoDigit (trimEnd s) := by
  obtain ⟨after, -, hs⟩ := Text.exists_trimEnd s
  intro c hc
  refine h c ?_
  rw [hs, List.head?_append, Option.mem_def.1 hc]
  rfl

/-- No digit comes to the front when blanks are put there. -/
lemma NoDigit.append (hbetween : Blank between) (hrest : NoDigit rest) :
    NoDigit (between ++ rest) := by
  cases between with
  | nil => exact hrest
  | cons b between =>
    rintro _ ⟨⟩
    exact Text.isDigit_of_isBlank (hbetween b List.mem_cons_self)

/-- No digit comes to the front when capitals become small letters. -/
lemma noDigit_foldCase (h : NoDigit s) : NoDigit (foldCase s) := by
  intro c hc
  rw [foldCase, List.head?_map] at hc
  obtain ⟨a, ha, rfl⟩ := Option.map_eq_some_iff.1 hc
  exact (Text.isDigit_toLower a).trans (h a ha)

/-- No digit is at the front when all digits have been taken off it. -/
lemma noDigit_dropWhile (s : List Char) : NoDigit (s.dropWhile Char.isDigit) := by
  intro c hc
  have hstop := List.head?_dropWhile_not Char.isDigit s
  rwa [Option.mem_def.1 hc] at hstop

/-- The digits of a number end where no digit follows. -/
lemma span_digits (hdigits : ∀ c ∈ digits, c.isDigit = true) (hrest : NoDigit rest) :
    (digits ++ rest).takeWhile Char.isDigit = digits ∧
      (digits ++ rest).dropWhile Char.isDigit = rest := by
  rw [List.takeWhile_append_of_pos hdigits, List.dropWhile_append_of_pos hdigits]
  cases rest with
  | nil => exact ⟨List.append_nil _, rfl⟩
  | cons c rest =>
    have hc : ¬ c.isDigit = true := Bool.eq_false_iff.1 (hrest c rfl)
    rw [List.takeWhile_cons_of_neg hc, List.dropWhile_cons_of_neg hc, List.append_nil]
    exact ⟨rfl, rfl⟩

/-- A number is not touched by trimming: neither its first digit nor its last one is a blank. -/
lemma trim_number (hbefore : Blank before) (hdigits : Numeral digits number) (rest : List Char) :
    trim (before ++ digits ++ rest) = digits ++ trimEnd rest := by
  have hblank : ∀ c ∈ digits, Text.isBlank c = false :=
    fun c hc => Text.isBlank_of_isDigit (hdigits.isDigit c hc)
  have hstart : trimStart (before ++ digits ++ rest) = digits ++ rest := by
    rw [List.append_assoc, Text.trimStart_append hbefore]
    obtain ⟨c, cs, rfl⟩ := List.exists_cons_of_ne_nil hdigits.ne_nil
    exact Text.trimStart_cons (hblank c List.mem_cons_self) _
  obtain ⟨init, d, rfl⟩ := List.eq_nil_or_concat digits |>.resolve_left hdigits.ne_nil
  rw [List.concat_eq_append] at hblank hstart ⊢
  rw [trim, hstart, List.append_assoc, List.append_assoc]
  exact Text.trimEnd_append_cons (hblank d List.mem_concat_self) init rest

/-- **Behind the blanks at its start a text has a number or none.** -/
lemma exists_number (s : List Char) :
    (∃ before digits number rest, Blank before ∧ Numeral digits number ∧ NoDigit rest ∧
      s = before ++ digits ++ rest) ∨ NoDigit (trim s) := by
  by_cases hempty : (trimStart s).takeWhile Char.isDigit = []
  · right
    have hdrop : (trimStart s).dropWhile Char.isDigit = trimStart s := by
      conv_rhs => rw [← List.takeWhile_append_dropWhile (p := Char.isDigit) (l := trimStart s)]
      rw [hempty, List.nil_append]
    exact (hdrop ▸ noDigit_dropWhile (trimStart s)).trimEnd
  · left
    refine ⟨s.takeWhile Text.isBlank, (trimStart s).takeWhile Char.isDigit, _,
      (trimStart s).dropWhile Char.isDigit, fun _ => List.mem_takeWhile_imp,
      Text.numeral_valueOf hempty fun _ => List.mem_takeWhile_imp, noDigit_dropWhile _, ?_⟩
    rw [List.append_assoc, List.takeWhile_append_dropWhile]
    exact List.takeWhile_append_dropWhile.symm

/-- A part of a text that does not begin in the first half of it is a part of the other half. -/
private lemma sublist_of_notMem {c : Char} {front : List Char} (h : (c :: s).Sublist (front ++ t))
    (hc : c ∉ front) : (c :: s).Sublist t := by
  induction front with
  | nil => exact h
  | cons a front ih =>
    rw [List.mem_cons, not_or] at hc
    cases h with
    | cons _ h => exact ih h hc.2
    | cons_cons => exact absurd rfl hc.1

/-! ## Reading -/

/-- The size of a number of units of a name. -/
def amount (sizeOf : String → Option Nat) (number : Nat) (name : String) : Except Fault Nat :=
  if limit ≤ number then .error .outOfRange
  else match sizeOf name with
    | none => .error (.unknownUnit name)
    | some size => if limit ≤ number * size then .error .outOfRange else .ok (number * size)

/-- The number fits in 64 bits if the size does. -/
lemma amount_of_size (hsize : sizeOf unit = some size) (hpos : 0 < size) :
    amount sizeOf number unit =
      if number * size < limit then .ok (number * size) else .error .outOfRange := by
  have hle : number ≤ number * size := Nat.le_mul_of_pos_right _ hpos
  unfold amount
  rw [hsize]
  by_cases hfits : number * size < limit
  · rw [if_neg (by omega), if_pos hfits]
    exact if_neg (by omega)
  · rw [if_neg hfits]
    split
    · rfl
    · exact if_pos (by omega)

/-- There is no size without a unit. -/
lemma exists_size_of_amount (h : amount sizeOf number unit = .ok n) :
    ∃ size, sizeOf unit = some size := by
  unfold amount at h
  split at h
  · exact nomatch h
  · split at h
    · exact nomatch h
    · next size hsize => exact ⟨size, hsize⟩

/-- **A text with a number** behind the blanks at its start is read by this number and by what is
behind it, without blanks and in small letters. -/
lemma read_number (hbefore : Blank before) (hdigits : Numeral digits number)
    (hrest : NoDigit rest) : read sizeOf (before ++ digits ++ rest) =
      amount sizeOf number (String.ofList (foldCase (trim rest))) := by
  obtain ⟨htake, hdrop⟩ := span_digits hdigits.isDigit hrest.trimEnd
  have hne : ¬ digits.isEmpty = true := mt List.isEmpty_iff.1 hdigits.ne_nil
  simp only [read]
  rw [trim_number hbefore hdigits, htake, hdrop, if_neg hne, hdigits.valueOf_eq, Text.trim_trimEnd]
  rfl

/-- A text without a number behind the blanks at its start is no quantity. -/
lemma read_noDigit (h : NoDigit (trim s)) : read sizeOf s = .error .noNumber := by
  have htake : (trim s).takeWhile Char.isDigit = [] :=
    (@span_digits [] (trim s) (List.forall_mem_nil _) h).1
  simp only [read]
  rw [htake]
  rfl

/-- Blanks around a quantity do not matter. -/
lemma read_of_trim_eq (h : trim s = trim t) : read sizeOf s = read sizeOf t := by
  simp only [read]
  rw [h]

/-- Capitals in a quantity are read as small letters. -/
lemma read_foldCase (s : List Char) : read sizeOf (foldCase s) = read sizeOf s := by
  rcases exists_number s with ⟨before, digits, number, rest, hbefore, hdigits, hrest, rfl⟩ | hnone
  · have hblank : Blank (foldCase before) := by
      intro c hc
      obtain ⟨a, ha, rfl⟩ := List.mem_map.1 hc
      exact (Text.isBlank_toLower a).trans (hbefore a ha)
    have hparts : foldCase (before ++ digits ++ rest) =
        foldCase before ++ digits ++ foldCase rest := by
      conv_rhs => rw [← Text.foldCase_of_digits hdigits.isDigit]
      rw [foldCase, List.map_append, List.map_append]
      rfl
    rw [hparts, read_number hblank hdigits (noDigit_foldCase hrest),
      read_number hbefore hdigits hrest, Text.trim_foldCase, Text.foldCase_foldCase]
  · have hnone' : NoDigit (trim (foldCase s)) := by
      rw [Text.trim_foldCase]
      exact noDigit_foldCase hnone
    rw [read_noDigit hnone, read_noDigit hnone']

/-- **What does not count**: texts that differ in it are read alike.

**Proof sketch.** By `read_number` both texts are read by their numbers and by what is behind these.
Zeros do not change the number that digits denote (`Text.Numeral.zeros`), and blanks and the case of
letters do not change what is left of the rest of the text (`Text.trim_append`, `read_foldCase`). -/
lemma read_of_respelled (h : Respelled s t) : read sizeOf s = read sizeOf t := by
  cases h with
  | @zeros before rest d hbefore hd count =>
    have hdigits : Numeral (d :: rest.takeWhile Char.isDigit) _ :=
      Text.numeral_valueOf (List.cons_ne_nil _ _)
        (List.forall_mem_cons.2 ⟨hd, fun _ => List.mem_takeWhile_imp⟩)
    have hzeros : read sizeOf _ = _ :=
      read_number hbefore (hdigits.zeros count) (noDigit_dropWhile rest)
    have hplain : read sizeOf _ = _ := read_number hbefore hdigits (noDigit_dropWhile rest)
    simp only [List.append_assoc, List.cons_append, List.takeWhile_append_dropWhile]
      at hzeros hplain ⊢
    exact hzeros.trans hplain.symm
  | blanksAround hbefore hafter => exact read_of_trim_eq (Text.trim_append hbefore hafter t)
  | @blanksBetween before digits between rest number hbefore hdigits hbetween hrest =>
    have htrim := Text.trim_append hbetween Text.blank_nil rest
    rw [List.append_nil] at htrim
    rw [read_number hbefore hdigits (hrest.append hbetween), read_number hbefore hdigits hrest,
      htrim]
  | letterCase h => rw [← read_foldCase s, h, read_foldCase]

/-! ## Units -/

/-- Units with their names in small letters and their sizes, as `sizeOf` gives them. The names are
made of letters, so a name begins where the blanks behind the number end. -/
structure Units {U : Type} (sizeOf : String → Option Nat) (names : U → List String)
    (scale : U → Nat) : Prop where
  sizeOf_eq_some_iff : ∀ {name size}, sizeOf name = some size ↔ ∃ u, name ∈ names u ∧ scale u = size
  scale_pos : ∀ u, 0 < scale u
  isAlpha : ∀ {u name}, name ∈ names u → ∀ c ∈ name.toList, c.isAlpha = true

namespace Units

variable {U : Type} {names : U → List String} {scale : U → Nat} {u : U}
  (hunits : Units sizeOf names scale)

include hunits

/-- A text that is the name of a unit but for capitals consists of letters. -/
lemma isAlpha_of_name (hname : String.ofList (foldCase name) ∈ names u) :
    ∀ c ∈ name, c.isAlpha = true := by
  intro c hc
  have hlower : c.toLower ∈ (String.ofList (foldCase name)).toList := by
    rw [String.toList_ofList]
    exact List.mem_map_of_mem hc
  exact (Text.isAlpha_toLower c).symm.trans (hunits.isAlpha hname _ hlower)

/-- There are no digits behind the number. -/
lemma isDigit_behind (hbetween : Blank between)
    (hname : String.ofList (foldCase name) ∈ names u) (hafter : Blank after) :
    ∀ c ∈ between ++ name ++ after, c.isDigit = false := by
  have hblank {s : List Char} (hs : Blank s) : ∀ c ∈ s, c.isDigit = false :=
    fun c hc => Text.isDigit_of_isBlank (hs c hc)
  exact List.forall_mem_append.2 ⟨List.forall_mem_append.2 ⟨hblank hbetween,
    fun c hc => Text.isDigit_of_isAlpha (hunits.isAlpha_of_name hname c hc)⟩, hblank hafter⟩

/-- **A text that denotes a number of units** is read as so many, unless they are too many. -/
lemma read_of_denotes (h : Denotes (names u) s number) : read sizeOf s =
    if number * scale u < limit then .ok (number * scale u) else .error .outOfRange := by
  cases h with
  | @intro before digits between name after _ hbefore hdigits hbetween hname hafter =>
    have hrest : NoDigit (between ++ name ++ after) :=
      fun c hc => hunits.isDigit_behind hbetween hname hafter c (List.mem_of_mem_head? hc)
    have htrim : trim (between ++ name ++ after) = name :=
      (Text.trim_append hbetween hafter name).trans (Text.trim_of_forall fun c hc =>
        Text.isBlank_of_isAlpha (hunits.isAlpha_of_name hname c hc))
    have hread : read sizeOf _ = _ := read_number hbefore hdigits hrest
    rw [htrim, ← List.append_assoc, ← List.append_assoc] at hread
    exact hread.trans
      (amount_of_size (hunits.sizeOf_eq_some_iff.2 ⟨u, hname, rfl⟩) (hunits.scale_pos u))

/-- What is read as a quantity denotes a number of units. -/
lemma exists_denotes (h : read sizeOf s = .ok n) : ∃ u number, Denotes (names u) s number := by
  rcases exists_number s with ⟨before, digits, number, rest, hbefore, hdigits, hrest, rfl⟩ | hnone
  · rw [read_number hbefore hdigits hrest] at h
    obtain ⟨size, hsize⟩ := exists_size_of_amount h
    obtain ⟨u, hname, -⟩ := hunits.sizeOf_eq_some_iff.1 hsize
    obtain ⟨between, after, hbetween, hafter, hparts⟩ := Text.exists_trim rest
    have hdenotes := Denotes.intro hbefore hdigits hbetween hname hafter
    rw [List.append_assoc, List.append_assoc, ← List.append_assoc between, ← hparts] at hdenotes
    exact ⟨u, number, hdenotes⟩
  · rw [read_noDigit hnone] at h
    exact nomatch h

/-- **What is read as a quantity**, and as how much. -/
lemma read_eq_ok_iff : read sizeOf s = .ok n ↔
    ∃ u number, Denotes (names u) s number ∧ number * scale u < limit ∧ n = number * scale u := by
  constructor
  · intro h
    obtain ⟨u, number, hdenotes⟩ := hunits.exists_denotes h
    rw [hunits.read_of_denotes hdenotes] at h
    split at h
    · next hfits => exact ⟨u, number, hdenotes, hfits, (Except.ok.inj h).symm⟩
    · exact nomatch h
  · rintro ⟨u, number, hdenotes, hfits, rfl⟩
    rw [hunits.read_of_denotes hdenotes, if_pos hfits]

/-- **What is not read as a quantity**: all that denotes no number of units, or too many of them. -/
lemma read_eq_error_iff : (∃ fault, read sizeOf s = .error fault) ↔
    ∀ u number, Denotes (names u) s number → limit ≤ number * scale u := by
  constructor
  · rintro ⟨fault, h⟩ u number hdenotes
    rw [hunits.read_of_denotes hdenotes] at h
    split at h
    · exact nomatch h
    · next hfits => exact Nat.le_of_not_lt hfits
  · intro h
    cases hread : read sizeOf s with
    | error fault => exact ⟨fault, rfl⟩
    | ok n =>
      obtain ⟨u, number, hdenotes, hfits, -⟩ := hunits.read_eq_ok_iff.1 hread
      exact absurd (h u number hdenotes) (Nat.not_le_of_lt hfits)

/-- **More units are more**: of two texts with the same unit the one with the smaller number is read
too if the other one is, and as less. -/
lemma exists_read_lt {m n total : Nat} (hs : Denotes (names u) s m) (ht : Denotes (names u) t n)
    (hlt : m < n) (h : read sizeOf t = .ok total) : ∃ less < total, read sizeOf s = .ok less := by
  have hless : m * scale u < n * scale u := Nat.mul_lt_mul_of_pos_right hlt (hunits.scale_pos u)
  rw [hunits.read_of_denotes ht] at h
  split at h
  · next hfits =>
    obtain rfl := Except.ok.inj h
    exact ⟨m * scale u, hless,
      (hunits.read_of_denotes hs).trans (if_pos (Nat.lt_trans hless hfits))⟩
  · exact nomatch h

/-- A text that denotes a number of units is made of blanks, digits and letters. -/
lemma isBlank_or_isAlphanum (h : Denotes (names u) s number) :
    ∀ c ∈ s, Text.isBlank c = true ∨ c.isDigit = true ∨ c.isAlpha = true := by
  cases h with
  | intro hbefore hdigits hbetween hname hafter =>
    simp only [List.forall_mem_append]
    exact ⟨⟨⟨⟨fun c hc => .inl (hbefore c hc), fun c hc => .inr (.inl (hdigits.isDigit c hc))⟩,
      fun c hc => .inl (hbetween c hc)⟩,
      fun c hc => .inr (.inr (hunits.isAlpha_of_name hname c hc))⟩, fun c hc => .inl (hafter c hc)⟩

/-- **No number of units has a sign, a fraction or a second number.** -/
lemma not_denotes_of_irregular (h : Irregular s) : ¬ Denotes (names u) s number := by
  intro hdenotes
  have hmade := hunits.isBlank_or_isAlphanum hdenotes
  cases h with
  | negative h => exact absurd (hmade _ h) (by decide)
  | fractional h =>
    rcases h with h | h
    · exact absurd (hmade _ h) (by decide)
    · exact absurd (hmade _ h) (by decide)
  | @compound c x d hc hx hd h =>
    cases hdenotes with
    | @intro before digits between name after _ hbefore hdigits hbetween hname hafter =>
      rw [List.append_assoc, List.append_assoc, List.append_assoc, ← List.append_assoc between] at h
      -- there are no digits before the number and none behind it, so `c` and `d` are in the number
      have hc' : c ∉ before := fun hmem => Bool.false_ne_true
        ((Text.isDigit_of_isBlank (hbefore c hmem)).symm.trans hc)
      have hd' : d ∉ (between ++ name ++ after).reverse := fun hmem => Bool.false_ne_true
        ((hunits.isDigit_behind hbetween hname hafter d (List.mem_reverse.1 hmem)).symm.trans hd)
      have hbehind := (sublist_of_notMem h hc').reverse
      rw [List.reverse_append] at hbehind
      have hnumber : [d, x, c].Sublist digits.reverse := sublist_of_notMem hbehind hd'
      have hmem : x ∈ digits.reverse := hnumber.subset (List.mem_cons_of_mem d List.mem_cons_self)
      exact Bool.false_ne_true (hx.symm.trans (hdigits.isDigit x (List.mem_reverse.1 hmem)))

end Units

end ClusterDeploy.Quantity
