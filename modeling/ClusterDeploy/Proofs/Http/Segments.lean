import ClusterDeploy.Http.Url
import ClusterDeploy.Proofs.Text.Percent
import ClusterDeploy.Proofs.Text.Splitting

set_option relaxedAutoImplicit false
set_option autoImplicit false

/-!
# What is read in the path of a URL

Segments that stand for themselves are appended to the path as they are, and are read again as their
own bytes. All others shorten the path: a segment of dots leaves no trace or takes one away, and
what looks like an escaped byte is read as this byte.

## Main definitions

* `Url.textOf` — the text of a path.
* `Url.enter` — the directory to which segments lead.
* `Url.IsPlain` — segments that stand for themselves.
* `Url.readLength` — the number of bytes that are read in a path.

## Main results

* `Url.resolve_append` — segments are gone along one after the other.
* `Url.unescape_resolve_of_isPlain` — what is read if all segments stand for themselves.
* `Url.readLength_resolve` — less is read if one does not.
-/

namespace ClusterDeploy.Url

open Text (HasEscape unescape)
open Utf8 (bytesOf)

variable {c : Char} {s : List Char} {dir segments more : List (List Char)}

/-! ## Texts of paths -/

/-- The text of a path. -/
def textOf (segments : List (List Char)) : List Char :=
  segments.flatMap ('/' :: ·)

/-- No segments have no text. -/
@[simp]
lemma textOf_nil : textOf [] = [] :=
  rfl

/-- A segment is written after a slash. -/
@[simp]
lemma textOf_cons (s : List Char) (segments : List (List Char)) :
    textOf (s :: segments) = '/' :: (s ++ textOf segments) :=
  rfl

/-- The texts of segments follow one another. -/
@[simp]
lemma textOf_append (segments more : List (List Char)) :
    textOf (segments ++ more) = textOf segments ++ textOf more :=
  List.flatMap_append

/-- Segments are put together again with slashes. -/
@[simp]
lemma textOf_splitAt (s : List Char) : textOf (Text.splitAt '/' s) = '/' :: s :=
  Text.flatMap_splitAt '/' s

/-- The path of a URL as it is sent. -/
lemma pathText_eq (u : Url) : u.pathText = textOf u.segments :=
  rfl

/-- The bytes that are read in a path are those of its parts. -/
@[simp]
lemma unescape_textOf_append (segments more : List (List Char)) :
    unescape (textOf (segments ++ more)) =
      unescape (textOf segments) ++ unescape (textOf more) := by
  cases more with
  | nil => rw [List.append_nil, textOf_nil, unescape, List.append_nil]
  | cons s more =>
    rw [textOf_append, textOf_cons]
    exact Text.unescape_append_cons _ _ (by decide)

/-- What is read in a path of one segment more. -/
lemma unescape_textOf_cons (s : List Char) (segments : List (List Char)) :
    unescape (textOf (s :: segments)) =
      String.utf8EncodeChar '/' ++ (unescape s ++ unescape (textOf segments)) := by
  have hsingle : unescape (textOf [s]) = String.utf8EncodeChar '/' ++ unescape s := by
    rw [textOf_cons, textOf_nil, List.append_nil, Text.unescape_cons_of_ne (by decide)]
  rw [← List.singleton_append, unescape_textOf_append, hsingle, List.append_assoc]

/-! ## Escaped segments -/

/-- The characters of a text are escaped one by one. -/
lemma escapeAll_cons (isEscaped : Char → Bool) (c : Char) (s : List Char) :
    escapeAll isEscaped (c :: s) =
      (if isEscaped c then Text.escape c else [c]) ++ escapeAll isEscaped s :=
  List.flatMap_cons

/-- A digit at the front of a text that is escaped was there before. -/
lemma exists_of_escapeAll_eq_cons {isEscaped : Char → Bool} {t : List Char}
    (hc : Text.hexValue c ≠ none) (h : escapeAll isEscaped s = c :: t) :
    ∃ s', s = c :: s' ∧ escapeAll isEscaped s' = t := by
  cases s with
  | nil => exact nomatch h
  | cons x s' =>
    rw [escapeAll_cons] at h
    split at h
    · obtain ⟨rest, hrest⟩ := Text.exists_escape_eq_cons x
      rw [hrest, List.cons_append] at h
      rw [← (List.cons.inj h).1] at hc
      exact absurd (by decide) hc
    · obtain ⟨rfl, rfl⟩ := List.cons.inj h
      exact ⟨s', rfl, rfl⟩

/-- Characters that are escaped are no digits, so nothing looks like an escaped byte that did not
before. -/
lemma startsEscape_of_escapeAll {isEscaped : Char → Bool}
    (h : Text.StartsEscape (c :: escapeAll isEscaped s)) : Text.StartsEscape (c :: s) := by
  obtain ⟨rfl, high, low, rest, n, heq, hn⟩ := Text.startsEscape_cons_iff.1 h
  have hhigh : Text.hexValue high ≠ none := fun hnone =>
    nomatch (Text.readInBase_eq_none_of_left hnone).symm.trans hn
  have hlow : Text.hexValue low ≠ none := fun hnone =>
    nomatch (Text.readInBase_eq_none_of_right hnone).symm.trans hn
  obtain ⟨s', rfl, hlower⟩ := exists_of_escapeAll_eq_cons hhigh heq
  obtain ⟨s'', rfl, -⟩ := exists_of_escapeAll_eq_cons hlow hlower
  exact Text.startsEscape_cons_iff.2 ⟨rfl, high, low, s'', n, rfl, hn⟩

/-- **Escaping does not change what is read**, if neither digits nor percent signs are escaped.

**Proof sketch.** Induction on the reading. What looks like an escaped byte is kept as it is, and a
character that is escaped is read as its bytes. -/
lemma unescape_escapeAll {isEscaped : Char → Bool} (hpercent : isEscaped '%' = false)
    (hdigit : ∀ c, Text.hexValue c ≠ none → isEscaped c = false) (s : List Char) :
    unescape (escapeAll isEscaped s) = unescape s := by
  have hcons : ∀ {c s}, ¬Text.StartsEscape (c :: s) →
      unescape (escapeAll isEscaped s) = unescape s →
      unescape (escapeAll isEscaped (c :: s)) = unescape (c :: s) := by
    intro c s hstarts ih
    rw [Text.unescape_cons hstarts, ← ih, escapeAll_cons]
    split
    · exact Text.unescape_escape c _
    · exact Text.unescape_cons fun h => hstarts (startsEscape_of_escapeAll h)
  induction s using Text.unescape.induct with
  | case1 high low rest n hread ih =>
    have hhigh : isEscaped high = false := hdigit high fun hnone =>
      Option.some_ne_none n (hread.symm.trans (Text.readInBase_eq_none_of_left hnone))
    have hlow : isEscaped low = false := hdigit low fun hnone =>
      Option.some_ne_none n (hread.symm.trans (Text.readInBase_eq_none_of_right hnone))
    simp only [escapeAll_cons, hpercent, hhigh, hlow, Bool.false_eq_true, if_false,
      List.cons_append, List.nil_append]
    rw [Text.unescape_of_startsEscape hread, Text.unescape_of_startsEscape hread, ih]
  | case2 high low rest hread ih => exact hcons (Text.not_startsEscape_of_eq_none hread) ih
  | case3 d rest hshort ih => exact hcons (Text.not_startsEscape_of_short hshort) ih
  | case4 => rfl

/-- A hexadecimal digit can stand in a path as it is. -/
lemma isEscapedInPath_of_hexValue (h : Text.hexValue c ≠ none) : isEscapedInPath c = false := by
  have hsmall : ∀ n < 128, Text.hexValue (Char.ofNat n) ≠ none →
      isEscapedInPath (Char.ofNat n) = false := by decide +kernel
  have hlt := Text.toNat_lt_of_hexValue h
  rw [← Char.ofNat_toNat c] at h ⊢
  exact hsmall _ hlt h

/-- A segment is read as before it was escaped. -/
lemma unescape_escapeAll_path (s : List Char) :
    unescape (escapeAll isEscapedInPath s) = unescape s :=
  unescape_escapeAll (by decide) (fun _ => isEscapedInPath_of_hexValue) s

/-- Characters that are neither letters nor digits come up only if they were there before. -/
lemma mem_of_mem_escapeAll {isEscaped : Char → Bool} (hc : c ≠ '%') (hletter : c.isAlphanum = false)
    (h : c ∈ escapeAll isEscaped s) : c ∈ s ∧ isEscaped c = false := by
  obtain ⟨x, hx, hmem⟩ := List.mem_flatMap.1 h
  split at hmem
  · rcases Text.eq_or_isAlphanum_of_mem_escape hmem with rfl | halphanum
    · exact absurd rfl hc
    · exact nomatch hletter.symm.trans halphanum
  · next hescaped =>
    rw [List.mem_singleton.1 hmem]
    exact ⟨hx, Bool.eq_false_iff.2 hescaped⟩

/-! ## Going along segments -/

/-- The directory to which segments lead. -/
def enter (dir : List (List Char)) : List (List Char) → List (List Char)
  | [] => dir
  | s :: rest =>
    if isDoubleDot s then enter (above dir) rest
    else if isSingleDot s then enter dir rest
    else enter (dir ++ [escapeAll isEscapedInPath s]) rest

/-- **Segments are gone along one after the other.** Only the last one may be a file. -/
lemma resolve_append (dir segments : List (List Char)) (hmore : more ≠ []) :
    resolve dir (segments ++ more) = resolve (enter dir segments) more := by
  induction segments generalizing dir with
  | nil => rfl
  | cons s segments ih =>
    obtain ⟨x, rest, hrest⟩ :=
      List.exists_cons_of_ne_nil (List.append_ne_nil_of_right_ne_nil segments hmore)
    rw [List.cons_append, enter]
    rw [hrest] at ih ⊢
    rw [resolve]
    · split_ifs <;> exact ih _
    · exact List.cons_ne_nil x rest

/-! ## Segments that stand for themselves -/

/-- Holds if a segment stands for itself: it is no name of a directory by dots, and nothing in it
looks like an escaped byte. -/
structure IsPlain (s : List Char) : Prop where
  noDot : s ≠ ['.']
  noDots : s ≠ ['.', '.']
  noEscape : ¬HasEscape s

/-- An escaped dot is an escaped byte. -/
lemma unescapeDots_eq (h : ¬HasEscape s) : unescapeDots s = s := by
  have hdot : ∀ {e : Char} {rest : List Char}, (e == 'e' || e == 'E') = true →
      HasEscape ('%' :: '2' :: e :: rest) := by
    intro e rest he
    refine ⟨'2', e, 46, (List.prefix_append [_, _, _] rest).isInfix, ?_⟩
    rw [Bool.or_eq_true, beq_iff_eq, beq_iff_eq] at he
    rcases he with rfl | rfl <;> decide
  have hrest : ∀ {c : Char} {s : List Char}, ¬HasEscape (c :: s) → ¬HasEscape s := fun hnot h =>
    hnot (Text.hasEscape_cons_iff.2 (.inr h))
  induction s using unescapeDots.induct with
  | case1 e rest he ih => exact absurd (hdot he) h
  | case2 e rest he ih => rw [unescapeDots, if_neg he, ih (hrest h)]
  | case3 c rest hother ih =>
    rw [unescapeDots, ih (hrest h)]
    exact fun e more hc hmore => hother e more hc hmore
  | case4 => rfl

/-- A text does not get longer when dots are put in place of what stands for them. -/
lemma length_unescapeDots_le (s : List Char) : (unescapeDots s).length ≤ s.length := by
  induction s using unescapeDots.induct with
  | case1 e rest he ih =>
    rw [unescapeDots, if_pos he]
    simp only [List.length_cons]
    omega
  | case2 e rest he ih =>
    rw [unescapeDots, if_neg he, List.length_cons, List.length_cons]
    exact Nat.succ_le_succ ih
  | case3 c rest hother ih =>
    rw [unescapeDots]
    · exact Nat.succ_le_succ ih
    · exact fun e more hc hmore => hother e more hc hmore
  | case4 => exact Nat.le_refl 0

/-- A segment that stands for itself does not go up. -/
lemma IsPlain.isDoubleDot (h : IsPlain s) : isDoubleDot s = false := by
  rw [Url.isDoubleDot, unescapeDots_eq h.noEscape]
  exact beq_false_of_ne h.noDots

/-- A segment that stands for itself does not stay. -/
lemma IsPlain.isSingleDot (h : IsPlain s) : isSingleDot s = false := by
  rw [Url.isSingleDot, unescapeDots_eq h.noEscape]
  exact beq_false_of_ne h.noDot

/-- A segment of two dots, escaped or not, has two bytes or more. -/
lemma two_le_of_isDoubleDot (h : isDoubleDot s = true) : 2 ≤ (bytesOf s).length := by
  have hlength := length_unescapeDots_le s
  rw [beq_iff_eq.1 h] at hlength
  exact Nat.le_trans hlength (Utf8.length_le_bytesOf s)

/-- A segment that stays has at least one byte. -/
lemma one_le_of_isSingleDot (h : isSingleDot s = true) : 1 ≤ (bytesOf s).length := by
  have hlength := length_unescapeDots_le s
  rw [beq_iff_eq.1 h] at hlength
  exact Nat.le_trans hlength (Utf8.length_le_bytesOf s)

/-- A segment that does not mean a directory stands for itself if nothing in it looks like an
escaped byte. -/
lemma hasEscape_of_not_isPlain (h : ¬IsPlain s) (hdouble : ¬isDoubleDot s = true)
    (hsingle : ¬isSingleDot s = true) : HasEscape s := by
  by_contra hescape
  rw [Url.isDoubleDot, unescapeDots_eq hescape, beq_iff_eq] at hdouble
  rw [Url.isSingleDot, unescapeDots_eq hescape, beq_iff_eq] at hsingle
  exact h ⟨hsingle, hdouble, hescape⟩

/-! ## What is read at the end -/

/-- Segments that stand for themselves are appended, with some of their characters escaped. -/
lemma resolve_of_isPlain (dir : List (List Char)) (h : ∀ s ∈ segments, IsPlain s) :
    resolve dir segments = dir ++ segments.map (escapeAll isEscapedInPath) := by
  induction segments generalizing dir with
  | nil => exact (List.append_nil dir).symm
  | cons s segments ih =>
    obtain ⟨hs, hsegments⟩ := List.forall_mem_cons.1 h
    cases segments with
    | nil =>
      rw [resolve, hs.isDoubleDot, hs.isSingleDot]
      rfl
    | cons x rest =>
      rw [resolve, hs.isDoubleDot, hs.isSingleDot]
      · simp only [Bool.false_eq_true, if_false]
        rw [ih _ hsegments, List.append_assoc]
        rfl
      · exact List.cons_ne_nil x rest

/-- Segments are read as before they were escaped. -/
lemma unescape_textOf_map (segments : List (List Char)) :
    unescape (textOf (segments.map (escapeAll isEscapedInPath))) = unescape (textOf segments) := by
  induction segments with
  | nil => rfl
  | cons s segments ih =>
    rw [List.map_cons, unescape_textOf_cons, unescape_textOf_cons, ih, unescape_escapeAll_path]

/-- Segments that stand for themselves are read as their own bytes. -/
lemma unescape_textOf_of_isPlain (h : ∀ s ∈ segments, IsPlain s) :
    unescape (textOf segments) = bytesOf (textOf segments) := by
  induction segments with
  | nil => rfl
  | cons s segments ih =>
    obtain ⟨hs, hsegments⟩ := List.forall_mem_cons.1 h
    rw [unescape_textOf_cons, ih hsegments, Text.unescape_eq_of_not_hasEscape hs.noEscape,
      textOf_cons, Utf8.bytesOf_cons, Utf8.bytesOf_append]

/-- **What is read if all segments stand for themselves.** -/
lemma unescape_resolve_of_isPlain (dir : List (List Char)) (h : ∀ s ∈ segments, IsPlain s) :
    unescape (textOf (resolve dir segments)) =
      unescape (textOf dir) ++ bytesOf (textOf segments) := by
  rw [resolve_of_isPlain dir h, unescape_textOf_append, unescape_textOf_map,
    unescape_textOf_of_isPlain h]

/-- The number of bytes that are read in a path. -/
def readLength (segments : List (List Char)) : Nat :=
  (unescape (textOf segments)).length

/-- The length of a path with one more segment. -/
lemma readLength_concat (dir : List (List Char)) (s : List Char) :
    readLength (dir ++ [s]) = readLength dir + (1 + (unescape s).length) := by
  have hslash : (String.utf8EncodeChar '/').length = 1 := rfl
  rw [readLength, unescape_textOf_append, unescape_textOf_cons, textOf_nil, unescape,
    List.append_nil, List.length_append, List.length_append, hslash, readLength]

/-- A path does not get longer on the way up. -/
lemma readLength_above_le (dir : List (List Char)) : readLength (above dir) ≤ readLength dir := by
  unfold above
  split
  · exact Nat.le_refl _
  · rcases List.eq_nil_or_concat dir with rfl | ⟨init, last, rfl⟩
    · exact Nat.le_refl _
    · rw [List.concat_eq_append, List.dropLast_concat, readLength_concat]
      exact Nat.le_add_right _ _

/-- A segment that is appended is read as no more than its own bytes. -/
lemma readLength_escaped (dir : List (List Char)) (hdouble : ¬isDoubleDot s = true)
    (hsingle : ¬isSingleDot s = true) :
    readLength (dir ++ [escapeAll isEscapedInPath s]) ≤
        readLength dir + (1 + (bytesOf s).length) ∧
      (¬IsPlain s → readLength (dir ++ [escapeAll isEscapedInPath s]) <
        readLength dir + (1 + (bytesOf s).length)) := by
  rw [readLength_concat, unescape_escapeAll_path]
  have hle := Text.length_unescape_le s
  refine ⟨by omega, fun hplain => ?_⟩
  have hlt := Text.length_unescape_lt_of_hasEscape
    (hasEscape_of_not_isPlain hplain hdouble hsingle)
  omega

/-- **No more is read than the bytes of the segments**, and less if one of them does not stand for
itself.

**Proof sketch.** Induction on the segments. Dots are not read, and two of them may even take away
what was read before. -/
lemma readLength_resolve (dir segments : List (List Char)) :
    readLength (resolve dir segments) ≤ readLength dir + (bytesOf (textOf segments)).length ∧
      ((∃ s ∈ segments, ¬IsPlain s) →
        readLength (resolve dir segments) <
          readLength dir + (bytesOf (textOf segments)).length) := by
  have hlength : ∀ s segments, (bytesOf (textOf (s :: segments))).length =
      1 + (bytesOf s).length + (bytesOf (textOf segments)).length := by
    intro s segments
    have hslash : (String.utf8EncodeChar '/').length = 1 := rfl
    rw [textOf_cons, Utf8.bytesOf_cons, Utf8.bytesOf_append, List.length_append, List.length_append,
      hslash, Nat.add_assoc]
  have hempty : ∀ dir, readLength (dir ++ [[]]) = readLength dir + 1 := fun dir =>
    readLength_concat dir []
  induction dir, segments using resolve.induct with
  | case1 dir => exact ⟨Nat.le_refl _, fun ⟨s, hs, _⟩ => absurd hs List.not_mem_nil⟩
  | case2 dir last hdouble =>
    have habove := readLength_above_le dir
    have htwo := two_le_of_isDoubleDot hdouble
    rw [resolve, if_pos hdouble, hempty, hlength, textOf_nil]
    exact ⟨by omega, fun _ => by omega⟩
  | case3 dir last hdouble hsingle =>
    have hone := one_le_of_isSingleDot hsingle
    rw [resolve, if_neg hdouble, if_pos hsingle, hempty, hlength, textOf_nil]
    exact ⟨by omega, fun _ => by omega⟩
  | case4 dir last hdouble hsingle =>
    rw [resolve, if_neg hdouble, if_neg hsingle, hlength, textOf_nil, Utf8.bytesOf_nil,
      List.length_nil, Nat.add_zero]
    refine (readLength_escaped dir hdouble hsingle).imp_right fun hlt => ?_
    rintro ⟨s, hs, hplain⟩
    exact hlt (List.mem_singleton.1 hs ▸ hplain)
  | case5 dir s rest hrest hdouble ih =>
    have habove := readLength_above_le dir
    have htwo := two_le_of_isDoubleDot hdouble
    rw [resolve, if_pos hdouble, hlength]
    · exact ⟨by omega, fun _ => by omega⟩
    · exact hrest
  | case6 dir s rest hrest hdouble hsingle ih =>
    have hone := one_le_of_isSingleDot hsingle
    rw [resolve, if_neg hdouble, if_pos hsingle, hlength]
    · exact ⟨by omega, fun _ => by omega⟩
    · exact hrest
  | case7 dir s rest hrest hdouble hsingle ih =>
    obtain ⟨hle, hlt⟩ := readLength_escaped dir hdouble hsingle
    rw [resolve, if_neg hdouble, if_neg hsingle, hlength]
    · refine ⟨by omega, ?_⟩
      rw [List.exists_mem_cons_iff]
      rintro (hs | hs)
      · have hs := hlt hs
        omega
      · have hs := ih.2 hs
        omega
    · exact hrest

end ClusterDeploy.Url
