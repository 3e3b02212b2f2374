import ClusterDeploy.Proofs.Http.Parts
import Mathlib.Data.List.Flatten

set_option relaxedAutoImplicit false
set_option autoImplicit false

/-!
# Paths that are appended to a URL

A URL is often written by appending a path to the URL of a directory. What is addressed then is the
path as it was meant exactly if it is literal: if it has none of the characters that end a path,
that count as others or that do not count at all, nothing in it looks like an escaped byte, and no
part of it is a name of a directory by dots.

## Main definitions

* `Url.IsLiteral` — paths that are read as they are.

## Main results

* `Url.isLiteral_cons_iff` — when a path is literal.
* `Url.isLiteral_append_iff` — when a path below a directory is literal.
* `Url.unescape_below_iff` — when what is read is the path.
* `Url.segments_below` — where a literal path leads.
* `Url.below_injective` — two literal paths lead to different places.
-/

namespace ClusterDeploy.Url

open Text (HasEscape splitAt unescape)
open Utf8 (bytesOf)

variable {s t : List Char} {e u : Url} {base : String}

/-! ## Literal paths -/

/-- Holds if a path is read as it is when it is appended to the URL of a directory. -/
structure IsLiteral (path : List Char) : Prop where
  /-- No character of it ends a path, counts as another one or does not count. -/
  noMark : ∀ c ∈ path, c ∉ ['?', '#', '\\', '\t', '\n', '\r']
  /-- The last character counts at the end of a URL. -/
  noEnd : ∀ c ∈ path.getLast?, isEnd c = false
  noEscape : ¬HasEscape path
  noDots : ∀ s ∈ splitAt '/' path, s ≠ ['.'] ∧ s ≠ ['.', '.']

/-- A path without names of dots is literal if none of its characters has a meaning in a URL. -/
lemma isLiteral_of_all
    (hchars : s.all fun c =>
      !isEnd c && !(['%', '?', '#', '\\', '\t', '\n', '\r'].contains c))
    (hdots : ∀ part ∈ splitAt '/' s, part ≠ ['.'] ∧ part ≠ ['.', '.']) : IsLiteral s := by
  have hchar : ∀ c ∈ s,
      isEnd c = false ∧ c ∉ ['%', '?', '#', '\\', '\t', '\n', '\r'] := by
    simpa only [List.all_eq_true, Bool.and_eq_true, Bool.not_eq_true', List.contains_eq_mem,
      decide_eq_false_iff_not] using hchars
  refine ⟨fun c hc hmark => ?_, fun c hc => ?_, ?_, hdots⟩
  · exact (hchar c hc).2 (List.mem_cons_of_mem _ hmark)
  · exact (hchar c (List.mem_of_mem_getLast? hc)).1
  · exact Text.not_hasEscape_of_notMem fun hc => (hchar _ hc).2 List.mem_cons_self

/-- What counts of a path that is appended to a URL. -/
def countedOf (t : List Char) : List Char :=
  locationOf (tailOf t)

/-- The location is part of the text. -/
lemma locationOf_sublist (t : List Char) : (locationOf t).Sublist t :=
  (List.takeWhile_sublist _).trans (List.takeWhile_sublist _)

/-- A text without the blanks at its end is part of it. -/
lemma rdropWhile_sublist (t : List Char) : (t.rdropWhile isEnd).Sublist t :=
  (List.rdropWhile_prefix isEnd t).sublist

/-- The tail of a text is part of it. -/
lemma tailOf_sublist (t : List Char) : (tailOf t).Sublist t :=
  List.filter_sublist.trans (rdropWhile_sublist t)

/-- The characters of a text that count are part of it. -/
lemma countedOf_sublist (t : List Char) : (countedOf t).Sublist t :=
  (locationOf_sublist _).trans (tailOf_sublist t)

/-- Question marks and number signs end what names the path. -/
lemma locationOf_eq_self_iff : locationOf t = t ↔ ∀ c ∈ t, c ≠ '#' ∧ c ≠ '?' := by
  unfold locationOf
  constructor
  · intro h c hc
    rw [← h] at hc
    have hquery := List.mem_takeWhile_imp hc
    have hfragment := List.mem_takeWhile_imp ((List.takeWhile_sublist _).subset hc)
    exact ⟨by simpa using hfragment, by simpa using hquery⟩
  · intro h
    rw [List.takeWhile_eq_self_iff.2, List.takeWhile_eq_self_iff.2]
    · exact fun c hc => by simpa using (h c hc).1
    · rw [List.takeWhile_eq_self_iff.2]
      · exact fun c hc => by simpa using (h c hc).2
      · exact fun c hc => by simpa using (h c hc).1

/-- Nothing is taken off the end exactly if there is no blank at it. -/
lemma rdropWhile_eq_self_iff : t.rdropWhile isEnd = t ↔ ∀ c ∈ t.getLast?, isEnd c = false := by
  rw [List.rdropWhile_eq_self_iff]
  constructor
  · intro h c hc
    obtain ⟨hne, rfl⟩ := List.mem_getLast?_eq_getLast hc
    exact Bool.eq_false_iff.2 (h hne)
  · exact fun h hne => Bool.eq_false_iff.1 (h _ (List.getLast_mem_getLast? hne))

/-- A text is its own tail exactly if all its characters count and there is no blank at its end. -/
lemma tailOf_eq_self_iff :
    tailOf t = t ↔ (∀ c ∈ t, isCounted c = true) ∧ ∀ c ∈ t.getLast?, isEnd c = false := by
  constructor
  · intro h
    have hstrip : t.rdropWhile isEnd = t := by
      refine (rdropWhile_sublist t).antisymm ?_
      conv_lhs => rw [← h]
      exact List.filter_sublist
    rw [tailOf, hstrip] at h
    exact ⟨List.filter_eq_self.1 h, rdropWhile_eq_self_iff.1 hstrip⟩
  · rintro ⟨hcounted, hend⟩
    rw [tailOf, rdropWhile_eq_self_iff.2 hend, List.filter_eq_self.2 hcounted]

/-- **When all characters of a path count.** -/
lemma countedOf_eq_self_iff : countedOf t = t ↔ tailOf t = t ∧ locationOf t = t := by
  constructor
  · intro h
    have htail : tailOf t = t := by
      refine (tailOf_sublist t).antisymm ?_
      conv_lhs => rw [← h]
      exact locationOf_sublist _
    rw [countedOf, htail] at h
    exact ⟨htail, h⟩
  · rintro ⟨htail, hlocation⟩
    rw [countedOf, htail, hlocation]

/-- Part of a text has no more bytes than the text. -/
lemma length_bytesOf_le (h : s.Sublist t) : (bytesOf s).length ≤ (bytesOf t).length :=
  (h.flatMap _).length_le

/-- Backslashes have as many bytes as the slashes for which they stand. -/
lemma length_bytesOf_map_asSlash (s : List Char) :
    (bytesOf (s.map asSlash)).length = (bytesOf s).length := by
  have hchar : ∀ c, (String.utf8EncodeChar (asSlash c)).length =
      (String.utf8EncodeChar c).length := by
    intro c
    unfold asSlash
    split
    · next hc =>
      rw [beq_iff_eq.1 hc]
      rfl
    · rfl
  induction s with
  | nil => rfl
  | cons c s ih =>
    rw [List.map_cons, Utf8.bytesOf_cons, Utf8.bytesOf_cons, List.length_append,
      List.length_append, hchar, ih]

/-- Nothing in a part of a path looks like an escaped byte if nothing in the path does. -/
lemma not_hasEscape_of_mem_splitAt (h : ¬HasEscape ('/' :: t)) (hs : s ∈ splitAt '/' t) :
    ¬HasEscape s := by
  rintro ⟨high, low, n, hpattern, hn⟩
  obtain ⟨before, after, hparts⟩ := List.append_of_mem hs
  have htext : '/' :: t = textOf before ++ '/' :: (s ++ textOf after) := by
    rw [← textOf_splitAt, hparts, textOf_append, textOf_cons]
  have hpart : s <:+: '/' :: t := ⟨textOf before ++ ['/'], textOf after, by simp [htext]⟩
  exact h ⟨high, low, n, hpattern.trans hpart, hn⟩

/-- All characters of a literal path count. -/
lemma IsLiteral.countedOf_eq (h : IsLiteral ('/' :: t)) : countedOf t = t := by
  have hmark : ∀ c ∈ t, c ∉ ['?', '#', '\\', '\t', '\n', '\r'] :=
    (List.forall_mem_cons.1 h.noMark).2
  refine countedOf_eq_self_iff.2 ⟨tailOf_eq_self_iff.2 ⟨fun c hc => ?_, fun c hc => ?_⟩,
    locationOf_eq_self_iff.2 fun c hc => ?_⟩
  · have hc := hmark c hc
    simp only [List.mem_cons, not_or] at hc
    simp [isCounted, hc]
  · exact h.noEnd c (List.mem_getLast?_cons hc)
  · have hc := hmark c hc
    simp only [List.mem_cons, not_or] at hc
    exact ⟨hc.2.1, hc.1⟩

/-- No backslash stands for itself. -/
lemma backslash_notMem_of_map_asSlash (h : s.map asSlash = t) : '\\' ∉ t := by
  rw [← h, List.mem_map]
  rintro ⟨c, -, hc⟩
  unfold asSlash at hc
  split at hc
  · exact absurd hc (by decide)
  · next hne => exact hne (beq_iff_eq.2 hc)

/-- **A path is literal exactly if it counts as it is and all parts of it stand for themselves.** -/
lemma isLiteral_cons_iff :
    IsLiteral ('/' :: t) ↔
      (countedOf t).map asSlash = t ∧ ∀ s ∈ splitAt '/' t, IsPlain s := by
  constructor
  · intro h
    refine ⟨?_, fun s hs => ?_⟩
    · rw [h.countedOf_eq]
      refine (List.map_congr_left fun c hc => if_neg ?_).trans (List.map_id' t)
      rw [beq_iff_eq]
      rintro rfl
      exact h.noMark _ (List.mem_cons_of_mem _ hc) (by decide)
    · obtain ⟨hdot, hdots⟩ := h.noDots s (by
        rw [Text.splitAt_cons_self]
        exact List.mem_cons_of_mem _ hs)
      exact ⟨hdot, hdots, not_hasEscape_of_mem_splitAt h.noEscape hs⟩
  · rintro ⟨hmap, hplain⟩
    -- what counts is part of the path, and as long as it
    have hcounted : countedOf t = t := by
      refine (countedOf_sublist t).eq_of_length ?_
      conv_rhs => rw [← hmap]
      rw [List.length_map]
    have hbackslash : '\\' ∉ t := backslash_notMem_of_map_asSlash hmap
    obtain ⟨htail, hlocation⟩ := countedOf_eq_self_iff.1 hcounted
    rw [locationOf_eq_self_iff] at hlocation
    obtain ⟨hcount, hend⟩ := tailOf_eq_self_iff.1 htail
    refine ⟨List.forall_mem_cons.2 ⟨by decide, fun c hc => ?_⟩, fun c hc => ?_,
      fun hescape => ?_, ?_⟩
    · have hcount := hcount c hc
      simp only [isCounted, Bool.and_eq_true, bne_iff_ne] at hcount
      simp only [List.mem_cons, List.not_mem_nil, not_or, or_false]
      exact ⟨(hlocation c hc).2, (hlocation c hc).1, ne_of_mem_of_not_mem hc hbackslash,
        hcount.1.1, hcount.1.2, hcount.2⟩
    · cases t with
      | nil =>
        obtain rfl := Option.some.inj hc
        decide
      | cons x t => exact hend c hc
    · -- a text gets shorter when an escaped byte is read
      have hread := unescape_textOf_of_isPlain hplain
      have hlost := Text.length_unescape_lt_of_hasEscape hescape
      rw [textOf_splitAt] at hread
      rw [hread] at hlost
      exact Nat.lt_irrefl _ hlost
    · rw [Text.splitAt_cons_self, List.forall_mem_cons]
      exact ⟨by decide, fun s hs => ⟨(hplain s hs).noDot, (hplain s hs).noDots⟩⟩

/-- **When a path below a directory is literal**: the directory has to be, and the rest. -/
lemma isLiteral_append_iff {dir t : List Char} (hend : ∀ c ∈ dir.getLast?, isEnd c = false) :
    IsLiteral (dir ++ '/' :: t) ↔ IsLiteral dir ∧ IsLiteral ('/' :: t) := by
  have hdots : ∀ {s : List Char}, (∀ part ∈ splitAt '/' ('/' :: s), part ≠ ['.'] ∧
      part ≠ ['.', '.']) ↔ ∀ part ∈ splitAt '/' s, part ≠ ['.'] ∧ part ≠ ['.', '.'] := by
    intro s
    rw [Text.splitAt_cons_self, List.forall_mem_cons, and_iff_right]
    exact ⟨nofun, nofun⟩
  have hlast : (dir ++ '/' :: t).getLast? = ('/' :: t).getLast? :=
    List.getLast?_append_of_ne_nil dir (List.cons_ne_nil _ _)
  constructor
  · intro h
    obtain ⟨hmark, hmark'⟩ := List.forall_mem_append.1 h.noMark
    have hescape := not_or.1 (mt Text.hasEscape_append_slash.2 h.noEscape)
    have hparts := h.noDots
    rw [Text.splitAt_append, List.forall_mem_append] at hparts
    exact ⟨⟨hmark, hend, hescape.1, hparts.1⟩,
      ⟨hmark', fun c hc => h.noEnd c (hlast ▸ hc), hescape.2, hdots.2 hparts.2⟩⟩
  · rintro ⟨hdir, ht⟩
    refine ⟨List.forall_mem_append.2 ⟨hdir.noMark, ht.noMark⟩,
      fun c hc => ht.noEnd c (hlast ▸ hc), ?_, ?_⟩
    · rw [Text.hasEscape_append_slash]
      exact not_or.2 ⟨hdir.noEscape, ht.noEscape⟩
    · rw [Text.splitAt_append, List.forall_mem_append]
      exact ⟨hdir.noDots, hdots.1 ht.noDots⟩

/-! ## Below a directory -/

/-- **When what is read is the path that was appended.**

**Proof sketch.** Never more bytes are read than the path has. If as many are read, then all
characters of the path count, and all parts of it stand for themselves. -/
lemma unescape_below_iff (hbase : IsBase base e)
    (hu : parse (String.ofList (base.toList ++ '/' :: t)) = some u) :
    unescape u.pathText = unescape (textOf e.segments.dropLast) ++ bytesOf ('/' :: t) ↔
      IsLiteral ('/' :: t) := by
  rw [parse_below hbase] at hu
  obtain rfl := Option.some.inj hu
  rw [pathText_eq, isLiteral_cons_iff]
  change unescape (textOf (resolve e.segments.dropLast
    (splitAt '/' ((countedOf t).map asSlash)))) = _ ↔ _
  constructor
  · intro h
    obtain ⟨hle, hlt⟩ :=
      readLength_resolve e.segments.dropLast (splitAt '/' ((countedOf t).map asSlash))
    have hlength := congrArg List.length h
    have hcounted := length_bytesOf_le (countedOf_sublist t)
    have hplain : ∀ s ∈ splitAt '/' ((countedOf t).map asSlash), IsPlain s := by
      by_contra hnot
      push Not at hnot
      have hless := hlt hnot
      simp only [readLength, textOf_splitAt, Utf8.bytesOf_cons, List.length_append,
        length_bytesOf_map_asSlash] at hless hlength
      omega
    rw [unescape_resolve_of_isPlain _ hplain, textOf_splitAt, List.append_right_inj] at h
    have hsame : (countedOf t).map asSlash = t := List.tail_eq_of_cons_eq (Utf8.bytesOf_injective h)
    rw [hsame] at hplain
    exact ⟨hsame, hplain⟩
  · rintro ⟨hsame, hplain⟩
    rw [hsame, unescape_resolve_of_isPlain _ hplain, textOf_splitAt]

/-- **Where a literal path leads**: all its parts are there, with some of their characters escaped,
and there is no query. -/
lemma segments_below (hbase : IsBase base e)
    (hu : parse (String.ofList (base.toList ++ '/' :: t)) = some u) (h : IsLiteral ('/' :: t)) :
    u.segments = e.segments.dropLast ++ (splitAt '/' t).map (escapeAll isEscapedInPath) ∧
      u.query = none := by
  obtain ⟨hsame, hplain⟩ := isLiteral_cons_iff.1 h
  have hcounted : countedOf t = t := by
    refine (countedOf_sublist t).eq_of_length ?_
    conv_rhs => rw [← hsame]
    rw [List.length_map]
  obtain ⟨htail, hlocation⟩ := countedOf_eq_self_iff.1 hcounted
  rw [locationOf_eq_self_iff] at hlocation
  have hquery : queryOf t = none := by
    have h := queryOf_append (fun hc => (hlocation _ hc).2 rfl)
      (fun hc => (hlocation _ hc).1 rfl) []
    rwa [List.append_nil] at h
  rw [parse_below hbase] at hu
  obtain rfl := Option.some.inj hu
  refine ⟨?_, (congrArg queryOf htail).trans hquery⟩
  change resolve e.segments.dropLast (splitAt '/' ((countedOf t).map asSlash)) = _
  rw [hsame, resolve_of_isPlain _ hplain]

/-- **Two literal paths lead to different places.** -/
lemma below_injective {t' : List Char} {u' : Url} (hbase : IsBase base e)
    (hu : parse (String.ofList (base.toList ++ '/' :: t)) = some u)
    (hu' : parse (String.ofList (base.toList ++ '/' :: t')) = some u')
    (h : IsLiteral ('/' :: t)) (h' : IsLiteral ('/' :: t')) (hsame : u.pathText = u'.pathText) :
    t = t' := by
  have hread := (unescape_below_iff hbase hu).2 h
  rw [hsame, (unescape_below_iff hbase hu').2 h', List.append_right_inj] at hread
  exact (List.tail_eq_of_cons_eq (Utf8.bytesOf_injective hread)).symm

end ClusterDeploy.Url
