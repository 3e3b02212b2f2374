import ClusterDeploy.Http.Url
import Mathlib.Tactic.Lemma

set_option relaxedAutoImplicit false
set_option autoImplicit false

/-!
# The server in a URL does not depend on the end of its path

URLs that begin alike name the same server, as long as what they have in common has a directory in
its path. So of several URLs below one directory either all can be read or none.

## Main definitions

* `Url.authorityOf` — the part of a URL that names the server.

## Main results

* `Url.server_parse_append` — the server in a URL, whatever there is below a directory.

## Implementation notes

The directory that the URLs have in common need not end up in the path: it may lie in the query, or
even name the server, if there is nothing between the slashes before it.
-/

namespace ClusterDeploy.Url

/-- The part of a URL that names the server, from what follows the name of the protocol. -/
def authorityOf (rest : List Char) : List Char :=
  (((((rest.takeWhile fun c => !(c == '#')).takeWhile fun c => !(c == '?')).map
    fun c => if c == '\\' then '/' else c).dropWhile (· == '/')).takeWhile fun c => !(c == '/'))

/-- The server that a URL names is read from this part of it. -/
lemma server_parse (text : String) :
    (parse text).map server =
      (dropScheme ['h', 't', 't', 'p', ':'] (clean text)).bind fun rest =>
        readServer (authorityOf rest) := by
  unfold parse
  rcases dropScheme ['h', 't', 't', 'p', ':'] (clean text) with _ | rest
  · rfl
  · simp only [Option.bind_eq_bind, Option.bind_some, splitBefore]
    change Option.map server ((readServer (authorityOf rest)).bind _) = _
    rcases readServer (authorityOf rest) with _ | server <;> rfl

variable {p : Char → Bool} {s t : List Char}

/-! ## Texts that begin alike -/

/-- What is taken of a text may end in its first part, and otherwise it has all of it. -/
lemma takeWhile_append_cases (p : Char → Bool) (s t : List Char) :
    (s ++ t).takeWhile p = s.takeWhile p ∨
      (s ++ t).takeWhile p = s ++ t.takeWhile p ∧ s.takeWhile p = s := by
  rw [List.takeWhile_append]
  by_cases hall : (s.takeWhile p).length = s.length
  · rw [if_pos hall]
    exact .inr ⟨rfl, (List.takeWhile_prefix p).eq_of_length hall⟩
  · rw [if_neg hall]
    exact .inl rfl

/-- Nothing is taken behind a character that ends the taking. -/
lemma takeWhile_append_cons {c : Char} (hc : p c = false) :
    (s ++ c :: t).takeWhile p = s.takeWhile p := by
  rcases takeWhile_append_cases p s (c :: t) with h | ⟨h, hs⟩
  · exact h
  · rw [h, hs, List.takeWhile_cons_of_neg (by simp [hc]), List.append_nil]

/-- Nothing is dropped from a character on that ends the dropping. -/
lemma dropWhile_append_cons {c : Char} (hc : p c = false) :
    (s ++ c :: t).dropWhile p = s.dropWhile p ++ c :: t := by
  induction s with
  | nil => rw [List.nil_append, List.dropWhile_cons_of_neg (by simp [hc]), List.dropWhile_nil,
      List.nil_append]
  | cons a s ih =>
    rw [List.cons_append, List.dropWhile_cons, List.dropWhile_cons]
    split
    · exact ih
    · rfl

/-- The name of a protocol ends before the first slash. -/
lemma dropScheme_append {name : List Char} (hname : '/' ∉ name) :
    dropScheme name (s ++ '/' :: t) = (dropScheme name s).map (· ++ '/' :: t) := by
  induction name generalizing s with
  | nil => cases s <;> rfl
  | cons a name ih =>
    rw [List.mem_cons, not_or] at hname
    cases s with
    | nil =>
      have hslash : ¬(a == Char.toLower '/') = true := mt beq_iff_eq.1 (Ne.symm hname.1)
      exact if_neg hslash
    | cons b s =>
      rw [List.cons_append, dropScheme, dropScheme]
      split
      · exact ih hname.2
      · rfl

/-- Nothing is dropped from the end if the last character ends the dropping. -/
lemma reverse_dropWhile_reverse {last : Char} (hlast : p last = false) :
    ((s ++ [last]).reverse.dropWhile p).reverse = s ++ [last] := by
  rw [List.reverse_append, List.reverse_singleton, List.singleton_append,
    List.dropWhile_cons_of_neg (by simp [hlast]), List.reverse_cons, List.reverse_reverse]

/-- The characters that are not blank and no control characters count. -/
lemma filter_eq_self (ht : ∀ c ∈ t, 0x20 < c.toNat) :
    t.filter (fun c => c != '\t' && c != '\n' && c != '\r') = t := by
  refine List.filter_eq_self.2 fun c hc => ?_
  have hlarge := ht c hc
  have hne : ∀ d : Char, d.toNat ≤ 0x20 → (c != d) = true := by
    intro d hd
    refine bne_iff_ne.2 fun heq => ?_
    rw [heq] at hlarge
    omega
  rw [hne _ (by decide), hne _ (by decide), hne _ (by decide)]
  rfl

/-- Only the beginning of a text is cleaned if there are only characters that count behind it. -/
lemma clean_append (u : List Char) (ht : t ≠ []) (hcount : ∀ c ∈ t, 0x20 < c.toNat) :
    clean (String.ofList (u ++ t)) =
      (u.dropWhile fun c => decide (c.toNat ≤ 0x20)).filter
        (fun c => c != '\t' && c != '\n' && c != '\r') ++ t := by
  have hend : ∀ c ∈ t, decide (c.toNat ≤ 0x20) = false := fun c hc =>
    decide_eq_false (Nat.not_le.2 (hcount c hc))
  have hfront : (u ++ t).dropWhile (fun c => decide (c.toNat ≤ 0x20)) =
      u.dropWhile (fun c => decide (c.toNat ≤ 0x20)) ++ t := by
    obtain ⟨first, more, rfl⟩ := List.exists_cons_of_ne_nil ht
    exact dropWhile_append_cons (hend first List.mem_cons_self)
  simp only [clean, String.toList_ofList]
  rw [hfront]
  obtain ⟨init, last, hlast⟩ := (List.eq_nil_or_concat t).resolve_left ht
  rw [List.concat_eq_append] at hlast
  rw [hlast, ← List.append_assoc,
    reverse_dropWhile_reverse (hend last (by rw [hlast]; exact List.mem_append_right _ (by simp))),
    List.append_assoc, ← hlast, List.filter_append, filter_eq_self hcount]

/-! ## URLs that begin alike -/

section Directory

variable {c : Char} {dir : List Char}

/-- The name of the server ends at the latest behind a directory that has a name. -/
lemma authorityOf_append (r t : List Char) (hc : c ≠ '/') (hc' : c ≠ '\\') :
    authorityOf ((r ++ '/' :: c :: dir ++ ['/']) ++ t) =
      authorityOf (r ++ '/' :: c :: dir ++ ['/']) := by
  let slash : Char → Char := fun c => if c == '\\' then '/' else c
  -- the slash behind the directory ends the authority, whatever follows it
  have hbody : ∀ more : List Char,
      ((((r ++ '/' :: c :: dir ++ ['/']) ++ more).map slash).dropWhile (· == '/')).takeWhile
        (fun c => !(c == '/')) =
      ((((r ++ ['/']).map slash).dropWhile (· == '/')) ++ c :: dir.map slash).takeWhile
        fun c => !(c == '/') := by
    intro more
    have hsplit : (r ++ '/' :: c :: dir ++ ['/']) ++ more =
        (r ++ ['/']) ++ c :: (dir ++ '/' :: more) := by simp
    have hletter : slash c = c := if_neg (by simpa using hc')
    have hdir : (dir ++ '/' :: more).map slash = dir.map slash ++ '/' :: more.map slash :=
      List.map_append
    rw [hsplit, List.map_append, List.map_cons, hletter,
      dropWhile_append_cons (p := (· == '/')) (beq_false_of_ne hc), hdir, ← List.cons_append,
      ← List.append_assoc]
    exact takeWhile_append_cons rfl
  have hnil := hbody []
  rw [List.append_nil] at hnil
  unfold authorityOf
  rcases takeWhile_append_cases (fun c => !(c == '#')) (r ++ '/' :: c :: dir ++ ['/']) t with
    h | ⟨h, hs⟩
  · rw [h]
  · rw [h, hs]
    rcases takeWhile_append_cases (fun c => !(c == '?')) (r ++ '/' :: c :: dir ++ ['/'])
      (t.takeWhile fun c => !(c == '#')) with h | ⟨h, hs⟩
    · rw [h]
    · rw [h, hs]
      exact (hbody _).trans hnil.symm

/-- The characters of a text that is written out are looked at one by one. -/
lemma blank_lt_of_all (h : (s.all fun c => 0x20 < c.toNat) = true) : ∀ c ∈ s, 0x20 < c.toNat :=
  fun c hc => of_decide_eq_true (List.all_eq_true.1 h c hc)

/-- **The server in a URL does not depend on what is below a directory.** -/
lemma server_parse_append (u : List Char) (hc : c ≠ '/') (hc' : c ≠ '\\')
    (hdir : ∀ x ∈ c :: dir, 0x20 < x.toNat) (ht : ∀ x ∈ t, 0x20 < x.toNat) :
    (parse (String.ofList (u ++ '/' :: c :: dir ++ '/' :: t))).map server =
      (parse (String.ofList (u ++ '/' :: c :: dir ++ ['/']))).map server := by
  have hserver : ∀ more : List Char, (∀ x ∈ more, 0x20 < x.toNat) →
      (parse (String.ofList (u ++ '/' :: c :: dir ++ '/' :: more))).map server =
        (dropScheme ['h', 't', 't', 'p', ':']
          ((u.dropWhile fun c => decide (c.toNat ≤ 0x20)).filter
            fun c => c != '\t' && c != '\n' && c != '\r')).bind fun rest =>
          readServer (authorityOf (rest ++ '/' :: c :: dir ++ ['/'])) := by
    intro more hmore
    have hcount : ∀ x ∈ '/' :: (c :: dir ++ '/' :: more), 0x20 < x.toNat := by
      rw [List.forall_mem_cons, List.forall_mem_append]
      exact ⟨by decide, hdir, List.forall_mem_cons.2 ⟨by decide, hmore⟩⟩
    rw [List.append_assoc, List.cons_append, server_parse,
      clean_append u (List.cons_ne_nil _ _) hcount, dropScheme_append (by decide), Option.bind_map]
    congr 1
    funext rest
    have hsplit : rest ++ '/' :: (c :: dir ++ '/' :: more) =
        (rest ++ '/' :: c :: dir ++ ['/']) ++ more := by simp
    rw [Function.comp_apply, hsplit, authorityOf_append rest more hc hc']
  rw [hserver t ht, hserver [] (fun x hx => absurd hx List.not_mem_nil)]

end Directory

end ClusterDeploy.Url
