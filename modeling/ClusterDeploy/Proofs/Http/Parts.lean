import ClusterDeploy.Proofs.Http.Segments
import ClusterDeploy.Proofs.Http.Urls
import Mathlib.Data.List.DropRight

set_option relaxedAutoImplicit false
set_option autoImplicit false

/-!
# The parts of a URL that begins alike

A URL that begins with that of a directory is on the same server, and its path goes on from the
directory. Its query is what is behind the first question mark that is appended. But if there is a
query or a fragment in the first part already, then nothing that is appended belongs to the path.

## Main definitions

* `Url.locationOf`, `Url.queryOf`, `Url.ofRest` — the parts of a URL.
* `Url.frontOf`, `Url.tailOf` — what counts of the beginning and of the end of a URL.
* `Url.IsBase` — texts that are read as the URL of a directory.

## Main results

* `Url.parse_below` — what a URL with a path appended to it is read as.
* `Url.segments_of_mark` — no path can be appended to a URL with a query or a fragment.
* `Url.notMem_of_mem_segments` — no segment has a slash or a question mark in it.
-/

namespace ClusterDeploy.Url

open Text (splitAt)

variable {s t r : List Char} {e u : Url} {base : String}

/-! ## The parts of a URL -/

/-- A character of a path. A backslash is a slash. -/
def asSlash (c : Char) : Char :=
  if c == '\\' then '/' else c

/-- What names the server and the path. -/
def locationOf (rest : List Char) : List Char :=
  (rest.takeWhile fun c => !(c == '#')).takeWhile fun c => !(c == '?')

/-- The query. -/
def queryOf (rest : List Char) : Option (List Char) :=
  match (rest.takeWhile fun c => !(c == '#')).dropWhile fun c => !(c == '?') with
  | [] => none
  | _ :: q => some (escapeAll isEscapedInQuery q)

/-- The name of the server and the path, without the slashes in front. -/
def hostAndPath (rest : List Char) : List Char :=
  ((locationOf rest).map asSlash).dropWhile (· == '/')

/-- A URL, from what follows the name of the protocol. -/
def ofRest (rest : List Char) : Option Url :=
  (readServer ((hostAndPath rest).takeWhile fun c => !(c == '/'))).map fun server =>
    ⟨server, pathOf ((hostAndPath rest).dropWhile fun c => !(c == '/')), queryOf rest⟩

/-- A URL is read by taking its scheme off the front and reading the rest. -/
lemma parse_eq (text : String) :
    parse text = (dropScheme ['h', 't', 't', 'p', ':'] (clean text)).bind ofRest := by
  unfold parse
  rcases dropScheme ['h', 't', 't', 'p', ':'] (clean text) with _ | rest
  · rfl
  · simp only [Option.bind_eq_bind, Option.bind_some, splitBefore]
    change (readServer ((hostAndPath rest).takeWhile fun c => !(c == '/'))).bind _ = _
    unfold ofRest
    rcases readServer ((hostAndPath rest).takeWhile fun c => !(c == '/')) with _ | server <;> rfl

/-- Whether a character does not count at the ends of a URL. -/
def isEnd (c : Char) : Bool :=
  c.toNat ≤ 0x20

/-- Whether a character counts within a URL. -/
def isCounted (c : Char) : Bool :=
  c != '\t' && c != '\n' && c != '\r'

/-- What counts of the beginning of a URL. -/
def frontOf (s : List Char) : List Char :=
  (s.dropWhile isEnd).filter isCounted

/-- What counts of the end of a URL. -/
def tailOf (t : List Char) : List Char :=
  (t.rdropWhile isEnd).filter isCounted

/-- Nothing is dropped from the end before a slash. -/
lemma rdropWhile_append_slash (s t : List Char) :
    (s ++ '/' :: t).rdropWhile isEnd = s ++ '/' :: t.rdropWhile isEnd := by
  have hslash : isEnd '/' = false := by decide
  rw [List.rdropWhile, List.reverse_append, List.reverse_cons, List.append_assoc,
    List.singleton_append, dropWhile_append_cons hslash, List.reverse_append, List.reverse_cons,
    List.reverse_reverse, List.append_assoc, List.singleton_append]
  rfl

/-- What comes before a slash is kept but for the characters that do not count. -/
lemma tailOf_append_slash (s t : List Char) :
    tailOf (s ++ '/' :: t) = s.filter isCounted ++ '/' :: tailOf t := by
  rw [tailOf, rdropWhile_append_slash, List.filter_append, List.filter_cons_of_pos (by decide)]
  rfl

/-- Only the front of what comes before a slash is trimmed. -/
lemma clean_append_slash (s t : List Char) :
    clean (String.ofList (s ++ '/' :: t)) = frontOf s ++ '/' :: tailOf t := by
  have hclean : clean (String.ofList (s ++ '/' :: t)) =
      (((s ++ '/' :: t).dropWhile isEnd).rdropWhile isEnd).filter isCounted := by
    rw [clean, String.toList_ofList]
    rfl
  rw [hclean, dropWhile_append_cons (by decide)]
  exact tailOf_append_slash _ t

/-- A URL with a slash in it, from what follows the name of the protocol. -/
lemma parse_append_slash (s t : List Char) :
    parse (String.ofList (s ++ '/' :: t)) =
      (dropScheme ['h', 't', 't', 'p', ':'] (frontOf s)).bind fun r =>
        ofRest (r ++ '/' :: tailOf t) := by
  rw [parse_eq, clean_append_slash, dropScheme_append (by decide), Option.bind_map]
  rfl

/-! ## Below a directory -/

/-- A text is read as the URL of a directory, and has neither a query nor a fragment. -/
structure IsBase (base : String) (e : Url) : Prop where
  parse : Url.parse (base ++ "/") = some e
  noQuery : '?' ∉ base.toList
  noFragment : '#' ∉ base.toList

/-- What has neither a question mark nor a number sign in it belongs to the location. -/
lemma locationOf_append (hquery : '?' ∉ s) (hfragment : '#' ∉ s) (t : List Char) :
    locationOf (s ++ t) = s ++ locationOf t := by
  unfold locationOf
  rw [List.takeWhile_append_of_pos, List.takeWhile_append_of_pos]
  · exact fun c hc => by simpa using ne_of_mem_of_not_mem hc hquery
  · exact fun c hc => by simpa using ne_of_mem_of_not_mem hc hfragment

/-- The query begins after what has neither a question mark nor a number sign in it. -/
lemma queryOf_append (hquery : '?' ∉ s) (hfragment : '#' ∉ s) (t : List Char) :
    queryOf (s ++ t) = queryOf t := by
  unfold queryOf
  rw [List.takeWhile_append_of_pos, List.dropWhile_append_of_pos]
  · exact fun c hc => by simpa using ne_of_mem_of_not_mem hc hquery
  · exact fun c hc => by simpa using ne_of_mem_of_not_mem hc hfragment

/-- A path is gone along from the directory before its last slash. -/
lemma pathOf_append (s t : List Char) :
    pathOf (s ++ '/' :: t) = resolve (pathOf (s ++ ['/'])).dropLast (splitAt '/' t) := by
  have hempty : ∀ dir, resolve dir (splitAt '/' []) = dir ++ [[]] := fun _ => rfl
  cases s with
  | nil => rfl
  | cons c s =>
    change resolve [] (splitAt '/' (s ++ '/' :: t)) =
      resolve (resolve [] (splitAt '/' (s ++ ['/']))).dropLast (splitAt '/' t)
    rw [Text.splitAt_append, Text.splitAt_append, resolve_append _ _ (Text.splitAt_ne_nil '/' t),
      resolve_append _ _ (Text.splitAt_ne_nil '/' []), hempty, List.dropLast_concat]

/-- No server has an empty name. -/
lemma readServer_nil : readServer [] = none := by
  decide +kernel

/-- What is read behind the name of the protocol.

**Proof sketch.** If there were only slashes before the directory, then no server would be named. So
its name is complete before the path begins that is appended. -/
lemma ofRest_below (hquery : '?' ∉ r) (hfragment : '#' ∉ r) (h : ofRest (r ++ ['/']) = some e) :
    ofRest (r ++ '/' :: t) =
      some ⟨e.server, resolve e.segments.dropLast (splitAt '/' ((locationOf t).map asSlash)),
        queryOf t⟩ := by
  let host := (r.map asSlash).dropWhile (· == '/')
  have hlocation : ∀ t, (locationOf (r ++ '/' :: t)).map asSlash =
      r.map asSlash ++ '/' :: (locationOf t).map asSlash := by
    intro t
    have hcons : locationOf ('/' :: t) = '/' :: locationOf t := rfl
    rw [locationOf_append hquery hfragment, hcons, List.map_append]
    rfl
  have hquery' : ∀ t, queryOf (r ++ '/' :: t) = queryOf t := fun t =>
    queryOf_append hquery hfragment ('/' :: t)
  -- without a host there would be no URL
  have hne : host ≠ [] := by
    intro hnil
    have hslashes : hostAndPath (r ++ ['/']) = [] := by
      rw [hostAndPath, hlocation, List.dropWhile_append]
      simp only [host] at hnil
      rw [hnil]
      rfl
    rw [ofRest, hslashes, List.takeWhile_nil, readServer_nil] at h
    exact nomatch h
  have hhost : ∀ t, hostAndPath (r ++ '/' :: t) = host ++ '/' :: (locationOf t).map asSlash := by
    intro t
    rw [hostAndPath, hlocation, List.dropWhile_append, if_neg]
    rw [List.isEmpty_iff]
    exact hne
  have hofRest : ∀ t, ofRest (r ++ '/' :: t) =
      (readServer (host.takeWhile fun c => !(c == '/'))).map fun server =>
        ⟨server, pathOf ((host.dropWhile fun c => !(c == '/')) ++ '/' ::
          (locationOf t).map asSlash), queryOf t⟩ := by
    intro t
    rw [ofRest, hhost, hquery', takeWhile_append_cons rfl, dropWhile_append_cons rfl]
  rw [hofRest] at h ⊢
  obtain ⟨server, hserver, rfl⟩ := Option.map_eq_some_iff.1 h
  rw [hserver, pathOf_append]
  rfl

/-- What is left without the scheme is the end of the text. -/
lemma dropScheme_suffix {name : List Char} (h : dropScheme name s = some r) : r <:+ s := by
  induction name generalizing s with
  | nil =>
    cases h
    exact List.suffix_rfl
  | cons a name ih =>
    cases s with
    | nil => cases h
    | cons b s =>
      rw [dropScheme] at h
      split at h
      · exact (ih h).trans (List.suffix_cons b s)
      · cases h

/-- What counts of a URL is in it. -/
lemma mem_of_mem_frontOf {c : Char} (h : c ∈ frontOf s) : c ∈ s :=
  (List.dropWhile_sublist isEnd).subset (List.mem_of_mem_filter h)

/-- The text of a directory and what follows the name of the protocol in it. -/
lemma IsBase.exists_rest (hbase : IsBase base e) :
    ∃ r, dropScheme ['h', 't', 't', 'p', ':'] (frontOf base.toList) = some r ∧ '?' ∉ r ∧ '#' ∉ r ∧
      ofRest (r ++ ['/']) = some e := by
  have hparse := hbase.parse
  have htext : base ++ "/" = String.ofList (base.toList ++ ['/']) :=
    String.toList_inj.1 (by simp)
  rw [htext, parse_append_slash] at hparse
  obtain ⟨r, hr, hrest⟩ := Option.bind_eq_some_iff.1 hparse
  have hmem : ∀ c ∈ r, c ∈ base.toList := fun c hc =>
    mem_of_mem_frontOf ((dropScheme_suffix hr).subset hc)
  exact ⟨r, hr, fun h => hbase.noQuery (hmem _ h), fun h => hbase.noFragment (hmem _ h), hrest⟩

/-- **What a URL with a path appended to it is read as.** -/
lemma parse_below (hbase : IsBase base e) (t : List Char) :
    parse (String.ofList (base.toList ++ '/' :: t)) =
      some ⟨e.server,
        resolve e.segments.dropLast (splitAt '/' ((locationOf (tailOf t)).map asSlash)),
        queryOf (tailOf t)⟩ := by
  obtain ⟨r, hr, hquery, hfragment, hrest⟩ := hbase.exists_rest
  rw [parse_append_slash, hr]
  exact ofRest_below hquery hfragment hrest

/-! ## Directories with a query or a fragment -/

/-- A character that counts and is no blank is kept at the front. -/
lemma mem_frontOf {c : Char} (hc : c ∈ s) (hend : isEnd c = false) (hcounted : isCounted c = true) :
    c ∈ frontOf s := by
  refine List.mem_filter.2 ⟨?_, hcounted⟩
  rw [← List.takeWhile_append_dropWhile (p := isEnd) (l := s), List.mem_append] at hc
  exact hc.resolve_left fun h => Bool.false_ne_true (hend.symm.trans (List.mem_takeWhile_imp h))

/-- The name of a protocol is all that is dropped. -/
lemma mem_of_dropScheme {name : List Char} {c : Char} (h : dropScheme name s = some r) (hc : c ∈ s)
    (hname : c.toLower ∉ name) : c ∈ r := by
  induction name generalizing s with
  | nil =>
    cases h
    exact hc
  | cons a name ih =>
    cases s with
    | nil => cases h
    | cons b s =>
      rw [List.mem_cons, not_or] at hname
      rw [dropScheme] at h
      split at h
      · next hab =>
        refine ih h ((List.mem_cons.1 hc).resolve_left ?_) hname.2
        rintro rfl
        exact hname.1 (beq_iff_eq.1 hab).symm
      · cases h

/-- Nothing that is appended behind a query or a fragment belongs to the path. -/
lemma locationOf_append_of_mark (h : '?' ∈ r ∨ '#' ∈ r) (t : List Char) :
    locationOf (r ++ t) = locationOf r := by
  unfold locationOf
  rcases takeWhile_append_cases (fun c => !(c == '#')) r t with hfirst | ⟨hfirst, hall⟩
  · rw [hfirst]
  · have hquery : '?' ∈ r := h.resolve_right fun hmem => by
      rw [← hall] at hmem
      exact absurd (List.mem_takeWhile_imp hmem) (by decide)
    rw [hfirst, hall]
    refine (takeWhile_append_cases _ r _).resolve_right ?_
    rintro ⟨-, hall⟩
    rw [← hall] at hquery
    exact absurd (List.mem_takeWhile_imp hquery) (by decide)

/-- The name of a server ends before the first slash behind it. -/
lemma takeWhile_hostAndPath_append_slash (hne : (r.map asSlash).dropWhile (· == '/') ≠ [])
    (t : List Char) :
    (hostAndPath (r ++ '/' :: t)).takeWhile (fun c => !(c == '/')) =
      (hostAndPath r).takeWhile fun c => !(c == '/') := by
  by_cases hmark : '?' ∈ r ∨ '#' ∈ r
  · rw [hostAndPath, locationOf_append_of_mark hmark]
    rfl
  · obtain ⟨hquery, hfragment⟩ := not_or.1 hmark
    have hr := locationOf_append hquery hfragment []
    rw [List.append_nil] at hr
    have hslash : locationOf ('/' :: t) = '/' :: locationOf t := rfl
    have hnil : locationOf [] = [] := rfl
    rw [hostAndPath, hostAndPath, locationOf_append hquery hfragment, hr, hslash, hnil,
      List.append_nil, List.map_append, List.dropWhile_append, if_neg (mt List.isEmpty_iff.1 hne)]
    exact takeWhile_append_cons rfl

/-- Whatever is appended to a URL with a query or a fragment, the path stays the same. -/
lemma segments_of_mark (hmark : '?' ∈ base.toList ∨ '#' ∈ base.toList)
    (he : parse (base ++ "/") = some e)
    (hu : parse (String.ofList (base.toList ++ '/' :: t)) = some u) : u.segments = e.segments := by
  have htext : base ++ "/" = String.ofList (base.toList ++ ['/']) :=
    String.toList_inj.1 (by simp)
  rw [htext, parse_append_slash] at he
  rw [parse_append_slash] at hu
  obtain ⟨r, hr, he⟩ := Option.bind_eq_some_iff.1 he
  rw [hr, Option.bind_some] at hu
  have hmark : '?' ∈ r ∨ '#' ∈ r := hmark.imp
    (fun h => mem_of_dropScheme hr (mem_frontOf h (by decide) (by decide)) (by decide))
    (fun h => mem_of_dropScheme hr (mem_frontOf h (by decide) (by decide)) (by decide))
  unfold ofRest hostAndPath at he hu
  rw [locationOf_append_of_mark hmark] at he hu
  obtain ⟨_, -, rfl⟩ := Option.map_eq_some_iff.1 he
  obtain ⟨_, -, rfl⟩ := Option.map_eq_some_iff.1 hu
  rfl

/-! ## Characters of a path -/

/-- The directories above are among those that were there. -/
lemma mem_of_mem_above {dir : List (List Char)} (h : s ∈ above dir) : s ∈ dir := by
  unfold above at h
  split at h
  · exact h
  · exact List.mem_of_mem_dropLast h

/-- What holds of the segments of a directory, of all that are appended and of the empty one, holds
of the segments to which they lead. -/
lemma forall_mem_resolve {P : List Char → Prop} (hempty : P []) {dir segments : List (List Char)}
    (hdir : ∀ s ∈ dir, P s) (hsegments : ∀ s ∈ segments, P (escapeAll isEscapedInPath s)) :
    ∀ s ∈ resolve dir segments, P s := by
  have habove : ∀ {dir : List (List Char)}, (∀ s ∈ dir, P s) → ∀ s ∈ above dir, P s :=
    fun hdir s hs => hdir s (mem_of_mem_above hs)
  have hconcat : ∀ {dir : List (List Char)} {x : List Char}, (∀ s ∈ dir, P s) → P x →
      ∀ s ∈ dir ++ [x], P s := fun hdir hx =>
    List.forall_mem_append.2 ⟨hdir, List.forall_mem_singleton.2 hx⟩
  induction dir, segments using resolve.induct with
  | case1 dir => exact hdir
  | case2 dir last hdouble =>
    rw [resolve, if_pos hdouble]
    exact hconcat (habove hdir) hempty
  | case3 dir last hdouble hsingle =>
    rw [resolve, if_neg hdouble, if_pos hsingle]
    exact hconcat hdir hempty
  | case4 dir last hdouble hsingle =>
    rw [resolve, if_neg hdouble, if_neg hsingle]
    exact hconcat hdir (hsegments last List.mem_cons_self)
  | case5 dir s rest hrest hdouble ih =>
    rw [resolve, if_pos hdouble]
    · exact ih (habove hdir) (List.forall_mem_cons.1 hsegments).2
    · exact hrest
  | case6 dir s rest hrest hdouble hsingle ih =>
    rw [resolve, if_neg hdouble, if_pos hsingle]
    · exact ih hdir (List.forall_mem_cons.1 hsegments).2
    · exact hrest
  | case7 dir s rest hrest hdouble hsingle ih =>
    obtain ⟨hs, hmore⟩ := List.forall_mem_cons.1 hsegments
    rw [resolve, if_neg hdouble, if_neg hsingle]
    · exact ih (hconcat hdir hs) hmore
    · exact hrest

/-- **No segment has a slash or a question mark in it.** -/
lemma notMem_of_mem_segments {text : String} (hu : parse text = some u) (hs : s ∈ u.segments) :
    '/' ∉ s ∧ '?' ∉ s := by
  have hpath : ∀ path, ∀ s ∈ pathOf path, '/' ∉ s ∧ '?' ∉ s := by
    intro path
    have hempty : '/' ∉ ([] : List Char) ∧ '?' ∉ ([] : List Char) :=
      ⟨List.not_mem_nil, List.not_mem_nil⟩
    cases path with
    | nil => exact List.forall_mem_singleton.2 hempty
    | cons c rest =>
      refine forall_mem_resolve hempty (List.forall_mem_nil _)
        fun s hs => ⟨fun h => ?_, fun h => ?_⟩
      · exact Text.notMem_of_mem_splitAt hs (mem_of_mem_escapeAll (by decide) (by decide) h).1
      · exact absurd (mem_of_mem_escapeAll (by decide) (by decide) h).2 (by decide)
  rw [parse_eq] at hu
  obtain ⟨rest, -, hrest⟩ := Option.bind_eq_some_iff.1 hu
  obtain ⟨server, -, rfl⟩ := Option.map_eq_some_iff.1 hrest
  exact hpath _ s hs

end ClusterDeploy.Url
