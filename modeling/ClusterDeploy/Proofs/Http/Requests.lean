import ClusterDeploy.Http.Exchange
import ClusterDeploy.Proofs.Http.Paths

set_option relaxedAutoImplicit false
set_option autoImplicit false

/-!
# What a server reads in a request

A server reads the path and the parameters of a request in its target. The path is that of the URL,
and the parameters are those in the query of the URL, followed by the ones with which the request
was sent, in order: names and values are read as they were, whatever their characters are.

## Main definitions

* `Http.Request.path`, `Http.Request.query` — the parts of a target.
* `Url.parametersOf`, `Http.Request.parameters` — the names and values in a query.

## Main results

* `Url.formDecode_formEncode` — a name or value is read as it was.
* `Http.Request.path_eq`, `Http.Request.parameters_eq` — the path and the parameters of a request.
-/

namespace ClusterDeploy

namespace Url

open Text (unescape)
open Utf8 (bytesOf)

variable {c : Char} {s t : List Char}

/-! ## Names and values -/

/-- A text is read as its own bytes if all its percent signs are escaped. -/
lemma unescape_escapeAll_of_percent {isEscaped : Char → Bool} (hpercent : isEscaped '%' = true)
    (s : List Char) : unescape (escapeAll isEscaped s) = bytesOf s := by
  induction s with
  | nil => rfl
  | cons c s ih =>
    rw [escapeAll_cons, Utf8.bytesOf_cons, ← ih]
    split
    · exact Text.unescape_escape c _
    · next hc =>
      refine Text.unescape_cons_of_ne ?_
      rintro rfl
      exact hc hpercent

/-- The bytes of a name or value. A plus sign is a blank. -/
def formDecode (s : List Char) : Bytes :=
  unescape (s.map fun c => if c == '+' then ' ' else c)

/-- **A name or value is read as it was.** -/
lemma formDecode_formEncode (s : String) : formDecode (formEncode s) = Utf8.encode s := by
  have hescape : ∀ c, (Text.escape c).map (fun c => if c == '+' then ' ' else c) =
      Text.escape c := by
    intro c
    refine (List.map_congr_left fun x hx => if_neg ?_).trans (List.map_id' _)
    rw [beq_iff_eq]
    rintro rfl
    rcases Text.eq_or_isAlphanum_of_mem_escape hx with h | h <;> exact absurd h (by decide)
  -- a plus sign only comes from a blank
  have hblank : (formEncode s).map (fun c => if c == '+' then ' ' else c) =
      escapeAll (fun c => !isPlain c && !(c == ' ')) s.toList := by
    unfold formEncode
    induction s.toList with
    | nil => rfl
    | cons c s ih =>
      rw [List.flatMap_cons, List.map_append, ih, escapeAll_cons]
      congr 1
      by_cases hplain : isPlain c = true
      · have hplus : ¬(c == '+') = true := by
          rw [beq_iff_eq]
          rintro rfl
          exact absurd hplain (by decide)
        rw [if_pos hplain, hplain, List.map_singleton, if_neg hplus]
        rfl
      · by_cases hspace : (c == ' ') = true
        · rw [if_neg hplain, if_pos hspace, beq_iff_eq.1 hspace]
          rfl
        · rw [if_neg hplain, if_neg hspace, hescape, if_pos]
          simp [hplain, hspace]
  rw [formDecode, hblank, unescape_escapeAll_of_percent (by decide), Utf8.encode_eq]

/-- Only characters that stand for themselves, plus signs and percent signs come up in a name or
value. -/
lemma notMem_formEncode (hplain : isPlain c = false) (hplus : c ≠ '+') (hpercent : c ≠ '%')
    (s : String) : c ∉ formEncode s := by
  intro h
  obtain ⟨x, -, hx⟩ := List.mem_flatMap.1 h
  split at hx
  · next hplain' =>
    rw [← List.mem_singleton.1 hx, hplain] at hplain'
    exact Bool.false_ne_true hplain'
  · split at hx
    · exact hplus (List.mem_singleton.1 hx)
    · refine (Text.eq_or_isAlphanum_of_mem_escape hx).elim hpercent fun halphanum => ?_
      rw [isPlain, halphanum] at hplain
      exact nomatch hplain

/-! ## Parameters -/

/-- The names and values in a query. -/
def parametersOf (query : List Char) : List (Bytes × Bytes) :=
  ((Text.splitAt '&' query).filter fun part => !part.isEmpty).map fun part =>
    (formDecode (part.takeWhile fun c => !(c == '=')),
      formDecode ((part.dropWhile fun c => !(c == '=')).drop 1))

/-- The parameters on both sides of an ampersand are read apart. -/
lemma parametersOf_append (s t : List Char) :
    parametersOf (s ++ '&' :: t) = parametersOf s ++ parametersOf t := by
  rw [parametersOf, Text.splitAt_append, List.filter_append, List.map_append]
  rfl

/-- A parameter as a server reads it. -/
def encoded (p : String × String) : Bytes × Bytes :=
  (Utf8.encode p.1, Utf8.encode p.2)

/-- A parameter that is written is read as one parameter. -/
lemma parametersOf_parameter (p : String × String) : parametersOf (parameter p) = [encoded p] := by
  have hnot : ∀ c, isPlain c = false → c ≠ '+' → c ≠ '%' → c ≠ '=' → c ∉ parameter p := by
    intro c hplain hplus hpercent heq h
    rcases List.mem_append.1 h with h | h
    · exact notMem_formEncode hplain hplus hpercent p.1 h
    · exact notMem_formEncode hplain hplus hpercent p.2 ((List.mem_cons.1 h).resolve_left heq)
  have hname : ∀ c ∈ formEncode p.1, (!(c == '=')) = true := by
    intro c hc
    simpa using ne_of_mem_of_not_mem hc
      (notMem_formEncode (by decide) (by decide) (by decide) p.1)
  have hsplit : Text.splitAt '&' (parameter p) = [parameter p] :=
    Text.splitAt_of_notMem (hnot '&' (by decide) (by decide) (by decide) (by decide))
  have hne : ([parameter p].filter fun part => !part.isEmpty) = [parameter p] := by
    refine List.filter_cons_of_pos ?_
    rw [parameter]
    cases formEncode p.1 <;> rfl
  rw [parametersOf, hsplit, hne, List.map_singleton, parameter,
    List.takeWhile_append_of_pos hname, List.dropWhile_append_of_pos hname,
    List.takeWhile_cons_of_neg (by decide), List.dropWhile_cons_of_neg (by decide),
    List.append_nil, List.drop_one, List.tail_cons, formDecode_formEncode, formDecode_formEncode]
  rfl

/-- A parameter that is appended to a query is read behind those that were there. -/
lemma parametersOf_appendParameter (query : List Char) (p : String × String) :
    parametersOf (appendParameter query p) = parametersOf query ++ [encoded p] := by
  unfold appendParameter
  split
  · next hempty =>
    rw [List.isEmpty_iff.1 hempty, parametersOf_parameter]
    rfl
  · rw [parametersOf_append, parametersOf_parameter]

/-- **The parameters with which a request is sent** are read behind those of its URL, in order. -/
lemma parametersOf_withParameters (u : Url) (parameters : List (String × String)) :
    parametersOf ((u.withParameters parameters).query.getD []) =
      parametersOf (u.query.getD []) ++ parameters.map encoded := by
  have hfoldl : ∀ (parameters : List (String × String)) (query : List Char),
      parametersOf (parameters.foldl appendParameter query) =
        parametersOf query ++ parameters.map encoded := by
    intro parameters
    induction parameters with
    | nil => exact fun query => (List.append_nil _).symm
    | cons p parameters ih =>
      intro query
      rw [List.foldl_cons, ih, parametersOf_appendParameter, List.append_assoc]
      rfl
  cases parameters with
  | nil => exact (List.append_nil _).symm
  | cons p parameters => exact hfoldl (p :: parameters) _

/-- Parameters leave the path of a URL as it is. -/
@[simp]
lemma segments_withParameters (u : Url) (parameters : List (String × String)) :
    (u.withParameters parameters).segments = u.segments := by
  cases parameters <;> rfl

end Url

/-! ## Targets -/

namespace Http.Request

open Url (parametersOf)

/-- The path of a request. -/
def path (request : Request) : List Char :=
  request.target.toList.takeWhile fun c => !(c == '?')

/-- The query of a request. -/
def query (request : Request) : Option (List Char) :=
  match request.target.toList.dropWhile fun c => !(c == '?') with
  | [] => none
  | _ :: q => some q

/-- The names and values in the query of a request. -/
def parameters (request : Request) : List (Bytes × Bytes) :=
  parametersOf (request.query.getD [])

variable {u : Url} {text : String} {parameters : List (String × String)} {request : Request}

/-- The parts of a target. -/
lemma path_and_query_of_target (hmark : ∀ s ∈ u.segments, '?' ∉ s)
    (h : request.target = u.target) :
    request.path = u.pathText ∧
      request.query = if (u.query.getD []).isEmpty then none else some (u.query.getD []) := by
  have hpath : ∀ c ∈ u.pathText, (!(c == '?')) = true := by
    intro c hc
    obtain ⟨s, hs, hc⟩ := List.mem_flatMap.1 hc
    rcases List.mem_cons.1 hc with rfl | hc
    · rfl
    · simpa using ne_of_mem_of_not_mem hc (hmark s hs)
  unfold path query
  rw [h, Url.target, String.toList_ofList, List.takeWhile_append_of_pos hpath,
    List.dropWhile_append_of_pos hpath]
  split <;> simp

/-- **The path of a request** is that of its URL. -/
lemma path_eq (hu : Url.parse text = some u)
    (h : request.target = (u.withParameters parameters).target) : request.path = u.pathText := by
  have hmark : ∀ s ∈ (u.withParameters parameters).segments, '?' ∉ s := by
    rw [Url.segments_withParameters]
    exact fun s hs => (Url.notMem_of_mem_segments hu hs).2
  rw [(path_and_query_of_target hmark h).1, Url.pathText_eq, Url.segments_withParameters,
    Url.pathText_eq]

/-- **The parameters of a request** are those of its URL, and then those with which it is sent. -/
lemma parameters_eq (hu : Url.parse text = some u)
    (h : request.target = (u.withParameters parameters).target) :
    request.parameters = parametersOf (u.query.getD []) ++ parameters.map Url.encoded := by
  have hmark : ∀ s ∈ (u.withParameters parameters).segments, '?' ∉ s := by
    rw [Url.segments_withParameters]
    exact fun s hs => (Url.notMem_of_mem_segments hu hs).2
  rw [Request.parameters, (path_and_query_of_target hmark h).2, ← Url.parametersOf_withParameters]
  split
  · next hempty => rw [List.isEmpty_iff.1 hempty, Option.getD_none]
  · rfl

end Http.Request

end ClusterDeploy
