import ClusterDeploy.Json.Record
import ClusterDeploy.Proofs.Json.Values
import Mathlib.Data.List.Forall2
import Mathlib.Logic.Function.Basic

set_option relaxedAutoImplicit false
set_option autoImplicit false

/-!
# Documents that are read and written again

A document is read as a value, and the text of this value is a document again. That may be another
one: members are in order of their keys, each key occurs once, and a double may have other digits.
But strings are the same, and so is what is found in the fields of a record.

## Main definitions

* `Json.lastMember` — a member of an object as written.
* `Json.Means`, `Json.Survives` — a field and its value, and readers to which it makes no difference
  that a document was read and written.

## Main results

* `Json.exists_of_ofSyntax_object` — the members of an object and those of its value.
* `Json.exists_slots_written` — the fields of a record are found again.
* `Json.required_written`, `Json.defaulted_written`, `Json.optional_written` — what is read from a
  field is read from it again.
-/

namespace ClusterDeploy.Json

variable {value : Json} {members : List (String × Json)} {key : String}
  {names : List String} {depth n m : Nat}

/-! ## Members -/

/-- A member of an object as written; of several with one key it is the last. -/
def lastMember (key : String) (members : List (List Piece × Syntax)) : Option Syntax :=
  (members.reverse.find? fun m => text? m.1 == some key).map (·.2)

/-- Whether a field has a value: both are absent, or the field is read as the value. -/
def Means (depth : Nat) : Option Syntax → Option Json → Prop :=
  Option.Rel fun doc value => ofSyntax depth doc = some value

/-- Whether what a reader takes from a document is taken from it again, by another reader, when it
was read as a value and written. -/
def Survives {α : Type} (depth : Nat) (read read' : Syntax → Option α) : Prop :=
  ∀ (doc : Syntax) (value : Json) (x : α), ofSyntax depth doc = some value → read doc = some x →
    read' value.written = some x

variable {doc : Syntax} {raw : Option Syntax} {field : Option Json} {filled : List (Option Syntax)}
  {parts : List (List Piece × Syntax)} {slot : String → Option Syntax}

/-- A member counts if no later one has its key. -/
lemma lastMember_cons {first : List Piece × Syntax} :
    lastMember key (first :: parts) =
      (lastMember key parts).or (if text? first.1 = some key then some first.2 else none) := by
  unfold lastMember
  rw [List.reverse_cons, List.find?_append, Option.map_or, List.find?_singleton]
  congr 1
  by_cases hkey : text? first.1 = some key <;> simp [hkey]

/-- The value under the first key of an object, and under the others. -/
lemma get?_cons {first : String × Json} :
    (Json.object (first :: members)).get? key =
      if first.1 = key then some first.2 else (Json.object members).get? key := by
  rw [get?, get?, List.find?_cons]
  by_cases hkey : first.1 = key
  · rw [if_pos hkey, beq_iff_eq.2 hkey, Option.map_some]
  · rw [if_neg hkey, beq_eq_false_iff_ne.2 hkey]

/-- The value under a key that was put in, and under the others. -/
lemma get?_insertMember {new : String} :
    (Json.object (insertMember new value members)).get? key =
      if new = key then some value else (Json.object members).get? key := by
  rw [get?, get?, find?_insertMember]
  split_ifs <;> rfl

/-- A list is read if each of its elements is. -/
lemma forall₂_of_mapM {α β : Type} {read : α → Option β} {l : List α} {l' : List β}
    (h : l.mapM read = some l') : List.Forall₂ (fun a b => read a = some b) l l' := by
  induction l generalizing l' with
  | nil =>
    obtain rfl := Option.some.inj h
    exact .nil
  | cons a l ih =>
    rw [List.mapM_cons] at h
    obtain ⟨b, hb, h⟩ := Option.bind_eq_some_iff.1 h
    obtain ⟨l', hl, h⟩ := Option.bind_eq_some_iff.1 h
    obtain rfl := Option.some.inj h
    exact .cons hb (ih hl)

/-- Copies of two values that fit together fit together. -/
lemma forall₂_replicate {α β : Type} {R : α → β → Prop} {a : α} {b : β} (h : R a b) :
    List.Forall₂ R (List.replicate n a) (List.replicate n b) := by
  induction n with
  | zero => exact .nil
  | succ n ih => exact .cons h ih

/-- **What is read as an array** is an array with as many items. -/
lemma exists_of_ofSyntax_array {docs : List Syntax}
    (h : ofSyntax (depth + 1) (.array docs) = some value) :
    ∃ items, value = .array items ∧
      List.Forall₂ (fun doc item => ofSyntax depth doc = some item) docs items := by
  rw [ofSyntax] at h
  obtain ⟨items, hitems, rfl⟩ := Option.map_eq_some_iff.1 h
  exact ⟨items, rfl, forall₂_of_mapM hitems⟩

/-- Members that are put into an object one after the other replace those with the same key. -/
lemma means_foldl {pairs object : List (String × Json)}
    (h : List.Forall₂ (fun p m => text? p.1 = some m.1 ∧ ofSyntax depth p.2 = some m.2) parts pairs)
    (hraw : Means depth raw ((Json.object object).get? key)) :
    Means depth ((lastMember key parts).or raw)
      ((Json.object (pairs.foldl (fun object m => insertMember m.1 m.2 object) object)).get?
        key) := by
  induction h generalizing object raw with
  | nil => exact hraw
  | @cons p m _ _ hpair _ ih =>
    rw [lastMember_cons, Option.or_assoc, List.foldl_cons]
    refine ih ?_
    rw [get?_insertMember, hpair.1]
    by_cases hkey : m.1 = key
    · rw [if_pos hkey, if_pos (congrArg some hkey)]
      exact .some hpair.2
    · rw [if_neg hkey, if_neg fun h => hkey (Option.some.inj h)]
      exact hraw

/-- **What is read as an object** is an object in which each member is the last one with its key. -/
lemma exists_of_ofSyntax_object (h : ofSyntax (depth + 1) (.object parts) = some value) :
    ∃ members, value = .object members ∧ members.Pairwise (fun m n => m.1 < n.1) ∧
      ∀ key, Means depth (lastMember key parts) ((Json.object members).get? key) := by
  rw [ofSyntax] at h
  obtain ⟨pairs, hpairs, rfl⟩ := Option.map_eq_some_iff.1 h
  have hpairs := (forall₂_of_mapM hpairs).imp fun p m hm =>
    show text? p.1 = some m.1 ∧ ofSyntax depth p.2 = some m.2 by
      obtain ⟨key, hkey, hm⟩ := Option.bind_eq_some_iff.1 hm
      obtain ⟨value, hvalue, hm⟩ := Option.bind_eq_some_iff.1 hm
      obtain rfl := Option.some.inj hm
      exact ⟨hkey, hvalue⟩
  refine ⟨membersOf pairs, rfl, pairwise_membersOf, fun key => ?_⟩
  have hempty : Means depth none ((Json.object []).get? key) := .none
  rw [← Option.or_none (o := lastMember key parts)]
  exact means_foldl hpairs hempty

/-! ## The fields of a record -/

/-- A value goes to the field that has its key, unless it has a value already. -/
lemma fillSlot_cons {name : String} :
    fillSlot key doc (name :: names) (raw :: filled) =
      if name = key then if raw.isSome then none else some (some doc :: filled)
      else (fillSlot key doc names filled).map (raw :: ·) := by
  rcases raw with _ | old <;> rfl

/-- A member fills the field that it names, if this is still empty. -/
lemma fillSlot_map (hnames : names.Nodup) :
    fillSlot key doc names (names.map slot) =
      if key ∈ names ∧ (slot key).isSome then none
      else some (names.map (Function.update slot key (some doc))) := by
  induction names with
  | nil => simp [fillSlot]
  | cons name names ih =>
    obtain ⟨hname, hnames⟩ := List.nodup_cons.1 hnames
    rw [List.map_cons, fillSlot_cons]
    by_cases hkey : name = key
    · subst hkey
      have hothers : names.map (Function.update slot name (some doc)) = names.map slot :=
        List.map_congr_left fun other hother =>
          Function.update_of_ne (ne_of_mem_of_not_mem hother hname) _ _
      rw [if_pos rfl, List.map_cons, Function.update_self, hothers]
      rcases slot name with _ | old <;> simp
    · rw [if_neg hkey, ih hnames, List.map_cons, Function.update_of_ne hkey]
      simp only [List.mem_cons, Ne.symm hkey, false_or]
      split_ifs <;> rfl

/-- A record that is read has in each field what was there, or else the member with its name. -/
lemma eq_of_fillSlots (hnames : names.Nodup)
    (h : fillSlots names parts (names.map slot) = some filled) :
    filled = names.map fun name => (lastMember name parts).or (slot name) := by
  induction parts generalizing slot with
  | nil => exact (Option.some.inj h).symm
  | cons first parts ih =>
    rw [fillSlots] at h
    obtain ⟨key, hkey, h⟩ := Option.bind_eq_some_iff.1 h
    obtain ⟨slots, hslots, h⟩ := Option.bind_eq_some_iff.1 h
    rw [fillSlot_map hnames] at hslots
    split_ifs at hslots
    obtain rfl := Option.some.inj hslots
    rw [ih h]
    refine List.map_congr_left fun name _ => ?_
    rw [lastMember_cons, Option.or_assoc, hkey]
    congr 1
    by_cases hname : name = key
    · rw [hname, Function.update_self, if_pos rfl, Option.some_or]
    · rw [Function.update_of_ne hname, if_neg fun h => hname (Option.some.inj h).symm,
        Option.none_or]

/-- Members with different keys fill fields that are empty. -/
lemma fillSlots_written (hnames : names.Nodup) (hascend : members.Pairwise fun m n => m.1 < n.1)
    (hempty : ∀ m ∈ members, slot m.1 = none) :
    fillSlots names (writtenMembers members) (names.map slot) =
      some (names.map fun name =>
        (((Json.object members).get? name).map written).or (slot name)) := by
  induction members generalizing slot with
  | nil => rfl
  | cons m members ih =>
    obtain ⟨hm, hascend⟩ := List.pairwise_cons.1 hascend
    obtain ⟨hfree, hempty⟩ := List.forall_mem_cons.1 hempty
    -- The keys behind this one are greater, so the fields that they name are still empty.
    rw [writtenMembers, fillSlots, text?_pieces, Option.bind_some, fillSlot_map hnames,
      if_neg (by simp [hfree]), Option.bind_some, ih hascend fun n hn => by
        rw [Function.update_of_ne (hm n hn).ne', hempty n hn]]
    refine congrArg some (List.map_congr_left fun name _ => ?_)
    rw [get?_cons]
    by_cases hname : name = m.1
    · have hnone : (Json.object members).get? m.1 = none := by
        rw [get?, List.find?_eq_none.2 fun n hn => by simp [(hm n hn).ne'], Option.map_none]
      rw [hname, hnone, Function.update_self, if_pos rfl]
      rfl
    · rw [Function.update_of_ne hname, if_neg (Ne.symm hname)]

/-- **The fields of a record in a value that is an object.** -/
lemma slots_written (hnames : names.Nodup) (hascend : members.Pairwise fun m n => m.1 < n.1) :
    slots names (Json.object members).written =
      some (names.map fun name => ((Json.object members).get? name).map written) := by
  rw [written, slots, fillSlots_written hnames hascend fun _ _ => rfl]
  simp only [Option.or_none]

/-- A record takes one level of the depth. -/
lemma exists_depth_of_slots (hvalue : ofSyntax depth doc = some value)
    (hslots : slots names doc = some filled) : ∃ inner, depth = inner + 1 := by
  cases depth with
  | zero =>
    cases doc with
    | array docs => simp [ofSyntax] at hvalue
    | object parts => simp [ofSyntax] at hvalue
    | _ => simp [slots] at hslots
  | succ inner => exact ⟨inner, rfl⟩

/-- **The fields of a record are found again**, each as the document of its value. -/
lemma exists_slots_written (hnames : names.Nodup) (hvalue : ofSyntax (depth + 1) doc = some value)
    (hslots : slots names doc = some filled) :
    ∃ fields, slots names value.written = some (fields.map (Option.map written)) ∧
      List.Forall₂ (Means depth) filled fields := by
  cases doc with
  | array docs =>
    obtain ⟨items, rfl, hitems⟩ := exists_of_ofSyntax_array hvalue
    rw [slots] at hslots
    split_ifs at hslots with hlength
    obtain rfl := Option.some.inj hslots
    refine ⟨items.map some ++ List.replicate (names.length - docs.length) none, ?_,
      List.rel_append ?_ ?_⟩
    · rw [written, writtenItems_eq, slots, List.length_map, ← hitems.length_eq, if_pos hlength,
        List.map_append, List.map_replicate, List.map_map, List.map_map]
      rfl
    · rw [List.forall₂_map_left_iff, List.forall₂_map_right_iff]
      exact hitems.imp fun _ _ hitem => .some hitem
    · exact forall₂_replicate .none
  | object parts =>
    obtain ⟨members, rfl, hascend, hmembers⟩ := exists_of_ofSyntax_object hvalue
    obtain rfl := eq_of_fillSlots hnames hslots
    refine ⟨names.map fun name => (Json.object members).get? name, ?_, ?_⟩
    · rw [slots_written hnames hascend, List.map_map]
      rfl
    · rw [List.forall₂_map_left_iff, List.forall₂_map_right_iff]
      refine List.forall₂_same.2 fun name _ => ?_
      rw [Option.or_none]
      exact hmembers name
  | _ => simp [slots] at hslots

/-! ## Reading a field again -/

/-- Only nothing is written as nothing. -/
lemma written_eq_null : value.written = .null ↔ value = .null := by
  cases value <;> simp [written]

/-- Only the document of nothing means nothing. -/
lemma ofSyntax_eq_null : ofSyntax depth doc = some .null ↔ doc = .null := by
  cases doc <;> cases depth <;> simp [ofSyntax]

/-- A field that is not null is read. -/
lemma optional_of_ne_null {α : Type} {read : Reader α} (h : doc ≠ .null) :
    optional read depth (some doc) = (read depth doc).map some := by
  cases doc <;> first | rfl | exact absurd rfl h

/-- What means the same as nothing is nothing. -/
lemma Means.eq_null (h : Means depth (some .null) field) : field = some .null := by
  obtain ⟨hvalue⟩ := h
  rw [← hvalue, ofSyntax_eq_null]

/-- A text is read as this text. -/
lemma eq_of_text {s : String} (hvalue : ofSyntax depth doc = some value)
    (hread : text n doc = some s) : value = .string s := by
  cases doc with
  | string p =>
    rw [ofSyntax, show text? p = some s from hread] at hvalue
    exact (Option.some.inj hvalue).symm
  | _ => simp [text] at hread

/-- **Texts are read again.** -/
lemma survives_text : Survives depth (text n) (text m) := by
  intro doc value s hvalue hread
  rw [eq_of_text hvalue hread]
  exact text?_pieces s

section Fields

variable {α : Type} {x default : α} {read read' : Reader α}
  (hread : Survives depth (read n) (read' m)) (hfield : Means depth raw field)

include hread hfield

/-- A field that has to be there is read again. -/
lemma required_written (h : required read n raw = some x) :
    required read' m (field.map written) = some x := by
  cases hfield with
  | none => exact nomatch h
  | some hvalue => exact hread _ _ _ hvalue h

/-- A field that may be absent is read again. -/
lemma defaulted_written (h : defaulted default read n raw = some x) :
    defaulted default read' m (field.map written) = some x := by
  cases hfield with
  | none => exact h
  | some hvalue => exact hread _ _ _ hvalue h

/-- A field that may be absent or null is read again. -/
lemma optional_written {x : Option α} (h : optional read n raw = some x) :
    optional read' m (field.map written) = some x := by
  cases hfield with
  | none => exact h
  | @some doc value hvalue =>
    by_cases hnull : doc = .null
    · subst hnull
      obtain rfl := Option.some.inj (Means.eq_null (.some hvalue))
      exact h
    · have hwritten : value.written ≠ .null := fun hw =>
        hnull (ofSyntax_eq_null.1 (hvalue.trans (congrArg some (written_eq_null.1 hw))))
      rw [optional_of_ne_null hnull] at h
      obtain ⟨y, hy, rfl⟩ := Option.map_eq_some_iff.1 h
      rw [Option.map_some, optional_of_ne_null hwritten, hread _ _ _ hvalue hy, Option.map_some]

end Fields

end ClusterDeploy.Json
