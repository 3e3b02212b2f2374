import ClusterDeploy.Proofs.Json.Doubles
import Mathlib.Data.List.Induction
import Mathlib.Data.String.Basic

set_option relaxedAutoImplicit false
set_option autoImplicit false

/-!
# Values that are written can be read back

A value is written without space, and its text can always be read. For most values reading it gives
the value again, so it does not matter whether statements are made about values or about the bytes
that are sent.

## Main definitions

* `Json.Canonical` — values that can be read back, with a bound on how deep they are nested.
* `Json.written` — the document as which the text of a value is read.

## Main results

* `Json.read_compact` — reading the text of a value as a document.
* `Json.parse_compact` — reading the text of a value as a value.
* `Json.canonical_object` — objects with any members.
* `Json.find?_insertMember` — looking up a member that was put into an object.
* `Json.find?_membersOf` — looking up a member of which there are several.

## Implementation notes

Of the numbers only the natural ones of 64 bits are canonical: a double need not be read as the same
double. Nothing that is sent has other numbers.
-/

namespace ClusterDeploy.Json

/-- Values that can be read back, in which at most `depth` arrays and objects lie inside each other.
-/
inductive Canonical : Nat → Json → Prop where
  | null {depth : Nat} : Canonical depth .null
  | bool {depth : Nat} {b : Bool} : Canonical depth (.bool b)
  | natural {depth n : Nat} : n < UInt64.size → Canonical depth (.number (.natural n))
  | string {depth : Nat} {s : String} : Canonical depth (.string s)
  | array {depth : Nat} {items : List Json} :
    (∀ item ∈ items, Canonical depth item) → Canonical (depth + 1) (.array items)
  | object {depth : Nat} {members : List (String × Json)} :
    members.Pairwise (fun m n => m.1 < n.1) → (∀ m ∈ members, Canonical depth m.2) →
    Canonical (depth + 1) (.object members)

variable {depth : Nat} {value : Json} {key k : String} {members : List (String × Json)}
  {items : List Json}

/-! ## Objects -/

/-- A member after another one is put in is this one or was there. -/
lemma mem_of_mem_insertMember {m : String × Json} (hm : m ∈ insertMember key value members) :
    m = (key, value) ∨ m ∈ members := by
  induction members with
  | nil => exact .inl (List.mem_singleton.1 hm)
  | cons n members ih =>
    rw [insertMember] at hm
    split_ifs at hm
    · exact List.mem_cons.1 hm
    · exact (List.mem_cons.1 hm).imp_right (List.mem_cons_of_mem n)
    · rcases List.mem_cons.1 hm with rfl | hm
      · exact .inr List.mem_cons_self
      · exact (ih hm).imp_right (List.mem_cons_of_mem n)

/-- Keys that ascend still do when a member is put among them. -/
lemma pairwise_insertMember (h : members.Pairwise fun m n => m.1 < n.1) :
    (insertMember key value members).Pairwise fun m n => m.1 < n.1 := by
  induction members with
  | nil => exact List.pairwise_singleton _ _
  | cons n members ih =>
    obtain ⟨hn, hmembers⟩ := List.pairwise_cons.1 h
    rw [insertMember]
    split_ifs with hlt heq
    · exact List.pairwise_cons.2 ⟨List.forall_mem_cons.2 ⟨hlt, fun m hm => hlt.trans (hn m hm)⟩, h⟩
    · exact List.pairwise_cons.2 ⟨fun m hm => heq ▸ hn m hm, hmembers⟩
    · refine List.pairwise_cons.2 ⟨fun m hm => ?_, ih hmembers⟩
      rcases mem_of_mem_insertMember hm with rfl | hm
      · exact lt_of_le_of_ne (not_lt.1 hlt) fun h => heq h.symm
      · exact hn m hm

/-- A member whose key comes behind all others is put behind them. -/
lemma insertMember_eq_append (h : ∀ m ∈ members, m.1 < key) :
    insertMember key value members = members ++ [(key, value)] := by
  induction members with
  | nil => rfl
  | cons n members ih =>
    obtain ⟨hn, hmembers⟩ := List.forall_mem_cons.1 h
    rw [insertMember, if_neg hn.asymm, if_neg hn.ne', ih hmembers, List.cons_append]

/-- **Looking up a member that was put into an object.** -/
lemma find?_insertMember :
    (insertMember key value members).find? (fun m => m.1 == k) =
      if key = k then some (key, value) else members.find? fun m => m.1 == k := by
  induction members with
  | nil => by_cases h : key = k <;> simp [insertMember, h]
  | cons n members ih =>
    obtain ⟨other, old⟩ := n
    rw [insertMember]
    by_cases heq : key = k
    · subst heq
      rw [if_pos rfl] at ih ⊢
      split_ifs with hlt hother
      · exact List.find?_cons_of_pos (by simp)
      · exact List.find?_cons_of_pos (by simp)
      · rw [List.find?_cons_of_neg (by simp [Ne.symm hother]), ih]
    · rw [if_neg heq] at ih ⊢
      split_ifs with hlt hother
      · exact List.find?_cons_of_neg (by simp [heq])
      · rw [List.find?_cons_of_neg (by simp [heq]),
          List.find?_cons_of_neg (by simp [← hother, heq])]
      · rw [List.find?_cons, List.find?_cons, ih]

/-- The last member that is written is put in last. -/
lemma membersOf_append_singleton {m : String × Json} :
    membersOf (members ++ [m]) = insertMember m.1 m.2 (membersOf members) := by
  rw [membersOf, List.foldl_append, List.foldl_cons, List.foldl_nil]
  rfl

/-- Members that ascend are kept as they are. -/
lemma membersOf_of_pairwise (h : members.Pairwise fun m n => m.1 < n.1) :
    membersOf members = members := by
  induction members using List.reverseRecOn with
  | nil => rfl
  | append_singleton members m ih =>
    obtain ⟨hmembers, -, hlast⟩ := List.pairwise_append.1 h
    rw [membersOf_append_singleton, ih hmembers,
      insertMember_eq_append fun n hn => hlast n hn m (List.mem_singleton_self m)]

/-- The keys of an object ascend. -/
lemma pairwise_membersOf : (membersOf members).Pairwise fun m n => m.1 < n.1 := by
  induction members using List.reverseRecOn with
  | nil => exact .nil
  | append_singleton members m ih =>
    rw [membersOf_append_singleton]
    exact pairwise_insertMember ih

/-- **Of several members with one key the last is the one that is looked up.** -/
lemma find?_membersOf : (membersOf members).find? (fun m => m.1 == k) =
    members.reverse.find? fun m => m.1 == k := by
  induction members using List.reverseRecOn with
  | nil => rfl
  | append_singleton members m ih =>
    obtain ⟨key, value⟩ := m
    rw [membersOf_append_singleton, find?_insertMember, List.reverse_concat, ih]
    by_cases h : key = k <;> simp [h]

/-- A member of an object is the one that is looked up with its key. -/
lemma mem_iff_find?_eq_some (h : members.Pairwise fun m n => m.1 < n.1) :
    (key, value) ∈ members ↔ members.find? (fun m => m.1 == key) = some (key, value) := by
  refine ⟨fun hmem => ?_, List.mem_of_find?_eq_some⟩
  obtain ⟨before, after, rfl⟩ := List.append_of_mem hmem
  obtain ⟨-, -, hbefore⟩ := List.pairwise_append.1 h
  refine List.find?_eq_some_iff_append.2 ⟨by simp, before, after, rfl, fun m hm => ?_⟩
  simpa using (hbefore m hm _ List.mem_cons_self).ne

/-- **The members of an object are the last ones with their keys** of those that were written. -/
lemma mem_membersOf_iff : (key, value) ∈ membersOf members ↔
    members.reverse.find? (fun m => m.1 == key) = some (key, value) := by
  rw [mem_iff_find?_eq_some pairwise_membersOf, find?_membersOf]

/-- An object does not depend on the order in which members with different keys are written. -/
lemma membersOf_eq_of_filter {members' : List (String × Json)}
    (h : ∀ key, members'.filter (·.1 == key) = members.filter (·.1 == key)) :
    membersOf members' = membersOf members := by
  have hmem (m : String × Json) : m ∈ membersOf members' ↔ m ∈ membersOf members := by
    obtain ⟨key, value⟩ := m
    rw [mem_membersOf_iff, mem_membersOf_iff, ← List.getLast?_filter,
      ← List.getLast?_filter, h]
  have hnodup (members : List (String × Json)) : (membersOf members).Nodup :=
    pairwise_membersOf.imp fun hlt heq => hlt.ne (congrArg Prod.fst heq)
  exact List.Perm.eq_of_pairwise (fun m n _ _ hmn hnm => absurd hnm hmn.asymm) pairwise_membersOf
    pairwise_membersOf ((List.perm_ext_iff_of_nodup (hnodup _) (hnodup _)).2 hmem)

/-- The members of an object are among those that were written. -/
lemma mem_of_mem_membersOf {m : String × Json} (hm : m ∈ membersOf members) : m ∈ members := by
  induction members using List.reverseRecOn with
  | nil => exact hm
  | append_singleton members n ih =>
    rw [membersOf_append_singleton] at hm
    rcases mem_of_mem_insertMember hm with rfl | hm
    · exact List.mem_append_right _ List.mem_cons_self
    · exact List.mem_append_left _ (ih hm)

/-- **Objects with any members** can be read back if these can. -/
lemma canonical_object (h : ∀ m ∈ members, Canonical depth m.2) :
    Canonical (depth + 1) (.object (membersOf members)) :=
  .object pairwise_membersOf fun m hm => h m (mem_of_mem_membersOf hm)

/-! ## Reading -/

/-- What holds of all values that have no parts, and of arrays and objects if of their parts, holds
of all values. -/
@[elab_as_elim]
lemma induction {P : Json → Prop} (null : P .null) (bool : ∀ b, P (.bool b))
    (number : ∀ n, P (.number n)) (string : ∀ s, P (.string s))
    (array : ∀ items, (∀ item ∈ items, P item) → P (.array items))
    (object : ∀ members, (∀ m ∈ members, P m.2) → P (.object members)) (value : Json) : P value :=
  @Json.rec P (fun items => ∀ item ∈ items, P item) (fun members => ∀ m ∈ members, P m.2)
    (fun m => P m.2) null bool number string array object (List.forall_mem_nil _)
    (fun _ _ hitem hitems => List.forall_mem_cons.2 ⟨hitem, hitems⟩) (List.forall_mem_nil _)
    (fun _ _ hm hmembers => List.forall_mem_cons.2 ⟨hm, hmembers⟩) (fun _ _ hvalue => hvalue) value

mutual

/-- The document as which the text of a value is read. -/
def written : Json → Syntax
  | .null => .null
  | .bool b => .bool b
  | .number n => .number n.numeral
  | .string s => .string (pieces s)
  | .array items => .array (writtenItems items)
  | .object members => .object (writtenMembers members)

/-- The documents of the items of an array. -/
def writtenItems : List Json → List Syntax
  | [] => []
  | item :: rest => written item :: writtenItems rest

/-- The documents of the members of an object. -/
def writtenMembers : List (String × Json) → List (List Piece × Syntax)
  | [] => []
  | (key, value) :: rest => (pieces key, written value) :: writtenMembers rest

end

/-- The items of a list are written one by one. -/
lemma compactItems_eq : compactItems items = items.map compactChars := by
  induction items with
  | nil => rfl
  | cons item items ih => rw [compactItems, ih, List.map_cons]

/-- The members of an object are written one by one. -/
lemma compactMembers_eq :
    compactMembers members = members.map fun m => quoted m.1 ++ ':' :: compactChars m.2 := by
  induction members with
  | nil => rfl
  | cons m members ih => rw [compactMembers, ih, List.map_cons]

/-- A list is read if each of its elements is. -/
lemma mapM_map_eq_some {α β γ : Type} {l : List α} {write : α → β} {read : β → Option γ}
    {result : α → γ} (h : ∀ a ∈ l, read (write a) = some (result a)) :
    (l.map write).mapM read = some (l.map result) := by
  induction l with
  | nil => rfl
  | cons a l ih =>
    obtain ⟨ha, hl⟩ := List.forall_mem_cons.1 h
    rw [List.map_cons, List.mapM_cons, ha, ih hl]
    rfl

/-- The items of a list are turned into syntax one by one. -/
lemma writtenItems_eq : writtenItems items = items.map written := by
  induction items with
  | nil => rfl
  | cons item items ih => rw [writtenItems, ih, List.map_cons]

/-- The members of an object are turned into syntax one by one. -/
lemma writtenMembers_eq :
    writtenMembers members = members.map fun m => (pieces m.1, m.2.written) := by
  induction members with
  | nil => rfl
  | cons m members ih => rw [writtenMembers, ih, List.map_cons]

/-- **The text of any value is read as a document.** -/
lemma readsAs_compactChars (value : Json) : ReadsAs value.compactChars value.written := by
  induction value using Json.induction with
  | null => exact readsAs_null
  | bool b =>
    cases b
    · exact readsAs_false
    · exact readsAs_true
  | number n => exact readsAs_number n
  | string s => exact readsAs_quoted s
  | array items ih =>
    have hitems := @readsAs_array (items.map fun item => (item.compactChars, item.written))
      (List.forall_mem_map.2 ih)
    rw [compactChars, compactItems_eq, written, writtenItems_eq]
    simpa only [List.map_map, Function.comp_def] using hitems
  | object members ih =>
    have hmembers := @readsAs_object (members.map fun m => ⟨m.1, m.2.compactChars, m.2.written⟩)
      (List.forall_mem_map.2 ih)
    rw [compactChars, compactMembers_eq, written, writtenMembers_eq]
    simpa only [List.map_map, Function.comp_def, Member.text, Member.parts] using hmembers

/-- **The text of any value can be read.** -/
lemma read_compact (value : Json) :
    Syntax.read (Utf8.encode value.compact) = some value.written := by
  rw [compact, Utf8.encode_ofList]
  exact read_of_readsAs (readsAs_compactChars value)

/-- **A value that can be read back** is the value of its document.

**Proof sketch.** Induction on the value; the values of the parts of an array or an object are put
together. -/
lemma Canonical.ofSyntax_written (h : Canonical depth value) :
    ofSyntax depth value.written = some value := by
  induction h with
  | null => simp [ofSyntax, written]
  | bool => simp [ofSyntax, written]
  | natural hn => simp [ofSyntax, written, Number.numeral, value_decimal hn]
  | string => simp [ofSyntax, written]
  | array _ ih =>
    rw [written, writtenItems_eq, ofSyntax, mapM_map_eq_some ih, List.map_id', Option.map_some]
  | @object depth members hascend _ ih =>
    have hparts : (members.map fun m => (pieces m.1, m.2.written)).mapM
        (fun (member : List Piece × Syntax) => do
          let key ← text? member.1
          let value ← ofSyntax depth member.2
          return (key, value)) = some (members.map fun m => m) :=
      mapM_map_eq_some fun m hm => by simp [ih m hm]
    rw [written, writtenMembers_eq, ofSyntax, hparts, List.map_id', Option.map_some,
      membersOf_of_pairwise hascend]

/-- **Reading the text of a value gives this value.** -/
lemma parse_compact (h : Canonical maxDepth value) :
    parse (Utf8.encode value.compact) = some value := by
  rw [parse, read_compact, Option.bind_some, h.ofSyntax_written]

end ClusterDeploy.Json
