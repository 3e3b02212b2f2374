import ClusterDeploy.Proofs.Json.Strings

set_option relaxedAutoImplicit false
set_option autoImplicit false

/-!
# Documents that are written without space can be read back

Documents are written part by part: strings in quotes, arrays as items and objects as members with
commas between them. If the items of an array or the values of the members of an object can be read
back, then so can the whole.

## Main definitions

* `Json.ReadsAs` — characters are read as a document.
* `Json.Member` — a member of an object, as it is written and as it is read.

## Main results

* `Json.readsAs_quoted`, `Json.readsAs_array`, `Json.readsAs_object` — reading strings, arrays and
  objects.
* `Json.read_of_readsAs` — reading a whole document.

## Implementation notes

The reader is by recursion on a bound. What is written in some characters is read with any bound
that is at least their number, and the bound that the reader begins with is larger. A number ends
where something follows that is no part of it, so a document is read only in front of the marks that
may follow it.
-/

namespace ClusterDeploy.Json

open Utf8 (bytesOf)

/-- The marks that may follow a value inside a document. -/
def isMark (b : UInt8) : Bool :=
  b == ascii ',' || b == ascii ']' || b == ascii '\x7d'

/-- Whether characters are read as a document, whatever follows them at the end or behind a mark. -/
def ReadsAs (s : List Char) (doc : Syntax) : Prop :=
  ∀ (bound : Nat) (rest : Bytes), s.length ≤ bound → (∀ b ∈ rest.head?, isMark b = true) →
    readValue bound (bytesOf s ++ rest) = some (doc, rest)

/-- A member of an object: its key, and its value as it is written and as it is read. -/
structure Member where
  key : String
  written : List Char
  value : Syntax

namespace Member

/-- A member as it is written. -/
def text (m : Member) : List Char :=
  quoted m.key ++ ':' :: m.written

/-- A member as it is read. -/
def parts (m : Member) : List Piece × Syntax :=
  (pieces m.key, m.value)

/-- The value of a member is shorter than the member. -/
lemma length_written_lt (m : Member) : m.written.length < m.text.length := by
  rw [text, List.length_append, List.length_cons]
  omega

end Member

variable {s : List Char} {doc : Syntax} {rest : Bytes} {bound : Nat} {m : Member}
  {members : List Member} {items : List (List Char × Syntax)}

/-- Nothing is skipped before a byte that is no blank. -/
lemma skipSpace_cons {b : UInt8} (hb : isSpace b = false) : skipSpace (b :: rest) = b :: rest := by
  rw [skipSpace, List.dropWhile_cons_of_neg (by simp [hb])]

/-- A mark is no blank. -/
lemma isSpace_of_isMark {b : UInt8} (hb : isMark b = true) : isSpace b = false := by
  simp only [isMark, Bool.or_eq_true, beq_iff_eq] at hb
  rcases hb with (rfl | rfl) | rfl <;> decide

/-- In front of a mark the reader takes what it takes in front of anything. -/
lemma ReadsAs.readValue_cons (h : ReadsAs s doc) (hbound : s.length ≤ bound) {mark : UInt8}
    (hmark : isMark mark = true) :
    readValue bound (bytesOf s ++ mark :: rest) = some (doc, mark :: rest) := by
  refine h bound _ hbound fun b hb => ?_
  rwa [← Option.some.inj (List.head?_cons.symm.trans hb)]

/-! ## Words and strings -/

/-- The word for nothing is read back. -/
lemma readsAs_null : ReadsAs ['n', 'u', 'l', 'l'] .null := by
  intro bound rest hbound _
  obtain ⟨bound, rfl⟩ : ∃ n, bound = n + 1 := ⟨bound - 1, by simp at hbound; omega⟩
  rfl

/-- The word for yes is read back. -/
lemma readsAs_true : ReadsAs ['t', 'r', 'u', 'e'] (.bool true) := by
  intro bound rest hbound _
  obtain ⟨bound, rfl⟩ : ∃ n, bound = n + 1 := ⟨bound - 1, by simp at hbound; omega⟩
  rfl

/-- The word for no is read back. -/
lemma readsAs_false : ReadsAs ['f', 'a', 'l', 's', 'e'] (.bool false) := by
  intro bound rest hbound _
  obtain ⟨bound, rfl⟩ : ∃ n, bound = n + 1 := ⟨bound - 1, by simp at hbound; omega⟩
  rfl

/-- The bytes of a text in quotation marks. -/
lemma bytesOf_quoted (s : String) : bytesOf (quoted s) =
    ascii '"' :: (bytesOf (s.toList.flatMap escapeChar) ++ [ascii '"']) := by
  rw [quoted, List.cons_append, Utf8.bytesOf_cons, Utf8.bytesOf_append]
  rfl

/-- **A text in quotes is read as a string.** -/
lemma readsAs_quoted (s : String) : ReadsAs (quoted s) (.string (pieces s)) := by
  intro bound rest hbound _
  have hpos : 0 < bound := Nat.lt_of_lt_of_le (by simp [quoted]) hbound
  obtain ⟨bound, rfl⟩ : ∃ n, bound = n + 1 := ⟨bound - 1, by omega⟩
  rw [bytesOf_quoted, List.cons_append, List.append_assoc, readValue, skipSpace_cons (by decide)]
  simp only [BEq.rfl, if_true, List.singleton_append, readString_quoted, Option.map_some]
  rfl

/-! ## Arrays -/

/-- What is read as a value does not begin with a closing bracket. -/
lemma exists_skipSpace_of_readValue {r : Syntax × Bytes} {t : Bytes}
    (h : readValue bound t = some r) : ∃ b more, skipSpace t = b :: more ∧ b ≠ ascii ']' := by
  cases bound with
  | zero => exact nomatch h
  | succ bound =>
    rw [readValue] at h
    rcases hspace : skipSpace t with _ | ⟨b, more⟩
    · rw [hspace] at h
      exact nomatch h
    · refine ⟨b, more, rfl, ?_⟩
      rintro rfl
      have hdigits : digits (ascii ']' :: more) = [] := by
        rw [digits, List.takeWhile_cons_of_neg (by decide), List.map_nil]
      rw [hspace] at h
      simp [readNumeral, hdigits, show ascii ']' ≠ ascii '"' by decide,
        show ascii ']' ≠ ascii '[' by decide, show ascii ']' ≠ ascii '\x7b' by decide,
        show ascii ']' ≠ ascii 'n' by decide, show ascii ']' ≠ ascii 't' by decide,
        show ascii ']' ≠ ascii 'f' by decide, show ascii ']' ≠ ascii '-' by decide] at h

/-- Where items are read the list does not end at once. -/
lemma exists_skipSpace_of_readItems {r : List Syntax × Bytes} {t : Bytes}
    (h : readItems bound t = some r) : ∃ b more, skipSpace t = b :: more ∧ b ≠ ascii ']' := by
  cases bound with
  | zero => exact nomatch h
  | succ bound =>
    rw [readItems] at h
    obtain ⟨item, hitem, -⟩ := Option.bind_eq_some_iff.1 h
    exact exists_skipSpace_of_readValue hitem

/-- An item is read, and then the mark behind it decides whether there are more. -/
lemma readItems_written (h : ReadsAs s doc) (hbound : s.length ≤ bound) (mark : UInt8)
    (hmark : isMark mark = true) :
    readItems (bound + 1) (bytesOf s ++ mark :: rest) =
      if mark == ascii ']' then some ([doc], rest)
      else if mark == ascii ',' then
        (readItems bound rest).map fun (items, rest) => (doc :: items, rest)
      else none := by
  rw [readItems, h.readValue_cons hbound hmark]
  simp only [Option.bind_eq_bind, Option.bind_some, skipSpace_cons (isSpace_of_isMark hmark)]

/-- Items with commas between them are read up to the closing bracket. -/
lemma readItems_commaSeparated (hne : items ≠ []) (hread : ∀ item ∈ items, ReadsAs item.1 item.2)
    (rest : Bytes) (bound : Nat)
    (hbound : (commaSeparated (items.map Prod.fst)).length < bound) :
    readItems bound (bytesOf (commaSeparated (items.map Prod.fst)) ++ ascii ']' :: rest) =
      some (items.map Prod.snd, rest) := by
  obtain ⟨bound, rfl⟩ : ∃ n, bound = n + 1 := ⟨bound - 1, by omega⟩
  induction items generalizing bound with
  | nil => exact absurd rfl hne
  | cons item items ih =>
    obtain ⟨hitem, hread⟩ := List.forall_mem_cons.1 hread
    cases items with
    | nil =>
      have hshort : item.1.length ≤ bound := Nat.lt_succ_iff.1 hbound
      exact (readItems_written hitem hshort _ (by decide)).trans (if_pos rfl)
    | cons next items =>
      have hsplit : commaSeparated ((item :: next :: items).map Prod.fst) =
          item.1 ++ ',' :: commaSeparated ((next :: items).map Prod.fst) := rfl
      rw [hsplit] at hbound ⊢
      rw [List.length_append, List.length_cons] at hbound
      obtain ⟨bound, rfl⟩ : ∃ n, bound = n + 1 := ⟨bound - 1, by omega⟩
      have hrest := ih (List.cons_ne_nil _ _) hread bound (by omega)
      rw [Utf8.bytesOf_append, Utf8.bytesOf_cons, List.append_assoc]
      refine (readItems_written hitem (by omega) (ascii ',') (by decide)).trans ?_
      rw [if_neg (by decide), if_pos BEq.rfl]
      exact (congrArg (Option.map _) hrest).trans rfl

/-- **An array is read as its items.** -/
lemma readsAs_array (hread : ∀ item ∈ items, ReadsAs item.1 item.2) :
    ReadsAs ('[' :: commaSeparated (items.map Prod.fst) ++ [']'])
      (.array (items.map Prod.snd)) := by
  intro bound rest hbound _
  have hlength : (commaSeparated (items.map Prod.fst)).length + 2 ≤ bound := by
    simp only [List.length_append, List.length_cons, List.length_nil] at hbound
    omega
  obtain ⟨bound, rfl⟩ : ∃ n, bound = n + 1 := ⟨bound - 1, by omega⟩
  have hbytes : bytesOf ('[' :: commaSeparated (items.map Prod.fst) ++ [']']) ++ rest =
      ascii '[' :: (bytesOf (commaSeparated (items.map Prod.fst)) ++ ascii ']' :: rest) := by
    rw [List.cons_append, Utf8.bytesOf_cons, Utf8.bytesOf_append, List.append_assoc,
      List.append_assoc]
    rfl
  rw [hbytes, readValue, skipSpace_cons (by decide)]
  simp only [show (ascii '[' == ascii '"') = false by decide, BEq.rfl, if_true]
  by_cases hne : items = []
  · subst hne
    rfl
  · have hitems := readItems_commaSeparated hne hread rest bound (by omega)
    obtain ⟨b, more, hspace, hb⟩ := exists_skipSpace_of_readItems hitems
    rw [hitems, hspace]
    simp [hb]

/-! ## Objects -/

/-- The bytes of a member are those of its key and of its value. -/
lemma bytesOf_text (m : Member) (rest : Bytes) : bytesOf m.text ++ rest = ascii '"' ::
    (bytesOf (m.key.toList.flatMap escapeChar) ++ ascii '"' :: ascii ':' ::
      (bytesOf m.written ++ rest)) := by
  rw [Member.text, Utf8.bytesOf_append, bytesOf_quoted, Utf8.bytesOf_cons]
  simp only [List.cons_append, List.append_assoc]
  rfl

/-- A member is read, and then the byte behind it decides whether there are more. -/
lemma readMembers_text (hm : ReadsAs m.written m.value) (hbound : m.written.length ≤ bound)
    (mark : UInt8) (hmark : isMark mark = true) :
    readMembers (bound + 1) (bytesOf m.text ++ mark :: rest) =
      if mark == ascii '\x7d' then some ([m.parts], rest)
      else if mark == ascii ',' then
        (readMembers bound rest).map fun (members, rest) => (m.parts :: members, rest)
      else none := by
  rw [bytesOf_text, readMembers, skipSpace_cons (by decide)]
  simp only [BEq.rfl, if_true, readString_quoted, Option.bind_eq_bind, Option.bind_some,
    skipSpace_cons (show isSpace (ascii ':') = false by decide), hm.readValue_cons hbound hmark,
    skipSpace_cons (isSpace_of_isMark hmark)]
  rfl

/-- Members with commas between them are read up to the closing brace. -/
lemma readMembers_commaSeparated (hne : members ≠ [])
    (hread : ∀ m ∈ members, ReadsAs m.written m.value) (rest : Bytes) (bound : Nat)
    (hbound : (commaSeparated (members.map Member.text)).length ≤ bound) :
    readMembers bound
        (bytesOf (commaSeparated (members.map Member.text)) ++ ascii '\x7d' :: rest) =
      some (members.map Member.parts, rest) := by
  induction members generalizing bound with
  | nil => exact absurd rfl hne
  | cons m members ih =>
    obtain ⟨hm, hread⟩ := List.forall_mem_cons.1 hread
    have hlength := m.length_written_lt
    cases members with
    | nil =>
      have hshort : m.text.length ≤ bound := hbound
      obtain ⟨bound, rfl⟩ : ∃ n, bound = n + 1 := ⟨bound - 1, by omega⟩
      exact (readMembers_text hm (by omega) _ (by decide)).trans (if_pos rfl)
    | cons next members =>
      have hsplit : commaSeparated ((m :: next :: members).map Member.text) =
          m.text ++ ',' :: commaSeparated ((next :: members).map Member.text) := rfl
      rw [hsplit] at hbound ⊢
      rw [List.length_append, List.length_cons] at hbound
      obtain ⟨bound, rfl⟩ : ∃ n, bound = n + 1 := ⟨bound - 1, by omega⟩
      have hrest := ih (List.cons_ne_nil _ _) hread bound (by omega)
      rw [Utf8.bytesOf_append, Utf8.bytesOf_cons, List.append_assoc]
      refine (readMembers_text hm (by omega) (ascii ',') (by decide)).trans ?_
      rw [if_neg (by decide), if_pos BEq.rfl]
      exact (congrArg (Option.map _) hrest).trans rfl

/-- The first byte of some members is a quote. -/
lemma exists_bytesOf_commaSeparated (hne : members ≠ []) (rest : Bytes) :
    ∃ more, bytesOf (commaSeparated (members.map Member.text)) ++ rest = ascii '"' :: more := by
  match members with
  | [] => exact absurd rfl hne
  | [m] => exact ⟨_, bytesOf_text m _⟩
  | m :: next :: members =>
    have hsplit : commaSeparated ((m :: next :: members).map Member.text) =
        m.text ++ ',' :: commaSeparated ((next :: members).map Member.text) := rfl
    rw [hsplit, Utf8.bytesOf_append, List.append_assoc]
    exact ⟨_, bytesOf_text m _⟩

/-- **An object is read as its members.** -/
lemma readsAs_object (hread : ∀ m ∈ members, ReadsAs m.written m.value) :
    ReadsAs ('\x7b' :: commaSeparated (members.map Member.text) ++ ['\x7d'])
      (.object (members.map Member.parts)) := by
  intro bound rest hbound _
  have hlength : (commaSeparated (members.map Member.text)).length + 2 ≤ bound := by
    simp only [List.length_append, List.length_cons, List.length_nil] at hbound
    omega
  obtain ⟨bound, rfl⟩ : ∃ n, bound = n + 1 := ⟨bound - 1, by omega⟩
  have hbytes :
      bytesOf ('\x7b' :: commaSeparated (members.map Member.text) ++ ['\x7d']) ++ rest =
        ascii '\x7b' ::
          (bytesOf (commaSeparated (members.map Member.text)) ++ ascii '\x7d' :: rest) := by
    rw [List.cons_append, Utf8.bytesOf_cons, Utf8.bytesOf_append, List.append_assoc,
      List.append_assoc]
    rfl
  rw [hbytes, readValue, skipSpace_cons (by decide)]
  simp only [show (ascii '\x7b' == ascii '"') = false by decide,
    show (ascii '\x7b' == ascii '[') = false by decide, BEq.rfl, if_true]
  by_cases hne : members = []
  · subst hne
    rfl
  · have hmembers := readMembers_commaSeparated hne hread rest bound (by omega)
    obtain ⟨more, hmore⟩ := exists_bytesOf_commaSeparated hne (ascii '\x7d' :: rest)
    rw [hmembers, hmore, skipSpace_cons (by decide)]
    rfl

/-! ## Whole documents -/

/-- **A whole document is read** from its characters. -/
lemma read_of_readsAs {s : List Char} {doc : Syntax} (h : ReadsAs s doc) :
    Syntax.read (bytesOf s) = some doc := by
  have hlength := Utf8.length_le_bytesOf s
  have hvalue := h (2 * (bytesOf s).length + 2) [] (by omega) (by simp)
  rw [List.append_nil] at hvalue
  rw [Syntax.read, hvalue]
  rfl

end ClusterDeploy.Json
