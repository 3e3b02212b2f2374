import ClusterDeploy.Json.Value

/-!
# Records in JSON documents

A record has fields with names. It is written as an object, or as an array of its fields in order.

## Main definitions

* `Json.Reader` — reads a value from a document as written.
* `Json.slots` — the documents in the fields of a record.
* `Json.required`, `Json.defaulted`, `Json.optional` — reading one field.
* `Json.only` — reading a record with one field.

## Implementation notes

In an object the order of the members does not matter; a field may not occur twice, and members that
are no field are not looked into. An array may end early, and a field that it leaves out counts as
absent. A reader is told how many arrays and objects may still lie inside each other.
-/

namespace ClusterDeploy.Json

/-- Reads a value from a document in which at most a given number of arrays and objects may lie
inside each other. -/
abbrev Reader (α : Type) := Nat → Syntax → Option α

/-- Puts a member of an object into the field that it names. A field that is filled already makes
the record unreadable. -/
def fillSlot (key : String) (value : Syntax) :
    List String → List (Option Syntax) → Option (List (Option Syntax))
  | name :: names, slot :: slots =>
    if name = key then
      match slot with
      | none => some (some value :: slots)
      | some _ => none
    else (fillSlot key value names slots).map (slot :: ·)
  | _, slots => some slots

/-- Puts the members of an object into the fields that they name. -/
def fillSlots (names : List String) :
    List (List Piece × Syntax) → List (Option Syntax) → Option (List (Option Syntax))
  | [], slots => some slots
  | (key, value) :: rest, slots =>
    (text? key).bind fun key => (fillSlot key value names slots).bind (fillSlots names rest)

/-- The documents in the fields of a record. -/
def slots (names : List String) : Syntax → Option (List (Option Syntax))
  | .object members => fillSlots names members (names.map fun _ => none)
  | .array items =>
    if items.length ≤ names.length then
      some (items.map some ++ List.replicate (names.length - items.length) none)
    else none
  | _ => none

/-- Reads a record from the documents in its fields. -/
def record {α : Type} (names : List String) (build : Nat → List (Option Syntax) → Option α) :
    Reader α
  | 0, _ => none
  | depth + 1, doc => (slots names doc).bind (build depth)

/-! ## Fields -/

/-- Reads a field that has to be there. -/
def required {α : Type} (read : Reader α) (depth : Nat) : Option Syntax → Option α
  | some doc => read depth doc
  | none => none

/-- Reads a field that may be absent. -/
def defaulted {α : Type} (default : α) (read : Reader α) (depth : Nat) : Option Syntax → Option α
  | some doc => read depth doc
  | none => some default

/-- Reads a field that may be absent or null. -/
def optional {α : Type} (read : Reader α) (depth : Nat) : Option Syntax → Option (Option α)
  | none => some none
  | some .null => some none
  | some doc => (read depth doc).map some

/-- Reads a record with one field that has to be there. -/
def only {α : Type} (name : String) (read : Reader α) : Reader α :=
  record [name] fun
    | depth, [slot] => required read depth slot
    | _, _ => none

/-! ## Plain values -/

/-- Reads a text. -/
def text : Reader String
  | _, .string s => text? s
  | _, _ => none

/-- Reads a truth value. -/
def truth : Reader Bool
  | _, .bool b => some b
  | _, _ => none

/-- Reads a whole number below a bound that is written as such. -/
def naturalBelow (bound : Nat) : Reader Nat
  | _, .number n =>
    if n.isWhole && !n.negative && Text.valueOf n.whole < bound then some (Text.valueOf n.whole)
    else none
  | _, _ => none

/-- Reads any value. -/
def anything : Reader Json :=
  ofSyntax

/-- Reads a whole document. -/
def readWhole {α : Type} (read : Reader α) (s : Bytes) : Option α :=
  (Syntax.read s).bind (read maxDepth)

end ClusterDeploy.Json
