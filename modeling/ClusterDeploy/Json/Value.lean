import ClusterDeploy.Decimal.Shortest
import ClusterDeploy.Json.Syntax

/-!
# JSON values

What a document means: numbers with their values, strings with their texts, objects with one value
for each key in ascending order of the keys.

## Main definitions

* `Json.Number`, `Json` — numbers and values.
* `Json.ofSyntax` — the value of a document as written.
* `Json.compact` — the text of a value without space.
* `Json.get?` — a member of an object.

## Implementation notes

Whole numbers of 64 bits keep their value; all other numbers, and minus zero, become doubles, from
the digits that fit in 64 bits. A number whose double is not finite has no value. Of several members
with one key the last counts. At most `Json.maxDepth` arrays and objects may lie inside each other.
-/

namespace ClusterDeploy

/-- A number. -/
inductive Json.Number where
  | natural (n : Nat)
  /-- The negative of a positive number. -/
  | negative (n : Nat)
  | double (f : Binary64)
  deriving DecidableEq, Repr

/-- A value. -/
inductive Json where
  | null
  | bool (b : Bool)
  | number (n : Json.Number)
  | string (s : String)
  | array (items : List Json)
  | object (members : List (String × Json))
  deriving Repr, Inhabited

namespace Json

/-- How many arrays and objects may lie inside each other. -/
def maxDepth : Nat := 127

/-! ## Numbers -/

/-- Appends digits to a number while it stays below 2^64; also counts the digits left over. -/
def takeDigits : Nat → List Char → Nat × Nat
  | n, [] => (n, 0)
  | n, c :: rest =>
    let next := 10 * n + (c.toNat - '0'.toNat)
    if next < UInt64.size then takeDigits next rest else (n, rest.length + 1)

/-- The value of an exponent. -/
def exponentOf : Option (Bool × List Char) → Int
  | none => 0
  | some (true, ds) => -(Text.valueOf ds : Int)
  | some (false, ds) => (Text.valueOf ds : Int)

/-- The value of a number as a double. -/
def Numeral.toDouble (n : Numeral) : Option Binary64 :=
  let (whole, dropped) := takeDigits 0 n.whole
  let (significand, left) := takeDigits whole n.fraction
  let shift : Int := (dropped : Int) - ((n.fraction.length - left : Nat) : Int)
  Binary64.ofDecimal n.negative significand (shift + exponentOf n.exponent)

/-- Whether a number is written as a whole number. -/
def Numeral.isWhole (n : Numeral) : Bool :=
  n.fraction.isEmpty && n.exponent.isNone

/-- The value of a number. -/
def Numeral.value (n : Numeral) : Option Number :=
  let whole := Text.valueOf n.whole
  if n.isWhole && !n.negative && whole < UInt64.size then some (.natural whole)
  else if n.isWhole && n.negative && 0 < whole && whole ≤ Text.signedBound then
    some (.negative whole)
  else n.toDouble.map .double

/-! ## Values -/

/-- Puts a member into an object whose keys ascend. -/
def insertMember (key : String) (value : Json) : List (String × Json) → List (String × Json)
  | [] => [(key, value)]
  | (k, v) :: rest =>
    if key < k then (key, value) :: (k, v) :: rest
    else if key = k then (key, value) :: rest
    else (k, v) :: insertMember key value rest

/-- The members of an object as written; of several with one key the last counts. -/
def membersOf (members : List (String × Json)) : List (String × Json) :=
  members.foldl (fun object member => insertMember member.1 member.2 object) []

/-- The value of a document as written, in which at most `depth` arrays and objects lie inside each
other. -/
def ofSyntax (depth : Nat) (doc : Syntax) : Option Json :=
  match depth, doc with
  | _, .null => some .null
  | _, .bool b => some (.bool b)
  | _, .number n => n.value.map .number
  | _, .string s => (text? s).map .string
  | 0, .array _ => none
  | 0, .object _ => none
  | depth + 1, .array items => (items.mapM (ofSyntax depth)).map .array
  | depth + 1, .object members =>
    (members.mapM fun (member : List Piece × Syntax) => do
      let key ← text? member.1
      let value ← ofSyntax depth member.2
      return (key, value)).map fun pairs => .object (membersOf pairs)
termination_by structural depth

/-- Reads a whole document and its value. -/
def parse (s : Bytes) : Option Json :=
  (Syntax.read s).bind (ofSyntax maxDepth)

/-- A member of an object. -/
def get? (key : String) : Json → Option Json
  | .object members => (members.find? fun member => member.1 == key).map (·.2)
  | _ => none

/-! ## Text -/

/-- A character inside a string: quotes, backslashes and control characters are escaped. -/
def escapeChar (c : Char) : List Char :=
  if c = '"' then ['\\', '"']
  else if c = '\\' then ['\\', '\\']
  else if c = '\x08' then ['\\', 'b']
  else if c = '\t' then ['\\', 't']
  else if c = '\n' then ['\\', 'n']
  else if c = '\x0c' then ['\\', 'f']
  else if c = '\r' then ['\\', 'r']
  else if c.toNat < 0x20 then
    ['\\', 'u', '0', '0', Text.hexDigit (c.toNat / 16), Text.hexDigit (c.toNat % 16)]
  else [c]

/-- A string with its quotes. -/
def quoted (s : String) : List Char :=
  '"' :: s.toList.flatMap escapeChar ++ ['"']

/-- The text of a number. -/
def Number.text : Number → List Char
  | .natural n => Text.decimal n
  | .negative n => '-' :: Text.decimal n
  | .double f => f.display

/-- Texts with commas between them. -/
def commaSeparated : List (List Char) → List Char
  | [] => []
  | [one] => one
  | one :: rest => one ++ ',' :: commaSeparated rest

mutual

/-- The characters of a value without space. -/
def compactChars : Json → List Char
  | .null => ['n', 'u', 'l', 'l']
  | .bool true => ['t', 'r', 'u', 'e']
  | .bool false => ['f', 'a', 'l', 's', 'e']
  | .number n => n.text
  | .string s => quoted s
  | .array items => '[' :: commaSeparated (compactItems items) ++ [']']
  | .object members => '\x7b' :: commaSeparated (compactMembers members) ++ ['\x7d']

/-- The texts of the items of an array. -/
def compactItems : List Json → List (List Char)
  | [] => []
  | item :: rest => compactChars item :: compactItems rest

/-- The texts of the members of an object. -/
def compactMembers : List (String × Json) → List (List Char)
  | [] => []
  | (key, value) :: rest => (quoted key ++ ':' :: compactChars value) :: compactMembers rest

end

/-- The text of a value without space. -/
def compact (value : Json) : String :=
  String.ofList (compactChars value)

end Json

end ClusterDeploy
