import ClusterDeploy.Decimal.Binary64
import ClusterDeploy.Decimal.Paired
import ClusterDeploy.Text.Numeral
import ClusterDeploy.Text.Utf8

/-!
# Cells of tables

A cell of a table holds a value of one of five kinds. Columns do not fix the kind; each has an
affinity, towards which a value is converted when it is put into the column.

## Main definitions

* `Cell`, `Cell.kind` — values, and the names of their kinds.
* `Affinity`, `Affinity.store` — the conversion of a value that is put into a column.
* `Cell.le` — the order of values: nothing first, then numbers, texts and bytes.
* `numberOf` — the number that a text is.

## Implementation notes

A real number that is whole becomes an integer in a column of numbers, if it is not as great as the
bounds of 64 bits. Of the digits of a real number in a text those count that fit in 64 bits, and a
number that is too large is infinite. Integers in a text are exact.
-/

namespace ClusterDeploy.Ledger

/-- A value in a table. -/
inductive Cell where
  | null
  | integer (i : Int)
  | real (f : Binary64)
  /-- A real number beyond all finite ones, in the negative or in the positive. -/
  | infinite (negative : Bool)
  | text (s : String)
  | blob (b : Bytes)
  deriving DecidableEq, Repr, Inhabited

namespace Cell

/-- The name of the kind of a value. -/
def kind : Cell → String
  | .null => "Null"
  | .integer _ => "Integer"
  | .real _ => "Real"
  | .infinite _ => "Real"
  | .text _ => "Text"
  | .blob _ => "Blob"

/-- A text or nothing. -/
def ofText? : Option String → Cell
  | none => .null
  | some s => .text s

/-- Bytes or nothing. -/
def ofBytes? : Option Bytes → Cell
  | none => .null
  | some b => .blob b

/-- Whether there is no value. -/
def isNull : Cell → Bool
  | .null => true
  | _ => false

/-! ## Order -/

/-- The rank of the kind of a value in the order of values. -/
def rank : Cell → Nat
  | .null => 0
  | .integer _ => 1
  | .real _ => 1
  | .infinite _ => 1
  | .text _ => 2
  | .blob _ => 3

/-- The order of byte sequences. -/
def bytesLe : Bytes → Bytes → Bool
  | [], _ => true
  | _ :: _, [] => false
  | a :: s, b :: t => a < b || (a == b && bytesLe s t)

/-- The order of values. -/
def le : Cell → Cell → Bool
  | .integer a, .integer b => a ≤ b
  | .integer a, .real b => a ≤ b.floor
  | .real a, .integer b => a.floor < b || a.whole? == some b
  | .real a, .real b => a.le b
  | .infinite a, .infinite b => a || !b
  | .infinite a, .integer _ => a
  | .infinite a, .real _ => a
  | .integer _, .infinite b => !b
  | .real _, .infinite b => !b
  | .text a, .text b => decide (a ≤ b)
  | .blob a, .blob b => bytesLe a b
  | a, b => rank a ≤ rank b

end Cell

/-! ## Affinity -/

/-- What values of a column are converted to. -/
inductive Affinity where
  /-- Texts that are numbers become numbers. -/
  | number
  /-- Numbers become texts. -/
  | text
  /-- Values stay as they are. -/
  | none
  deriving DecidableEq, Repr

/-- Whether a character may stand around a number in a text. -/
def isPadding (c : Char) : Bool :=
  c == ' ' || (9 ≤ c.toNat && c.toNat ≤ 13)

/-- The fraction of a number in a text, and the rest of the text. -/
def readFraction (s : List Char) : List Char × List Char :=
  match s with
  | '.' :: rest => (rest.takeWhile Char.isDigit, rest.dropWhile Char.isDigit)
  | _ => ([], s)

/-- The number that the digits of an exponent denote. Beyond 9999 only some digits count. -/
def exponentOf (digits : List Char) : Nat :=
  digits.foldl (fun e c => if e < 10000 then 10 * e + Text.valueOf [c] else 10000) 0

/-- The exponent at the end of a number in a text. -/
def readExponent (s : List Char) : Option Int :=
  match s with
  | [] => some 0
  | c :: rest =>
    if c == 'e' || c == 'E' then
      let (negative, digits) := match rest with
        | '-' :: digits => (true, digits)
        | '+' :: digits => (false, digits)
        | digits => (false, digits)
      if digits.isEmpty || !digits.all Char.isDigit then none
      else some (if negative then -(exponentOf digits : Int) else exponentOf digits)
    else none

/-- Appends digits to a significand as long as it has room for any digit in 64 bits: the
significand, and how many digits are left out. -/
def takeDigits (significand : Nat) (digits : List Char) : Nat × Nat :=
  digits.foldl (fun (s, left) c =>
    if s < (UInt64.size - 10) / 10 then (10 * s + Text.valueOf [c], left) else (s, left + 1))
    (significand, 0)

/-- Whether a whole number fits in 64 bits. -/
def fits (i : Int) : Bool :=
  -(Text.signedBound : Int) ≤ i && i < Text.signedBound

/-- A real number in a column of numbers. -/
def Cell.ofReal (f : Binary64) : Cell :=
  match f.whole? with
  | some i => if i.natAbs < Text.signedBound then .integer i else .real f
  | none => .real f

/-- The number that a text is, if it is one. -/
def numberOf (text : List Char) : Option Cell :=
  let trimmed := (text.dropWhile isPadding).reverse.dropWhile isPadding |>.reverse
  let (negative, unsigned) := match trimmed with
    | '-' :: rest => (true, rest)
    | '+' :: rest => (false, rest)
    | _ => (false, trimmed)
  let whole := unsigned.takeWhile Char.isDigit
  let afterWhole := unsigned.dropWhile Char.isDigit
  let (fraction, rest) := readFraction afterWhole
  if whole.isEmpty && fraction.isEmpty then none
  else
    let exact : Int := Text.valueOf whole
    let signed := if negative then -exact else exact
    if afterWhole.isEmpty && fits signed then some (.integer signed)
    else (readExponent rest).map fun exponent =>
      let (upper, left) := takeDigits 0 whole
      let (significand, leftBehind) := takeDigits upper fraction
      let shift := (left : Int) - (fraction.length - leftBehind : Nat)
      match Binary64.ofScientific negative significand (exponent + shift) with
      | some f => Cell.ofReal f
      | none => .infinite negative

/-- The value that a column holds after a value was put into it. -/
def Affinity.store : Affinity → Cell → Cell
  | .number, .text s => (numberOf s.toList).getD (.text s)
  | .number, .real f => Cell.ofReal f
  | .text, .integer (Int.ofNat n) => .text (String.ofList (Text.decimal n))
  | .text, .integer (Int.negSucc n) => .text (String.ofList ('-' :: Text.decimal (n + 1)))
  | _, cell => cell

end ClusterDeploy.Ledger
