/-!
# Numerals

Numbers as ASCII digits: their value, their reading with and without a sign, and their printing.
The base is ten unless told otherwise.

## Main definitions

* `Text.valueOf` — the number that a run of digits denotes.
* `Text.readNatural` — one digit or more and nothing else.
* `Text.readUnsigned`, `Text.readSigned` — numerals with a sign, for numbers of a given width.
* `Text.decimal`, `Text.padded` — the digits of a number, with leading zeros up to a width.
* `Text.hexDigit`, `Text.hexValue` — one digit of a number in base sixteen, and its value.
* `Text.readInBase` — one digit or more of a number in a base up to sixteen.

## Implementation notes

An unsigned numeral may begin with one plus sign but with no minus sign; a signed one may begin
with either. Leading zeros never matter.
-/

namespace ClusterDeploy.Text

/-- How many numbers of 64 bits with a sign are not negative. -/
def signedBound : Nat := 9223372036854775808

/-- The number that a run of digits denotes. -/
def valueOf (digits : List Char) : Nat :=
  digits.foldl (fun n c => 10 * n + (c.toNat - '0'.toNat)) 0

/-- Reads a text of one ASCII digit or more. -/
def readNatural (s : List Char) : Option Nat :=
  if !s.isEmpty && s.all Char.isDigit then some (valueOf s) else none

/-- Reads a natural number below `bound`, with at most one leading plus sign. -/
def readUnsigned (bound : Nat) (s : List Char) : Option Nat :=
  let digits := match s with
    | '+' :: rest => rest
    | _ => s
  (readNatural digits).filter (· < bound)

/-- Reads an integer between `-bound` and `bound - 1`, with at most one leading sign. -/
def readSigned (bound : Nat) (s : List Char) : Option Int :=
  match s with
  | '-' :: digits => ((readNatural digits).filter (· ≤ bound)).map fun n => -(n : Int)
  | _ => (readUnsigned bound s).map fun n => (n : Int)

/-- The decimal digits of a number, without leading zeros. -/
def decimal (n : Nat) : List Char :=
  Nat.toDigits 10 n

/-- The decimal digits of a number, with zeros in front of them up to `width`. -/
def padded (width n : Nat) : List Char :=
  List.replicate (width - (decimal n).length) '0' ++ decimal n

/-- A small hexadecimal digit. -/
def hexDigit (n : Nat) : Char :=
  if n < 10 then Char.ofNat ('0'.toNat + n) else Char.ofNat ('a'.toNat + (n - 10))

/-- The value of a hexadecimal digit. -/
def hexValue (c : Char) : Option Nat :=
  if c.isDigit then some (c.toNat - '0'.toNat)
  else
    let small := c.toLower
    if 'a' ≤ small && small ≤ 'f' then some (small.toNat - 'a'.toNat + 10) else none

/-- Reads a text of one digit or more in a base up to sixteen. -/
def readInBase (base : Nat) (s : List Char) : Option Nat :=
  if s.isEmpty then none
  else s.foldlM (fun n c => ((hexValue c).filter (· < base)).map (base * n + ·)) 0

end ClusterDeploy.Text
