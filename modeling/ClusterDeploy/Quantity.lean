import ClusterDeploy.Text.Blank
import ClusterDeploy.Text.Numeral

/-!
# Quantities

A quantity is a whole number followed by a unit, such as `30 s` or `512 MB`. Blanks around the
quantity and between its two parts do not count, nor does the case of the unit.

## Main definitions

* `Quantity.Fault` — why a text is no quantity.
* `Quantity.read` — the size of a quantity in the smallest unit, which has to stay below 2^64.

## Implementation notes

The number ends at the first character that is no ASCII digit, so a sign, a fraction or a second
quantity ends up in the unit and is refused there.
-/

namespace ClusterDeploy.Quantity

/-- Why a text is no quantity. -/
inductive Fault where
  /-- The text does not begin with a digit. -/
  | noNumber
  /-- The number, or its product with the unit, does not fit in 64 bits. -/
  | outOfRange
  /-- The unit is not known. -/
  | unknownUnit (unit : String)
  deriving DecidableEq, Repr

/-- The first number that does not fit in 64 bits. -/
def limit : Nat := UInt64.size

/-- Reads a quantity; `sizeOf` gives the size of a unit by its name in small letters. -/
def read (sizeOf : String → Option Nat) (text : List Char) : Except Fault Nat :=
  let trimmed := Text.trim text
  let digits := trimmed.takeWhile Char.isDigit
  let unit := String.ofList (Text.foldCase (Text.trim (trimmed.dropWhile Char.isDigit)))
  if digits.isEmpty then .error .noNumber
  else if limit ≤ Text.valueOf digits then .error .outOfRange
  else match sizeOf unit with
    | none => .error (.unknownUnit unit)
    | some size =>
      let total := Text.valueOf digits * size
      if limit ≤ total then .error .outOfRange else .ok total

end ClusterDeploy.Quantity
