/-!
# Punycode

Texts of any characters, written with letters, digits and hyphens only, as names of hosts are.

## Main definitions

* `Punycode.Decoder`, `Punycode.Decoder.take` — what is decoded so far, and taking in one digit.
* `Punycode.decode` — the text that is meant.

## Implementation notes

The ASCII characters of a text come first, with a hyphen behind them. The others are put in from the
smallest to the greatest, each given by the distance from the one before. A distance is a numeral
in base thirty-six, of which the smallest digit comes first; the digit that ends it is below a bound
that depends on the distances before it. No distance needs more than 32 bits.
-/

namespace ClusterDeploy.Punycode

/-- The value of a digit. -/
def digitValue (c : Char) : Option Nat :=
  let small := c.toLower
  if 'a' ≤ small && small ≤ 'z' then some (small.toNat - 'a'.toNat)
  else if c.isDigit then some (c.toNat - '0'.toNat + 26)
  else none

/-- The bound of the digits that end a numeral, at a position and with a bias. -/
def threshold (position bias : Nat) : Nat :=
  max 1 (min 26 (position - bias))

/-- The bias that fits distances of a size. -/
def biasFor (size : Nat) : Nat :=
  if 455 < size then 36 + biasFor (size / 35) else 36 * size / (size + 38)
termination_by size
decreasing_by exact Nat.div_lt_self (by omega) (by omega)

/-- The bias after a distance, from the number of the characters with the new one. -/
def biasAfter (distance count : Nat) (isFirst : Bool) : Nat :=
  let size := if isFirst then distance / 700 else distance / 2
  biasFor (size + size / count)

/-- What is decoded so far of a text, and what is known of the numeral that comes next. -/
structure Decoder where
  decoded : List Char
  /-- The number of the character that was put in last. -/
  code : Nat := 128
  /-- Where the next character would be put in at no distance. -/
  place : Nat := 0
  bias : Nat := 72
  distance : Nat := 0
  /-- What the next digit counts for. -/
  weight : Nat := 1
  /-- The position of the next digit, times the base. -/
  position : Nat := 36
  isFirst : Bool := true
  deriving DecidableEq, Repr, Inhabited

namespace Decoder

/-- Puts in the character at the distance that was read. -/
def putIn (d : Decoder) : Option Decoder :=
  let count := d.decoded.length + 1
  let reached := d.place + d.distance
  let code := d.code + reached / count
  if code.isValidChar then
    some {
      decoded := d.decoded.insertIdx (reached % count) (Char.ofNat code)
      code
      place := reached % count + 1
      bias := biasAfter d.distance count d.isFirst
      isFirst := false }
  else none

/-- Takes in one digit. -/
def take (d : Decoder) (digit : Char) : Option Decoder := do
  let value ← digitValue digit
  let read := { d with distance := d.distance + value * d.weight }
  let bound := threshold d.position d.bias
  if UInt32.size ≤ read.place + read.distance then none
  else if value < bound then read.putIn
  else some { read with weight := d.weight * (36 - bound), position := d.position + 36 }

/-- The text, if no numeral is left unfinished. -/
def finish (d : Decoder) : Option (List Char) :=
  if d.position = 36 then some d.decoded else none

end Decoder

/-- The text that is meant. A hyphen has something in front of it. -/
def decode (s : List Char) : Option (List Char) := do
  let digits := (s.reverse.takeWhile (· != '-')).reverse
  let before := s.take (s.length - digits.length)
  if before == ['-'] then none
  else (← digits.foldlM Decoder.take { decoded := before.dropLast }).finish

end ClusterDeploy.Punycode
