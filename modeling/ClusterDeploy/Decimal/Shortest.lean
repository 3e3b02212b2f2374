import ClusterDeploy.Decimal.Binary64
import ClusterDeploy.Text.Numeral

/-!
# The shortest decimal of a double

The decimal with the fewest digits that reads back as a given number, and of those the nearest.

## Main definitions

* `Binary64.Interval` — the reals that round to a number.
* `Binary64.shortest` — the digits and the exponent of the shortest decimal in it.
* `Binary64.display` — the text form: positional from 1e-5 up to below 1e16, else with an exponent.

## Implementation notes

For each number of digits only the two neighbours of the value on the decimal grid can be hits: if
any point of the grid lies in the interval, so does one of them. Seventeen digits always suffice.
-/

namespace ClusterDeploy.Binary64

/-- The reals that round to a number, as multiples of `1 / den`. The ends belong to it if the
mantissa is even. -/
structure Interval where
  value : Nat
  low : Nat
  high : Nat
  den : Nat
  closed : Bool

/-- The interval of a positive number. -/
def interval (f : Binary64) : Interval :=
  let below := if f.mantissa = Nat.pow 2 52 ∧ minExponent < f.exponent then 1 else 2
  let unit := if 2 ≤ f.exponent then Nat.pow 2 (f.exponent - 2).toNat else 1
  let den := if 2 ≤ f.exponent then 1 else Nat.pow 2 (2 - f.exponent).toNat
  { value := 4 * f.mantissa * unit
    low := (4 * f.mantissa - below) * unit
    high := (4 * f.mantissa + 2) * unit
    den := den
    closed := f.mantissa % 2 = 0 }

/-- Whether `digits * 10 ^ e` lies in the interval. -/
def Interval.holds (i : Interval) (digits : Nat) (e : Int) : Bool :=
  let point := if 0 ≤ e then digits * Nat.pow 10 e.toNat * i.den else digits * i.den
  let unit := if 0 ≤ e then 1 else Nat.pow 10 (-e).toNat
  if i.closed then i.low * unit ≤ point && point ≤ i.high * unit
  else i.low * unit < point && point < i.high * unit

/-- The position of the first digit of the value: the greatest `p` with `10 ^ p ≤ value / den`. -/
def Interval.leading (i : Interval) : Int :=
  if i.den ≤ i.value then ((Text.decimal (i.value / i.den)).length : Int) - 1
  else
    match (List.range 400).find? fun k => i.den ≤ i.value * Nat.pow 10 k with
    | some k => -(k : Int)
    | none => -400

/-- The hit with its last digit at `10 ^ e` that is nearest to the value. -/
def Interval.nearest (i : Interval) (e : Int) : Option Nat :=
  let num := if 0 ≤ e then i.value else i.value * Nat.pow 10 (-e).toNat
  let den := if 0 ≤ e then i.den * Nat.pow 10 e.toNat else i.den
  let lower := num / den
  let rest := num % den
  match i.holds lower e, i.holds (lower + 1) e with
  | true, true =>
    if 2 * rest < den ∨ (2 * rest = den ∧ lower % 2 = 0) then some lower else some (lower + 1)
  | true, false => some lower
  | false, true => some (lower + 1)
  | false, false => none

/-- Drops the zeros at the end of a number, counting them. -/
def dropZeros : Nat → Nat → Int → Nat × Int
  | 0, n, e => (n, e)
  | fuel + 1, n, e => if n % 10 = 0 ∧ n ≠ 0 then dropZeros fuel (n / 10) (e + 1) else (n, e)

/-- The digits of the shortest decimal of a positive number, and the exponent of the last one. -/
def shortest (f : Binary64) : Nat × Int :=
  let i := f.interval
  let p := i.leading
  let hit := (List.range 17).findSome? fun (n : Nat) =>
    let e := p - (n : Int)
    (i.nearest e).map fun digits => dropZeros 20 digits e
  hit.getD (0, 0)

/-- The greatest exponent that is written without one. -/
def maxPositional : Int := 15

/-- The least exponent that is written without one. -/
def minPositional : Int := -5

/-- The text of a decimal whose first digit stands at `10 ^ p`. -/
def layout (digits : List Char) (p : Int) : List Char :=
  if minPositional ≤ p ∧ p ≤ maxPositional then
    if p < 0 then '0' :: '.' :: List.replicate ((-p).toNat - 1) '0' ++ digits
    else
      let whole := p.toNat + 1
      let fraction := digits.drop whole
      digits.take whole ++ List.replicate (whole - digits.length) '0' ++
        '.' :: (if fraction.isEmpty then ['0'] else fraction)
  else
    let sign := if p < 0 then '-' else '+'
    let fraction := digits.drop 1
    digits.take 1 ++ (if fraction.isEmpty then [] else '.' :: fraction) ++
      'e' :: sign :: Text.decimal p.natAbs

/-- The text form of a number. -/
def display (f : Binary64) : List Char :=
  let body :=
    if f.mantissa = 0 then ['0', '.', '0']
    else
      let (n, e) := f.shortest
      let digits := Text.decimal n
      layout digits (e + (digits.length : Int) - 1)
  if f.negative then '-' :: body else body

end ClusterDeploy.Binary64
