/-!
# Double precision numbers

Finite binary floating-point numbers of 64 bits, as exact values: a sign and a whole mantissa times
a power of two. All rounding is to the nearest such number, a tie to the even mantissa.

## Main definitions

* `Binary64` — a finite number.
* `Binary64.ofRatio` — the number nearest to a quotient, if there is a finite one.
* `Binary64.mul`, `Binary64.div`, `Binary64.add` — rounded product, quotient and sum.
* `Binary64.le`, `Binary64.floor`, `Binary64.whole?` — order and whole parts, which are exact.
* `Binary64.ofDecimal` — a whole number times a power of ten, computed in double precision.

## Implementation notes

A mantissa has at most 53 bits, and exactly 53 unless the exponent is the least one. `ofDecimal`
multiplies or divides by the nearest number to the power of ten, so its result may be a neighbour of
the nearest one; powers beyond the largest one that is finite are taken in steps.
-/

namespace ClusterDeploy

/-- The number `±mantissa * 2 ^ exponent`. -/
structure Binary64 where
  negative : Bool
  mantissa : Nat
  exponent : Int
  deriving DecidableEq, Repr, Inhabited

namespace Binary64

/-- The least exponent. -/
def minExponent : Int := -1074

/-- The greatest exponent. -/
def maxExponent : Int := 971

/-- Zero. -/
def zero : Binary64 := ⟨false, 0, minExponent⟩

/-- The nearest whole number to a quotient; a tie goes to the even one. -/
def roundQuotient (num den : Nat) : Nat :=
  let q := num / den
  let r := num % den
  if den < 2 * r ∨ (2 * r = den ∧ q % 2 = 1) then q + 1 else q

/-- The two parts of the quotient `num / den` divided by `2 ^ e`. -/
def scaleRatio (num den : Nat) (e : Int) : Nat × Nat :=
  if 0 ≤ e then (num, den * Nat.pow 2 e.toNat) else (num * Nat.pow 2 (-e).toNat, den)

/-- The number nearest to a quotient, if there is a finite one. -/
def ofRatio (num den : Nat) : Option Binary64 :=
  if num = 0 then some zero
  else
    let guess : Int := (Nat.log2 num : Int) - (Nat.log2 den : Int) - 52
    let scaled := scaleRatio num den guess
    let fitting := if scaled.1 / scaled.2 < Nat.pow 2 52 then guess - 1 else guess
    let e := max fitting minExponent
    let ratio := scaleRatio num den e
    let m := roundQuotient ratio.1 ratio.2
    let result : Binary64 :=
      if m = Nat.pow 2 53 then ⟨false, Nat.pow 2 52, e + 1⟩ else ⟨false, m, e⟩
    if maxExponent < result.exponent then none else some result

/-- The number nearest to a whole number. -/
def ofNat (n : Nat) : Option Binary64 :=
  ofRatio n 1

/-- The number nearest to a mantissa times a power of two, over a divisor. -/
def ofScaled (num den : Nat) (e : Int) : Option Binary64 :=
  if 0 ≤ e then ofRatio (num * Nat.pow 2 e.toNat) den else ofRatio num (den * Nat.pow 2 (-e).toNat)

/-- The rounded product of two numbers. -/
def mul (a b : Binary64) : Option Binary64 :=
  (ofScaled (a.mantissa * b.mantissa) 1 (a.exponent + b.exponent)).map fun f =>
    { f with negative := a.negative != b.negative }

/-- The rounded quotient of two numbers that are not negative. -/
def div (a b : Binary64) : Option Binary64 :=
  ofScaled a.mantissa b.mantissa (a.exponent - b.exponent)

/-- The number with the other sign. -/
def neg (a : Binary64) : Binary64 :=
  { a with negative := !a.negative }

/-- The mantissa with the sign. -/
def signed (a : Binary64) : Int :=
  if a.negative then -(a.mantissa : Int) else a.mantissa

/-- The signed mantissa that the number has at an exponent, which is at most its own. -/
def mantissaAt (e : Int) (a : Binary64) : Int :=
  a.signed * (Nat.pow 2 (a.exponent - e).toNat : Nat)

/-- The rounded sum of two numbers. -/
def add (a b : Binary64) : Option Binary64 :=
  let e := min a.exponent b.exponent
  let sum := a.mantissaAt e + b.mantissaAt e
  (ofScaled sum.natAbs 1 e).map fun f => { f with negative := decide (sum < 0) }

/-! ## Order and whole parts -/

/-- The order of numbers. -/
def le (a b : Binary64) : Bool :=
  let e := min a.exponent b.exponent
  a.mantissaAt e ≤ b.mantissaAt e

/-- The greatest whole number that is not greater than a number. -/
def floor (a : Binary64) : Int :=
  if 0 ≤ a.exponent then a.mantissaAt 0 else Int.fdiv a.signed (Nat.pow 2 (-a.exponent).toNat : Nat)

/-- The whole number that a number is, if it is one. -/
def whole? (a : Binary64) : Option Int :=
  if 0 ≤ a.exponent || a.mantissa % Nat.pow 2 (-a.exponent).toNat == 0 then some a.floor else none

/-! ## Powers of ten -/

/-- The number nearest to a power of ten. -/
def powerOfTen (k : Nat) : Option Binary64 :=
  ofNat (Nat.pow 10 k)

/-- The greatest power of ten that is finite. -/
def maxPower : Nat := 308

/-- Divides by the greatest power of ten a given number of times, or until the number is zero. -/
def divideRepeatedly : Nat → Binary64 → Option Binary64
  | 0, f => some f
  | times + 1, f =>
    if f.mantissa = 0 then some f
    else ((powerOfTen maxPower).bind f.div).bind (divideRepeatedly times)

/-- Divides by a power of ten, by the greatest one first as long as more of it is left. -/
def scaleDown (f : Binary64) (k : Nat) : Option Binary64 :=
  let steps := (k - 1) / maxPower
  (divideRepeatedly steps f).bind fun g =>
    (powerOfTen (k - steps * maxPower)).bind g.div

/-- Multiplies by a power of ten. -/
def scaleUp (f : Binary64) (k : Nat) : Option Binary64 :=
  if k ≤ maxPower then (powerOfTen k).bind f.mul
  else if f.mantissa = 0 then some f
  else none

/-- Multiplies by a power of ten, which may be a fraction. -/
def scale (f : Binary64) (e : Int) : Option Binary64 :=
  if 0 ≤ e then f.scaleUp e.toNat else f.scaleDown (-e).toNat

/-- A whole number times a power of ten, if the result is finite. -/
def ofDecimal (negative : Bool) (significand : Nat) (e : Int) : Option Binary64 :=
  (ofNat significand).bind fun f => (f.scale e).map fun g => { g with negative := negative }

end Binary64

end ClusterDeploy
