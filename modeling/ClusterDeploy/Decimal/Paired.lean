import ClusterDeploy.Decimal.Binary64

/-!
# Pairs of double precision numbers

Reading a decimal with more digits than a double precision number has: a number is carried as the
sum of two, of which the second makes up for what the first is rounded by.

## Main definitions

* `Paired` — the sum of two double precision numbers.
* `Paired.mul` — the product, computed in double precision.
* `Paired.powerOfTen` — the pair nearest to a power of ten.
* `Binary64.ofScientific` — a whole number of 64 bits times a power of ten, computed with pairs.

## Implementation notes

A product is exact as long as the halves of the mantissas are multiplied one by one; only the
product of the second numbers is left out. The result of `Binary64.ofScientific` is the sum of the
pair, rounded once more, so that it differs from the nearest number only next to a tie. Powers of
ten are taken in steps of hundred, ten and one.
-/

namespace ClusterDeploy

/-- The sum of two numbers, of which the second is small against the first. -/
structure Paired where
  high : Binary64
  low : Binary64
  deriving DecidableEq, Repr, Inhabited

namespace Paired

/-- The greatest number below `Nat.pow 2 64`. -/
def maxWord : Nat := 18446744073709549568

/-- The pair whose sum is a whole number of 64 bits. One that rounds to `Nat.pow 2 64` is taken for
it. -/
def ofWord (n : Nat) : Option Paired := do
  let high ← Binary64.ofNat n
  let rounded := high.floor.toNat
  if maxWord < rounded then return ⟨high, .zero⟩
  else
    let missing ← Binary64.ofNat ((n : Int) - rounded).natAbs
    return ⟨high, if n < rounded then missing.neg else missing⟩

/-- The upper and the lower half of a mantissa as two numbers. -/
def halves (a : Binary64) : Binary64 × Binary64 :=
  let lower := a.mantissa % Nat.pow 2 26
  ({ a with mantissa := a.mantissa - lower }, { a with mantissa := lower })

/-- The product of two pairs. -/
def mul (x y : Paired) : Option Paired := do
  let (hx, tx) := halves x.high
  let (hy, ty) := halves y.high
  let first ← hx.mul hy
  let second ← (← hx.mul ty).add (← tx.mul hy)
  let sum ← first.add second
  let missing ← (← (← first.add sum.neg).add second).add (← tx.mul ty)
  let rest ← (← (← x.high.mul y.low).add (← x.low.mul y.high)).add missing
  let high ← sum.add rest
  return ⟨high, ← (← sum.add high.neg).add rest⟩

/-- The pair nearest to a quotient. -/
def ofRatio (num den : Nat) : Option Paired := do
  let high ← Binary64.ofRatio num den
  let scaled := Binary64.scaleRatio num den high.exponent
  let missing := (scaled.1 : Int) - (high.mantissa * scaled.2 : Nat)
  let low ← Binary64.ofScaled missing.natAbs scaled.2 high.exponent
  return ⟨high, if missing < 0 then low.neg else low⟩

/-- The pair nearest to a power of ten, or to its inverse. -/
def powerOfTen (inverse : Bool) (k : Nat) : Option Paired :=
  if inverse then ofRatio 1 (Nat.pow 10 k) else ofRatio (Nat.pow 10 k) 1

/-- Multiplies by a pair a given number of times. -/
def mulRepeatedly (factor : Paired) : Nat → Paired → Option Paired
  | 0, x => some x
  | times + 1, x => (x.mul factor).bind (mulRepeatedly factor times)

/-- Multiplies by a power of ten, which may be a fraction. -/
def scale (x : Paired) (e : Int) : Option Paired := do
  let inverse := decide (e < 0)
  let k := e.natAbs
  let x ← mulRepeatedly (← powerOfTen inverse 100) (k / 100) x
  let x ← mulRepeatedly (← powerOfTen inverse 10) (k % 100 / 10) x
  mulRepeatedly (← powerOfTen inverse 1) (k % 10) x

end Paired

namespace Binary64

/-- Whether a significand of 64 bits has room for one more zero. -/
def hasRoom (significand : Nat) : Bool :=
  significand < Paired.maxWord / 10

/-- Moves factors of ten from a power of ten into the significand while there is room. -/
def fillUp : Nat → Nat → Nat × Nat
  | 0, s => (0, s)
  | k + 1, s => if hasRoom s then fillUp k (10 * s) else (k + 1, s)

/-- Moves factors of ten from the significand into the inverse of a power of ten. -/
def strip : Nat → Nat → Nat × Nat
  | 0, s => (0, s)
  | k + 1, s => if s % 10 = 0 then strip k (s / 10) else (k + 1, s)

/-- A whole number of 64 bits times a power of ten, if the result is finite. -/
def ofScientific (negative : Bool) (significand : Nat) (e : Int) : Option Binary64 := do
  if significand = 0 then return zero
  else
    let (left, s) := if 0 ≤ e then fillUp e.toNat significand else strip (-e).toNat significand
    let pair ← (← Paired.ofWord s).scale (if 0 ≤ e then (left : Int) else -(left : Int))
    let sum ← pair.high.add pair.low
    return { sum with negative := negative }

end Binary64

end ClusterDeploy
