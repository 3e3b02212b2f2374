/-!
# Counters

Calls are counted in words of 32 bits. Such a counter starts again when it is used up.

## Main definitions

* `Counter` — how often something was done.

## Implementation notes

A counter is read as a number, and a number that is to be compared with counters is cut to their
width. What is said of counters is said of words, so it holds however often something is done.
-/

namespace ClusterDeploy

/-- How often something was done, as far as a word of 32 bits can tell. -/
abbrev Counter := UInt32

/-- A counter is read as a number. -/
instance : Coe Counter Nat where
  coe := UInt32.toNat

/-- A count that may be missing is cut to the width of a counter. -/
instance : Coe (Option Nat) (Option Counter) where
  coe := Option.map UInt32.ofNat

end ClusterDeploy
