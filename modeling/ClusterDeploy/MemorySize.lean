import ClusterDeploy.Quantity

/-!
# Memory sizes

A memory size is a number of bytes below 2^64. Its text form is a quantity with binary units; no
unit means bytes. Whole mebibytes are printed as such and all other sizes as bytes.

## Main definitions

* `MemorySize` — a number of bytes.
* `MemorySize.parse`, `MemorySize.display` — its two text forms, input and output.
* `MemorySize.mebibytes` — the whole mebibytes in it.
-/

namespace ClusterDeploy

/-- A number of bytes of memory. -/
structure MemorySize where
  bytes : UInt64
  deriving DecidableEq, Repr, Inhabited

namespace MemorySize

/-- The bytes of one mebibyte. -/
def mebibyte : Nat := 1024 * 1024

/-- The bytes of a unit of memory. -/
def unit (name : String) : Option Nat :=
  if name ∈ ["", "b", "bytes"] then some 1
  else if name ∈ ["k", "kb", "kibibytes"] then some 1024
  else if name ∈ ["m", "mb", "mebibytes"] then some mebibyte
  else if name ∈ ["g", "gb", "gibibytes"] then some (1024 * mebibyte)
  else if name ∈ ["t", "tb", "tebibytes"] then some (1024 * 1024 * mebibyte)
  else none

/-- Why a text is no memory size. -/
inductive Fault where
  /-- The text begins with a minus sign. -/
  | negative
  /-- The text is no quantity. -/
  | quantity (fault : Quantity.Fault)
  deriving DecidableEq, Repr

/-- Reads a memory size. -/
def parse (text : String) : Except Fault MemorySize :=
  if (Text.trim text.toList).head? == some '-' then .error .negative
  else match Quantity.read unit text.toList with
    | .ok bytes => .ok ⟨UInt64.ofNat bytes⟩
    | .error fault => .error (.quantity fault)

/-- What is said about a text that is no memory size. -/
def message (text : String) : Fault → String
  | .negative => s!"memory size '{text}' must not be negative"
  | .quantity .noNumber => s!"memory size '{text}' does not start with a number"
  | .quantity .outOfRange => s!"memory size '{text}' is out of range"
  | .quantity (.unknownUnit unit) => s!"unknown memory unit '{unit}' in '{text}'"

/-- The size of a number of mebibytes. -/
def ofMebibytes (n : UInt64) : MemorySize :=
  ⟨n * UInt64.ofNat mebibyte⟩

/-- The whole mebibytes of a size. -/
def mebibytes (size : MemorySize) : UInt64 :=
  size.bytes / UInt64.ofNat mebibyte

/-- The order by size. -/
def le (a b : MemorySize) : Bool :=
  a.bytes ≤ b.bytes

/-- Prints a size: whole mebibytes with the unit `m`, all other sizes with the unit `b`. -/
def display (size : MemorySize) : String :=
  let bytes := size.bytes.toNat
  if bytes ≠ 0 ∧ bytes % mebibyte = 0 then
    String.ofList (Text.decimal (bytes / mebibyte) ++ ['m'])
  else
    String.ofList (Text.decimal bytes ++ ['b'])

end MemorySize

end ClusterDeploy
