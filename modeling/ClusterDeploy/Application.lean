import ClusterDeploy.Text.FileName
import ClusterDeploy.Text.Numeral

/-!
# Application ids

The resource manager names each cluster instance by the time at which the manager itself started and
a running number. The text form of the id is the name of the staging directory and the key of the
ledger.

## Main definitions

* `ApplicationId` — the two numbers.
* `ApplicationId.display`, `ApplicationId.parse` — the text form and its reading.
* `ApplicationId.le` — the order by time, then by running number.

## Implementation notes

The running number is printed with at least four digits. Reading accepts any number of digits and
one plus sign before the time.
-/

namespace ClusterDeploy

/-- The name of one cluster instance. -/
structure ApplicationId where
  /-- When the resource manager started. -/
  clusterTimestamp : UInt64
  /-- The running number of the application since then. -/
  sequence : UInt32
  deriving DecidableEq, Repr, Inhabited

namespace ApplicationId

/-- The text that begins every id. -/
def label : List Char := "application_".toList

/-- Prints an id. -/
def display (id : ApplicationId) : String :=
  String.ofList (label ++ Text.decimal id.clusterTimestamp.toNat ++
    '_' :: Text.padded 4 id.sequence.toNat)

/-- Removes a given beginning of a text. -/
def dropLabel : List Char → List Char → Option (List Char)
  | [], s => some s
  | _ :: _, [] => none
  | a :: label, b :: s => if a == b then dropLabel label s else none

/-- Reads an id. -/
def parse (text : String) : Option ApplicationId := do
  let rest ← dropLabel label text.toList
  let (time, number) ← Text.splitOnce '_' rest
  let clusterTimestamp ← Text.readUnsigned UInt64.size time
  let sequence ← (Text.readNatural number).filter (· < UInt32.size)
  return ⟨UInt64.ofNat clusterTimestamp, UInt32.ofNat sequence⟩

/-- The order by time, then by running number. -/
def le (a b : ApplicationId) : Bool :=
  a.clusterTimestamp < b.clusterTimestamp ||
    (a.clusterTimestamp == b.clusterTimestamp && a.sequence ≤ b.sequence)

end ApplicationId

end ClusterDeploy
