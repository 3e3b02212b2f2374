import ClusterDeploy.Quantity

/-!
# Durations

Spans of time are whole numbers of milliseconds. Their text form is a quantity whose unit is one of
the usual names of milliseconds, seconds, minutes, hours and days; no unit means milliseconds.

## Main definitions

* `Millis` — a span of time.
* `Duration.unit` — the milliseconds of a unit.
* `Duration.parse` — the reading of a duration.
* `Duration.message` — what is said about a text that is no duration.
-/

namespace ClusterDeploy

/-- A span of time, or a moment counted from a start, in milliseconds. -/
abbrev Millis := Nat

namespace Duration

/-- The milliseconds of a unit of time. -/
def unit (name : String) : Option Nat :=
  if name ∈ ["", "ms", "milli", "millis", "millisecond", "milliseconds"] then some 1
  else if name ∈ ["s", "sec", "secs", "second", "seconds"] then some 1000
  else if name ∈ ["min", "m", "minute", "minutes"] then some 60000
  else if name ∈ ["h", "hour", "hours"] then some 3600000
  else if name ∈ ["d", "day", "days"] then some 86400000
  else none

/-- Reads a duration. -/
def parse (text : String) : Except Quantity.Fault Millis :=
  Quantity.read unit text.toList

/-- What is said about a text that is no duration. -/
def message (text : String) : Quantity.Fault → String
  | .noNumber => s!"duration '{text}' does not start with a number"
  | .outOfRange => s!"duration '{text}' is out of range"
  | .unknownUnit unit => s!"unknown duration unit '{unit}' in '{text}'"

end Duration

end ClusterDeploy
