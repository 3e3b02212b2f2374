import ClusterDeploy.Text.Utf8

/-!
# Control sequences of terminals

What is left of a text for a terminal where it is not written to one: the control sequences are
taken out, and so are the control characters that are no blanks.

## Main definitions

* `Terminal.State`, `Terminal.step` — where a terminal stands in a sequence, and how a byte moves it
  on.
* `Terminal.Stripper` — takes the sequences out of bytes, one byte after the other.
* `Terminal.plain` — a text without control sequences.
* `Terminal.bold` — a text that a terminal shows in bold.

## Implementation notes

A sequence begins with an escape character. One that is introduced by a bracket ends with the first
byte from `40` to `7E`; strings of a device or of the operating system have ends of their own. A
blank in the middle of a sequence is shown, and then all that follows is shown too, up to the next
byte that cannot be; what is left of the sequence is only missed then. The escape character always
begins anew.
-/

namespace ClusterDeploy.Terminal

/-- Where a terminal stands in a sequence. -/
inductive State where
  /-- Not in a sequence. -/
  | ground
  /-- In a character, of which some bytes are still to come. -/
  | character (left : Nat)
  /-- After the escape character. -/
  | escape
  | escapeIntermediate
  /-- In a sequence that a bracket introduces. -/
  | control
  | controlParameter
  | controlIntermediate
  | controlIgnored
  /-- In a sequence for a device. -/
  | device
  | deviceParameter
  | deviceIntermediate
  | devicePassed
  | deviceIgnored
  /-- In a string for the operating system. -/
  | system
  /-- In a string for nobody. -/
  | message
  deriving DecidableEq, Repr, Inhabited

/-- What a terminal does with a byte. -/
inductive Effect where
  | print
  /-- Begin a character of more than one byte. -/
  | beginCharacter
  /-- Do what a control character says. -/
  | execute
  | nothing
  deriving DecidableEq, Repr, Inhabited

/-- Whether a byte lies between two others. -/
def within (low high b : UInt8) : Bool :=
  low ≤ b && b ≤ high

/-- Whether a byte is a control character that neither begins nor ends a sequence. -/
def isControl (b : UInt8) : Bool :=
  b ≤ 0x17 || b == 0x19 || within 0x1C 0x1F b

/-- How a byte moves a terminal on that is not in a sequence. -/
def stepGround (b : UInt8) : Option State × Effect :=
  if isControl b || within 0x80 0x8F b || within 0x91 0x9A b || b == 0x9C then (none, .execute)
  else if within 0x20 0x7F b then (none, .print)
  else if within 0xC2 0xDF b then (some (.character 2), .beginCharacter)
  else if within 0xE0 0xEF b then (some (.character 3), .beginCharacter)
  else if within 0xF0 0xF4 b then (some (.character 4), .beginCharacter)
  else (none, .nothing)

/-- How a byte after the escape character moves a terminal on. -/
def stepEscape (b : UInt8) : Option State :=
  if within 0x20 0x2F b then some .escapeIntermediate
  else if b == 0x5B then some .control
  else if b == 0x5D then some .system
  else if b == 0x50 then some .device
  else if b == 0x58 || b == 0x5E || b == 0x5F then some .message
  else if within 0x30 0x7E b then some .ground
  else none

/-- How a byte moves a terminal on in a sequence, from its parts: where parameters, private marks,
intermediate bytes and final bytes lead. -/
def stepParts (parameter mark intermediate final : Option State) (b : UInt8) : Option State :=
  if within 0x20 0x2F b then intermediate
  else if within 0x30 0x3B b then parameter
  else if within 0x3C 0x3F b then mark
  else if within 0x40 0x7E b then final
  else none

/-- How a byte moves a terminal on in a sequence; nothing if it stays where it is. -/
def next? (s : State) (b : UInt8) : Option State :=
  match s with
  | .ground | .character _ => none
  | .escape => stepEscape b
  | .escapeIntermediate => if within 0x30 0x7E b then some .ground else none
  | .control => stepParts (some .controlParameter) (some .controlParameter)
      (some .controlIntermediate) (some .ground) b
  | .controlParameter =>
    stepParts none (some .controlIgnored) (some .controlIntermediate) (some .ground) b
  | .controlIntermediate =>
    stepParts (some .controlIgnored) (some .controlIgnored) none (some .ground) b
  | .controlIgnored => stepParts none none none (some .ground) b
  | .device => stepParts (some .deviceParameter) (some .deviceParameter)
      (some .deviceIntermediate) (some .devicePassed) b
  | .deviceParameter =>
    stepParts none (some .deviceIgnored) (some .deviceIntermediate) (some .devicePassed) b
  | .deviceIntermediate =>
    stepParts (some .deviceIgnored) (some .deviceIgnored) none (some .devicePassed) b
  | .devicePassed | .deviceIgnored | .message => if b == 0x9C then some .ground else none
  | .system => if b == 0x07 then some .ground else none

/-- Whether control characters have their effect in a sequence. -/
def obeysControls : State → Bool
  | .escape | .escapeIntermediate => true
  | .control | .controlParameter | .controlIntermediate | .controlIgnored => true
  | _ => false

/-- How a byte moves a terminal on, and what the terminal does with it. -/
def step (s : State) (b : UInt8) : Option State × Effect :=
  if b == 0x18 || b == 0x1A then (some .ground, .execute)
  else if b == 0x1B then (some .escape, .nothing)
  else if s = .ground then stepGround b
  else if isControl b && obeysControls s then (none, .execute)
  else (next? s b, .nothing)

/-- Whether something can be seen of a byte. -/
def isShown (effect : Effect) (b : UInt8) : Bool :=
  match effect with
  | .print => b != 0x7F
  | .beginCharacter => true
  | .execute => b == 0x20 || b == 0x09 || b == 0x0A || b == 0x0C || b == 0x0D
  | .nothing => false

/-! ## Taking sequences out -/

/-- What takes sequences out of bytes: where a terminal would stand, and whether the byte before was
shown. -/
structure Stripper where
  state : State
  isShowing : Bool
  deriving DecidableEq, Repr, Inhabited

namespace Stripper

/-- The bytes of a character that are still to come after one more. -/
def advance : State → State
  | .character left => if left ≤ 1 then .ground else .character (left - 1)
  | s => s

/-- Takes a byte that is not shown if it belongs to a sequence. -/
def skip (s : State) (b : UInt8) : Stripper × Bool :=
  let (next, effect) := step s b
  let moved := next.getD s
  if isShown effect b then (⟨advance moved, true⟩, true) else (⟨moved, false⟩, false)

/-- Takes a byte after one that was shown. -/
def goOn (s : State) (b : UInt8) : Stripper × Bool :=
  match s with
  | .character _ => (⟨advance s, true⟩, true)
  | _ =>
    let (next, effect) := step .ground b
    let moved := next.getD s
    if isShown effect b then (⟨advance moved, true⟩, true) else skip moved b

/-- Takes a byte: whether it is shown. -/
def take (r : Stripper) (b : UInt8) : Stripper × Bool :=
  if r.isShowing then goOn r.state b else skip r.state b

/-- The bytes that are shown. -/
def strip (r : Stripper) : Bytes → Bytes
  | [] => []
  | b :: rest =>
    let (after, shown) := r.take b
    if shown then b :: strip after rest else strip after rest

end Stripper

/-- A text without control sequences. -/
def plain (s : String) : String :=
  Utf8.decodeLossy (Stripper.strip ⟨.ground, false⟩ (Utf8.encode s))

/-- A text that a terminal shows in bold. -/
def bold (s : String) : String :=
  "\x1b[1m" ++ s ++ "\x1b[0m"

end ClusterDeploy.Terminal
