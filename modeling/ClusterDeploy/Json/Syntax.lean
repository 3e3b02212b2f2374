import ClusterDeploy.Text.Utf8

/-!
# The syntax of JSON documents

A document as it is written: numbers with their digits, strings with their escapes, objects with all
their members in order. What the parts mean, and whether they are in range, is left to whoever uses
them; parts that nobody uses are checked for their grammar alone.

## Main definitions

* `Json.Piece`, `Json.Numeral`, `Json.Syntax` — strings, numbers and documents as written.
* `Json.Syntax.read` — reads a whole document.
* `Json.text?` — the text that a string denotes.

## Implementation notes

The reader works on bytes, because the bytes inside a string that nobody uses need not be UTF-8. It
is by recursion on a bound that grows with the length of the input: each value takes at least one
byte, so the bound is never what stops it.
-/

namespace ClusterDeploy.Json

/-- A part of a string: a byte that stands for itself, or a number written in hexadecimal. -/
inductive Piece where
  | byte (b : UInt8)
  | unit (u : Nat)
  deriving DecidableEq, Repr

/-- A number as written. -/
structure Numeral where
  negative : Bool
  whole : List Char
  fraction : List Char
  /-- The sign of the exponent (true for minus) and its digits. -/
  exponent : Option (Bool × List Char)
  deriving DecidableEq, Repr

/-- A document as written. -/
inductive Syntax where
  | null
  | bool (b : Bool)
  | number (n : Numeral)
  | string (s : List Piece)
  | array (items : List Syntax)
  | object (members : List (List Piece × Syntax))
  deriving Repr, Inhabited

/-! ## Bytes -/

/-- The byte of an ASCII character. -/
def ascii (c : Char) : UInt8 :=
  UInt8.ofNat c.toNat

/-- The bytes that may stand between the parts of a document. -/
def isSpace (b : UInt8) : Bool :=
  b == 0x20 || b == 0x0A || b == 0x0D || b == 0x09

/-- Drops the space at the start of the input. -/
def skipSpace (s : Bytes) : Bytes :=
  s.dropWhile isSpace

/-- Whether a byte is an ASCII digit. -/
def isDigit (b : UInt8) : Bool :=
  ascii '0' ≤ b && b ≤ ascii '9'

/-- The digits at the start of the input. -/
def digits (s : Bytes) : List Char :=
  (s.takeWhile isDigit).map fun b => Char.ofNat b.toNat

/-- The value of a hexadecimal digit of either case. -/
def hexValue (b : UInt8) : Option Nat :=
  if isDigit b then some (b.toNat - '0'.toNat)
  else if ascii 'a' ≤ b && b ≤ ascii 'f' then some (b.toNat - 'a'.toNat + 10)
  else if ascii 'A' ≤ b && b ≤ ascii 'F' then some (b.toNat - 'A'.toNat + 10)
  else none

/-- The byte that a letter after a backslash stands for. -/
def escapeByte (b : UInt8) : Option UInt8 :=
  if b == ascii '"' || b == ascii '\\' || b == ascii '/' then some b
  else if b == ascii 'b' then some 0x08
  else if b == ascii 'f' then some 0x0C
  else if b == ascii 'n' then some 0x0A
  else if b == ascii 'r' then some 0x0D
  else if b == ascii 't' then some 0x09
  else none

/-! ## Strings and numbers -/

/-- Reads the rest of a string after its opening quote. -/
def readString : Bytes → Option (List Piece × Bytes)
  | [] => none
  | b :: rest =>
    if b == ascii '"' then some ([], rest)
    else if b == ascii '\\' then
      match rest with
      | [] => none
      | e :: more =>
        if e == ascii 'u' then
          match more with
          | h1 :: h2 :: h3 :: h4 :: tail => do
            let d1 ← hexValue h1
            let d2 ← hexValue h2
            let d3 ← hexValue h3
            let d4 ← hexValue h4
            let (pieces, after) ← readString tail
            return (.unit (((d1 * 16 + d2) * 16 + d3) * 16 + d4) :: pieces, after)
          | _ => none
        else do
          let c ← escapeByte e
          let (pieces, after) ← readString more
          return (.byte c :: pieces, after)
    else if b < 0x20 then none
    else do
      let (pieces, after) ← readString rest
      return (.byte b :: pieces, after)

/-- Reads the part of a number after its point, if there is one. -/
def readFraction (s : Bytes) : Option (List Char × Bytes) :=
  match s with
  | b :: rest =>
    if b == ascii '.' then
      if (digits rest).isEmpty then none
      else some (digits rest, rest.dropWhile isDigit)
    else some ([], s)
  | [] => some ([], s)

/-- Reads the exponent of a number, if there is one. -/
def readExponent (s : Bytes) : Option (Option (Bool × List Char) × Bytes) :=
  match s with
  | b :: rest =>
    if b == ascii 'e' || b == ascii 'E' then
      let signed := match rest with
        | c :: more =>
          if c == ascii '-' then (true, more)
          else if c == ascii '+' then (false, more)
          else (false, rest)
        | [] => (false, rest)
      if (digits signed.2).isEmpty then none
      else some (some (signed.1, digits signed.2), signed.2.dropWhile isDigit)
    else some (none, s)
  | [] => some (none, s)

/-- Reads a number. Its whole part has no leading zero. -/
def readNumeral (s : Bytes) : Option (Numeral × Bytes) :=
  let (negative, unsigned) := match s with
    | b :: rest => if b == ascii '-' then (true, rest) else (false, s)
    | [] => (false, s)
  let whole := match digits unsigned with
    | '0' :: _ => ['0']
    | ds => ds
  if whole.isEmpty then none
  else do
    let (fraction, afterFraction) ← readFraction (unsigned.drop whole.length)
    let (exponent, after) ← readExponent afterFraction
    return (⟨negative, whole, fraction, exponent⟩, after)

/-- Drops a given word at the start of the input. -/
def dropWord : List Char → Bytes → Option Bytes
  | [], s => some s
  | _ :: _, [] => none
  | c :: word, b :: s => if b == ascii c then dropWord word s else none

/-! ## Documents -/

mutual

/-- Reads one value. -/
def readValue : Nat → Bytes → Option (Syntax × Bytes)
  | 0, _ => none
  | bound + 1, s =>
    match skipSpace s with
    | [] => none
    | b :: rest =>
      if b == ascii '"' then (readString rest).map fun (pieces, after) => (.string pieces, after)
      else if b == ascii '[' then
        match skipSpace rest with
        | c :: after =>
          if c == ascii ']' then some (.array [], after)
          else (readItems bound rest).map fun (items, after) => (.array items, after)
        | [] => none
      else if b == ascii '\x7b' then
        match skipSpace rest with
        | c :: after =>
          if c == ascii '\x7d' then some (.object [], after)
          else (readMembers bound rest).map fun (members, after) => (.object members, after)
        | [] => none
      else if b == ascii 'n' then (dropWord ['u', 'l', 'l'] rest).map fun after => (.null, after)
      else if b == ascii 't' then
        (dropWord ['r', 'u', 'e'] rest).map fun after => (.bool true, after)
      else if b == ascii 'f' then
        (dropWord ['a', 'l', 's', 'e'] rest).map fun after => (.bool false, after)
      else (readNumeral (b :: rest)).map fun (n, after) => (.number n, after)

/-- Reads the items of an array, at least one, up to the closing bracket. -/
def readItems : Nat → Bytes → Option (List Syntax × Bytes)
  | 0, _ => none
  | bound + 1, s => do
    let (item, afterItem) ← readValue bound s
    match skipSpace afterItem with
    | c :: after =>
      if c == ascii ']' then some ([item], after)
      else if c == ascii ',' then
        (readItems bound after).map fun (items, rest) => (item :: items, rest)
      else none
    | [] => none

/-- Reads the members of an object, at least one, up to the closing brace. -/
def readMembers : Nat → Bytes → Option (List (List Piece × Syntax) × Bytes)
  | 0, _ => none
  | bound + 1, s =>
    match skipSpace s with
    | q :: afterQuote =>
      if q == ascii '"' then do
        let (key, afterKey) ← readString afterQuote
        match skipSpace afterKey with
        | colon :: afterColon =>
          if colon == ascii ':' then do
            let (value, afterValue) ← readValue bound afterColon
            match skipSpace afterValue with
            | c :: after =>
              if c == ascii '\x7d' then some ([(key, value)], after)
              else if c == ascii ',' then
                (readMembers bound after).map fun (members, rest) => ((key, value) :: members, rest)
              else none
            | [] => none
          else none
        | [] => none
      else none
    | [] => none

end

/-- Reads a whole document. -/
def Syntax.read (s : Bytes) : Option Syntax :=
  match readValue (2 * s.length + 2) s with
  | some (value, rest) => if (skipSpace rest).isEmpty then some value else none
  | none => none

/-! ## The text of a string -/

/-- The bytes that a string denotes. A number in the first surrogate range has to be followed by one
in the second, and the two stand for one character. -/
def stringBytes : List Piece → Option Bytes
  | [] => some []
  | .byte b :: rest => (stringBytes rest).map (b :: ·)
  | .unit u :: rest =>
    if u < 0xD800 ∨ 0xDFFF < u then
      (stringBytes rest).map (String.utf8EncodeChar (Char.ofNat u) ++ ·)
    else if 0xDC00 ≤ u then none
    else match rest with
      | .unit v :: more =>
        if 0xDC00 ≤ v ∧ v ≤ 0xDFFF then
          (stringBytes more).map
            (String.utf8EncodeChar (Char.ofNat ((u - 0xD800) * 1024 + (v - 0xDC00) + 0x10000)) ++ ·)
        else none
      | _ => none

/-- The text that a string denotes, if it denotes one. -/
def text? (s : List Piece) : Option String :=
  (stringBytes s).bind Utf8.decode?

end ClusterDeploy.Json
