import ClusterDeploy.Text.Blank
import ClusterDeploy.Text.FileName
import ClusterDeploy.Text.Percent
import ClusterDeploy.Text.Punycode

/-!
# Hosts

The hosts of the network as URLs name them: by a name, or by an address of one of two kinds.

## Main definitions

* `Http.Host` — a name or an address.
* `Http.Host.parse` — reads a host as browsers do.
* `Http.Host.text` — the name or the address as a text.
* `Http.Server` — a host and the number under which it listens there.

## Implementation notes

An address in brackets has eight groups of hexadecimal digits, where two colons stand for the groups
that are left out, and four numbers with dots for the last two groups.

All other hosts are names at first: escaped bytes are decoded, and letters become small. A part of a
name that begins with `xn--` is encoded and has to mean something. A name whose last part is a
number has to be an address with dots: at most four numbers, each in base ten, in base eight after a
zero or in base sixteen after `0x`. All but the last are bytes, and the last fills the bytes that
are left.

Browsers map the characters of a name by tables of Unicode, of which only a part is here: ASCII,
letters that become small one by one, wide characters, digits of other shapes, and the common
characters that are ignored, forbidden or marks (`Host.isIgnored`, `Host.plain`, `Host.isForbidden`,
`Host.isMark`). Names are not normalized, and the rules for writing from right to left are left out.
So what is said here of a name with other characters than ASCII holds for these parts of the tables
only. Names of ASCII characters without encoded parts are read in full.
-/

namespace ClusterDeploy.Http

/-- A host of the network. -/
inductive Host where
  | name (text : String)
  /-- An address of four bytes. -/
  | v4 (address : UInt32)
  /-- An address of eight groups of two bytes. -/
  | v6 (groups : List UInt16)
  deriving DecidableEq, Repr, Inhabited

/-- A server: a host and the number under which it listens there. -/
structure Server where
  host : Host
  number : Nat
  deriving DecidableEq, Repr, Inhabited

/-- The number under which servers of web pages listen. -/
def usualNumber : Nat := 80

namespace Host

/-! ## Addresses with dots -/

/-- Reads a number in base ten, in base eight after a zero, or in base sixteen after `0x`. -/
def readPart (s : List Char) : Option Nat :=
  match s with
  | '0' :: mark :: digits =>
    if mark == 'x' || mark == 'X' then
      if digits.isEmpty then some 0 else Text.readInBase 16 digits
    else Text.readInBase 8 (mark :: digits)
  | _ => Text.readInBase 10 s

/-- The parts of a name. A dot at the end begins no part. -/
def parts (name : List Char) : List (List Char) :=
  let between := Text.splitAt '.' name
  if 1 < between.length && between.getLast? == some [] then between.dropLast else between

/-- Whether the last part of a name is a number. -/
def endsInNumber (name : List Char) : Bool :=
  (parts name).getLast?.any fun last =>
    (readPart last).isSome || (!last.isEmpty && last.all Char.isDigit)

/-- The address of some numbers: all but the last are bytes, and the last fills the bytes that are
left. -/
def addressOf (numbers : List Nat) : Option UInt32 :=
  let before := numbers.dropLast
  let room := Nat.pow 256 (4 - before.length)
  match numbers.getLast? with
  | some last =>
    if before.length < 4 && before.all (· < 256) && last < room then
      some (UInt32.ofNat (before.foldl (256 * · + ·) 0 * room + last))
    else none
  | none => none

/-- Reads an address with dots. -/
def readV4 (name : List Char) : Option UInt32 := do
  addressOf (← (parts name).mapM readPart)

/-! ## Addresses in brackets -/

/-- Reads a byte in base ten without zeros in front. -/
def readByte (s : List Char) : Option Nat :=
  if 1 < s.length && s.head? == some '0' then none else (Text.readNatural s).filter (· < 256)

/-- Reads a group of at most four digits. -/
def readGroup (s : List Char) : Option (List UInt16) :=
  if s.length ≤ 4 then (Text.readInBase 16 s).map fun n => [UInt16.ofNat n] else none

/-- Reads what can stand in the place of the last group: a group, or four numbers with dots, which
are two groups. -/
def readLastGroup (s : List Char) : Option (List UInt16) :=
  if s.contains '.' then
    match (Text.splitAt '.' s).mapM readByte with
    | some [a, b, c, d] => some [UInt16.ofNat (256 * a + b), UInt16.ofNat (256 * c + d)]
    | _ => none
  else readGroup s

/-- Reads groups with colons between them. -/
def readGroups (s : List Char) : Option (List UInt16) := do
  let between := Text.splitAt ':' s
  let before ← between.dropLast.mapM readGroup
  let last ← readLastGroup (between.getLast?.getD [])
  return before.flatten ++ last

/-- Reads groups with colons between them, or nothing. -/
def readSomeGroups (s : List Char) : Option (List UInt16) :=
  if s.isEmpty then some [] else readGroups s

/-- The text before and the text after the first two colons in a row. -/
def splitGap : List Char → Option (List Char × List Char)
  | ':' :: ':' :: rest => some ([], rest)
  | c :: rest => (splitGap rest).map fun (before, after) => (c :: before, after)
  | [] => none

/-- Reads an address without its brackets. -/
def readV6 (s : List Char) : Option (List UInt16) :=
  match splitGap s with
  | none => (readGroups s).filter (·.length = 8)
  | some (left, right) => do
    if left.contains '.' then none
    else
      let before ← readSomeGroups left
      let after ← readSomeGroups right
      let given := before.length + after.length
      if given < 8 then some (before ++ List.replicate (8 - given) 0 ++ after) else none

/-! ## Names -/

/-- Whether the number of a character lies in one of some ranges. -/
def liesIn (ranges : List (Nat × Nat)) (c : Char) : Bool :=
  ranges.any fun (first, last) => first ≤ c.toNat && c.toNat ≤ last

/-- Whether a character does not count in a name. -/
def isIgnored (c : Char) : Bool :=
  liesIn [(0xAD, 0xAD), (0x34F, 0x34F), (0x180B, 0x180D), (0x200B, 0x200B), (0x2060, 0x2060),
    (0x2064, 0x2064), (0xFE00, 0xFE0F), (0xFEFF, 0xFEFF), (0xE0100, 0xE01EF)] c

/-- The ASCII digit that a digit of another shape stands for. -/
def plainDigit (c : Char) : Option Char :=
  let digit (n : Nat) : Option Char := some (Text.hexDigit n)
  let n := c.toNat
  if n = 0xB2 ∨ n = 0xB3 then digit (n - 0xB0)
  else if n = 0xB9 then digit 1
  else if n = 0x2070 then digit 0
  else if 0x2074 ≤ n ∧ n ≤ 0x2079 then digit (n - 0x2070)
  else if 0x2080 ≤ n ∧ n ≤ 0x2089 then digit (n - 0x2080)
  else if 0x2460 ≤ n ∧ n ≤ 0x2468 then digit (n - 0x245F)
  else if n = 0x24EA then digit 0
  else if 0x1D7CE ≤ n ∧ n ≤ 0x1D7FF then digit ((n - 0x1D7CE) % 10)
  else if 0x1FBF0 ≤ n ∧ n ≤ 0x1FBF9 then digit (n - 0x1FBF0)
  else none

/-- The character that a character of a name stands for: letters are small, and the wide characters
and the digits of other shapes are ASCII characters. -/
def plain (c : Char) : Char :=
  if 0xFF01 ≤ c.toNat ∧ c.toNat ≤ 0xFF5E then (Char.ofNat (c.toNat - 0xFEE0)).toLower
  else if c.toNat = 0x3002 ∨ c.toNat = 0xFF61 then '.'
  else (plainDigit c).getD c.toLower

/-- Whether a character cannot be part of a name. -/
def isForbidden (c : Char) : Bool :=
  Text.isBlank c ||
    ['#', '%', '/', ':', '<', '>', '?', '@', '[', '\\', ']', '^', '|'].contains c ||
    liesIn [(0, 0x1F), (0x7F, 0x9F), (0x200C, 0x200F), (0x202A, 0x202E), (0x2061, 0x206F),
      (0x2FF0, 0x2FFF), (0xE000, 0xF8FF), (0xFDD0, 0xFDEF), (0xFFF0, 0xFFFF),
      (0xE0000, 0x10FFFF)] c

/-- Whether a character is a mark on the character before it. -/
def isMark (c : Char) : Bool :=
  liesIn [(0x300, 0x36F), (0x483, 0x489), (0x591, 0x5BD), (0x64B, 0x65F), (0x1AB0, 0x1AFF),
    (0x1DC0, 0x1DFF), (0x20D0, 0x20FF), (0xFE20, 0xFE2F)] c

/-- Whether a text can be a part of a name. -/
def isLabel (label : List Char) : Bool :=
  label.all (!isForbidden ·) && !label.head?.any isMark

/-- Whether a text can be a part of a name, where it may be encoded. What is meant by an encoded
part cannot be plain ASCII. -/
def isWrittenLabel (label : List Char) : Bool :=
  match label with
  | 'x' :: 'n' :: '-' :: '-' :: code =>
    !code.isEmpty && code.getLast? != some '-' && (Punycode.decode code).any fun meant =>
      isLabel meant && meant.all fun c => plain c == c && !isIgnored c
  | _ => isLabel label

/-- Reads a name, or an address with dots. -/
def readName (s : List Char) : Option Host := do
  let decoded ← Utf8.decode? (Text.unescape s)
  let name := (decoded.toList.filter (!isIgnored ·)).map plain
  if name.isEmpty || !(Text.splitAt '.' name).all isWrittenLabel then none
  else if endsInNumber name then (readV4 name).map .v4
  else some (.name (String.ofList name))

/-! ## Reading and writing -/

/-- Reads a host. -/
def parse (s : List Char) : Option Host :=
  match s with
  | '[' :: rest =>
    if rest.getLast? == some ']' then (readV6 rest.dropLast).map .v6 else none
  | _ => readName s

/-- The digits of a group. -/
def groupText (group : UInt16) : String :=
  String.ofList (Nat.toDigits 16 group.toNat)

/-- The name or the address as a text. -/
def text : Host → String
  | .name text => text
  | .v4 address =>
    let bytes := [16777216, 65536, 256, 1].map fun weight => address.toNat / weight % 256
    ".".intercalate (bytes.map fun byte => String.ofList (Text.decimal byte))
  | .v6 groups => ":".intercalate (groups.map groupText)

end Host

end ClusterDeploy.Http
