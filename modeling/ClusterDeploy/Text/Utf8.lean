/-!
# UTF-8

The bytes of a text, and the reading of bytes that may or may not be a text.

## Main definitions

* `Bytes` — contents of files, payloads and bodies.
* `Utf8.encode` — the bytes of a text.
* `Utf8.decode?` — the text of well-formed bytes, and nothing for all others.
* `Utf8.decodeLossy` — the text of any bytes: each maximal ill-formed part reads as U+FFFD.

## Implementation notes

`Utf8.step` reads one character. Its table is the one of well-formed byte sequences: the second byte
has a narrower range after `E0`, `ED`, `F0` and `F4`, which keeps out overlong forms, surrogates and
numbers above U+10FFFF. An ill-formed sequence ends before the first byte that cannot continue it.
-/

namespace ClusterDeploy

/-- Contents of files, payloads and bodies. -/
abbrev Bytes := List UInt8

namespace Utf8

/-- The bytes of a text. -/
def encode (s : String) : Bytes :=
  s.toList.flatMap String.utf8EncodeChar

/-- The six low bits that a continuation byte carries. -/
def payload (b : UInt8) : Nat :=
  b.toNat % 64

/-- Reads the character that starts with the byte `a`: the character, or nothing if the sequence is
ill-formed, and how many bytes of the rest belong to it. -/
def step (a : UInt8) (rest : Bytes) : Option Char × Nat :=
  let within (lo hi b : UInt8) : Bool := lo ≤ b && b ≤ hi
  let tail (b : UInt8) : Bool := within 0x80 0xBF b
  if a < 0x80 then (some (Char.ofNat a.toNat), 0)
  else if within 0xC2 0xDF a then
    match rest with
    | b :: _ =>
      if tail b then (some (Char.ofNat ((a.toNat - 0xC0) * 64 + payload b)), 1) else (none, 0)
    | [] => (none, 0)
  else if within 0xE0 0xEF a then
    let lo : UInt8 := if a == 0xE0 then 0xA0 else 0x80
    let hi : UInt8 := if a == 0xED then 0x9F else 0xBF
    match rest with
    | b :: c :: _ =>
      if !within lo hi b then (none, 0)
      else if tail c then
        (some (Char.ofNat (((a.toNat - 0xE0) * 64 + payload b) * 64 + payload c)), 2)
      else (none, 1)
    | [b] => (none, if within lo hi b then 1 else 0)
    | [] => (none, 0)
  else if within 0xF0 0xF4 a then
    let lo : UInt8 := if a == 0xF0 then 0x90 else 0x80
    let hi : UInt8 := if a == 0xF4 then 0x8F else 0xBF
    match rest with
    | b :: c :: d :: _ =>
      if !within lo hi b then (none, 0)
      else if !tail c then (none, 1)
      else if tail d then
        (some (Char.ofNat
          ((((a.toNat - 0xF0) * 64 + payload b) * 64 + payload c) * 64 + payload d)), 3)
      else (none, 2)
    | [b, c] => (none, if within lo hi b then (if tail c then 2 else 1) else 0)
    | [b] => (none, if within lo hi b then 1 else 0)
    | [] => (none, 0)
  else (none, 0)

/-- The characters of the bytes, with nothing in the place of each ill-formed sequence. -/
def characters : Bytes → List (Option Char)
  | [] => []
  | a :: rest =>
    let read := step a rest
    read.1 :: characters (rest.drop read.2)
termination_by s => s.length
decreasing_by
  simp only [List.length_drop, List.length_cons]
  omega

/-- The text of the bytes, with U+FFFD in the place of each ill-formed sequence. -/
def decodeLossy (s : Bytes) : String :=
  String.ofList ((characters s).map (·.getD (Char.ofNat 0xFFFD)))

/-- The text of the bytes, if they are well-formed. -/
def decode? (s : Bytes) : Option String :=
  ((characters s).mapM id).map String.ofList

end Utf8

end ClusterDeploy
