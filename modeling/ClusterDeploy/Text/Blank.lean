/-!
# Blank characters

White space as Unicode defines it, and the removal of white space at the two ends of a text.

## Main definitions

* `Text.isBlank` — the White_Space property of Unicode.
* `Text.trim` — a text without the blanks at its ends.

## Implementation notes

The zero width space, the byte order mark and the information separators are not white space.
Functions that read text work on lists of characters, on which recursion is structural.
-/

namespace ClusterDeploy.Text

/-- Holds of exactly the characters with the Unicode property White_Space. -/
def isBlank (c : Char) : Bool :=
  let n := c.toNat
  (9 ≤ n && n ≤ 13) || n == 0x20 || n == 0x85 || n == 0xA0 || n == 0x1680 ||
    (0x2000 ≤ n && n ≤ 0x200A) || n == 0x2028 || n == 0x2029 || n == 0x202F || n == 0x205F ||
    n == 0x3000

/-- Removes the blanks at the start of a text. -/
def trimStart (s : List Char) : List Char :=
  s.dropWhile isBlank

/-- Removes the blanks at the end of a text. -/
def trimEnd (s : List Char) : List Char :=
  (s.reverse.dropWhile isBlank).reverse

/-- Removes the blanks at both ends of a text. -/
def trim (s : List Char) : List Char :=
  trimEnd (trimStart s)

/-- Removes every occurrence of a character at the end of a text. -/
def dropTrailing (c : Char) (s : List Char) : List Char :=
  (s.reverse.dropWhile (· == c)).reverse

/-- A text whose case does not count: capital ASCII letters become small ones. -/
def foldCase (s : List Char) : List Char :=
  s.map Char.toLower

end ClusterDeploy.Text
