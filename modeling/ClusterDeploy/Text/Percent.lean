import ClusterDeploy.Text.Numeral
import ClusterDeploy.Text.Utf8

/-!
# Escaped bytes

Bytes of a text that are written as a percent sign and two hexadecimal digits.

## Main definitions

* `Text.escapeByte`, `Text.escape` — a byte, and the bytes of a character, in this form.
* `Text.unescape` — the bytes of a text in which some are in this form.
-/

namespace ClusterDeploy.Text

/-- A byte as a percent sign and two digits, of which letters are capital. -/
def escapeByte (b : UInt8) : List Char :=
  ['%', (hexDigit (b.toNat / 16)).toUpper, (hexDigit (b.toNat % 16)).toUpper]

/-- The bytes of a character, each as a percent sign and two digits. -/
def escape (c : Char) : List Char :=
  (String.utf8EncodeChar c).flatMap escapeByte

/-- The bytes of a text in which a percent sign and two digits stand for a byte. A percent sign
without two digits behind it stands for itself. -/
def unescape : List Char → Bytes
  | '%' :: high :: low :: rest =>
    match readInBase 16 [high, low] with
    | some n => UInt8.ofNat n :: unescape rest
    | none => String.utf8EncodeChar '%' ++ unescape (high :: low :: rest)
  | c :: rest => String.utf8EncodeChar c ++ unescape rest
  | [] => []

end ClusterDeploy.Text
