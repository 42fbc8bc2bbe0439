import PadRelay.Text.Hex
import PadRelay.Text.Utf8

/-!
# PadRelay.Text.Percent

Bytes written as a percent sign and two hexadecimal digits.

* `percentChar`: a character by its UTF-8 bytes, those that may be kept standing for themselves.
* `percentDecode`: bytes with every such triple replaced by the byte that it stands for.
-/

namespace PadRelay
namespace Text

/-- A byte as a percent sign and two digits. -/
def percentByte (b : UInt8) : List Char :=
  ['%', upperHexDigit (b.toNat / 16), upperHexDigit (b.toNat % 16)]

/-- A character by its UTF-8 bytes, those that `keep` accepts standing for themselves. -/
def percentChar (keep : UInt8 → Bool) (c : Char) : List Char :=
  (String.utf8EncodeChar c).flatMap fun b =>
    if keep b then [Char.ofNat b.toNat] else percentByte b

/-- The byte that a percent sign before these two characters stands for. -/
def percentValue? (a b : UInt8) : Option UInt8 :=
  match hexValue? a.toNat, hexValue? b.toNat with
  | some x, some y => some (UInt8.ofNat (16 * x + y))
  | _, _ => none

/-- Bytes with every percent sign and two digits replaced by the byte that they stand for. -/
def percentDecode : Bytes → Bytes
  | p :: a :: b :: rest =>
    if p.toNat = 37 then
      match percentValue? a b with
      | some value => value :: percentDecode rest
      | none => p :: percentDecode (a :: b :: rest)
    else p :: percentDecode (a :: b :: rest)
  | bytes => bytes

end Text
end PadRelay
