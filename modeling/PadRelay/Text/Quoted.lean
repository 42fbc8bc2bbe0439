import PadRelay.Text.Case
import PadRelay.Text.Hex
import PadRelay.Text.VisibleData

/-!
# PadRelay.Text.Quoted

A text quoted for a message: what has no glyph of its own is written as an escape.

* `quoted`: the text between double quotes, each character as `quotedChar` writes it.
-/

namespace PadRelay
namespace Text

/-- Characters that a quoted text shows as they are. -/
def isVisible (c : Char) : Bool :=
  let n := c.toNat
  if n < 0x7F then 0x20 ≤ n else inRanges visibleRanges n

def quotedChar (c : Char) : List Char :=
  if c = '"' then ['\\', '"']
  else if c = '\\' then ['\\', '\\']
  else if c = '\n' then ['\\', 'n']
  else if c = '\r' then ['\\', 'r']
  else if c = '\t' then ['\\', 't']
  else if c.toNat = 0 then ['\\', '0']
  else if isVisible c then [c]
  else ['\\', 'u', '\x7b'] ++ hexDigits c.toNat ++ ['\x7d']

/-- The text between double quotes, with escapes for what would not show. -/
def quoted (s : String) : String :=
  String.ofList ('"' :: s.toList.flatMap quotedChar ++ ['"'])

end Text
end PadRelay
