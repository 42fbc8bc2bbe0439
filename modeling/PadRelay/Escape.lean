import PadRelay.Json.Text
import PadRelay.Text.Percent

/-!
# PadRelay.Escape

How substituted values are made fit for the text around them.

* `Escape.char`: what one character becomes.
* `Escape.apply`: what a text becomes, character by character.
-/

namespace PadRelay

/-- The kind of text that a value is put into. -/
inductive Escape where
  | none
  | xml
  | url
  | json
  deriving DecidableEq, Repr

namespace Escape

/-- A character of markup: the five characters with a meaning become entities. -/
def xmlChar (c : Char) : List Char :=
  if c = '&' then "&amp;".toList
  else if c = '<' then "&lt;".toList
  else if c = '>' then "&gt;".toList
  else if c = '"' then "&quot;".toList
  else if c = '\'' then "&apos;".toList
  else [c]

/-- Bytes that a URL path shows as they are: letters, digits, `-`, `_`, `.`, `~` and `/`. -/
def isPathByte (b : UInt8) : Bool :=
  let n := b.toNat
  (65 ≤ n && n ≤ 90) || (97 ≤ n && n ≤ 122) || (48 ≤ n && n ≤ 57) || n == 45 || n == 95 ||
    n == 46 || n == 126 || n == 47

/-- A character in a URL: its UTF-8 bytes, each as it is or as a percent sign and two digits. -/
def urlChar (c : Char) : List Char := Text.percentChar isPathByte c

def char : Escape → Char → List Char
  | .none, c => [c]
  | .xml, c => xmlChar c
  | .url, c => urlChar c
  | .json, c => Json.escapeChar c

def apply (e : Escape) (value : String) : String := String.ofList (value.toList.flatMap e.char)

end Escape
end PadRelay
