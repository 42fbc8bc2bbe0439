/-!
# PadRelay.Text.Integer

Whole numbers in decimal: ASCII digits, leading zeros allowed, behind an optional sign.

* `digitsValue?`: the number that a run of digits denotes, nothing for any other text.
* `signed?`: a number with an optional sign.
* `int64?`: the same, where it fits 64 bits with sign.
-/

namespace PadRelay
namespace Text

def isDigit (c : Char) : Bool := '0' ≤ c && c ≤ '9'

def digitsValue (cs : List Char) : Nat :=
  cs.foldl (fun n c => 10 * n + (c.toNat - 48)) 0

/-- The number that a text of one or more digits denotes. -/
def digitsValue? (cs : List Char) : Option Nat :=
  if cs.isEmpty then none
  else if cs.all isDigit then some (digitsValue cs)
  else none

/-- The number that digits behind an optional sign denote. -/
def signed? : List Char → Option Int
  | '+' :: cs => (digitsValue? cs).map Int.ofNat
  | '-' :: cs => (digitsValue? cs).map fun n => -Int.ofNat n
  | cs => (digitsValue? cs).map Int.ofNat

/-- A signed number of 64 bits; one out of range is no number. -/
def int64? (cs : List Char) : Option Int :=
  match signed? cs with
  | some n => if Int64.minValue.toInt ≤ n && n ≤ Int64.maxValue.toInt then some n else none
  | none => none

end Text
end PadRelay
