import PadRelay.Domain.MappingData
import PadRelay.Text.Compose

/-!
# PadRelay.Domain.Mapping

What domain names make of text before they are cut into labels: characters that mean the same
become one, such as capitals and small letters.

* `isValid`: whether a character may stand in a name.
* `mapChar`: the characters that one stands for; none for one that no name can hold.
* `mapped`: a whole text, in composed normal form.
-/

namespace PadRelay
namespace Domain

def validRuns : List Text.Run := Text.readRuns validText

def ignoredRuns : List Text.Run := Text.readRuns ignoredText

def mappedRuns : List Text.Run := Text.readRuns mappedText

def isAscii (n : Nat) : Bool := n < 0x80

def asciiLower (n : Nat) : Nat := if 65 ≤ n ∧ n ≤ 90 then n + 32 else n

def isValid (n : Nat) : Bool := if isAscii n then asciiLower n = n else Text.inRuns validRuns n

/-- The characters that a character stands for. -/
def mapChar (n : Nat) : Option (List Nat) :=
  if isAscii n then some [asciiLower n]
  else if Text.inRuns validRuns n then some [n]
  else if Text.inRuns ignoredRuns n then some []
  else Text.image? mappedRuns n

def mapped (ns : List Nat) : Option (List Nat) :=
  (ns.mapM mapChar).map fun parts => Text.composed parts.flatten

end Domain
end PadRelay
