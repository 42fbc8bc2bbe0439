import PadRelay.Domain.Label

/-!
# PadRelay.Domain.Name

Domain names as a network takes them: in ASCII and small letters.

* `Name.toAscii?`: the name that a text stands for; none where a label does not hold what a label
  may, or where a character remains that no name has.
-/

namespace PadRelay
namespace Domain
namespace Name

/-- Characters that no name has: controls, the space, the percent sign, and what separates the
parts of an address. -/
def isForbidden (c : Char) : Bool :=
  c.toNat ≤ 0x20 || c.toNat = 0x7F || "#/:<>?@[\\]^|%".toList.contains c

/-- The labels of a name: what stands between its dots. -/
def labels (ns : List Nat) : List (List Nat) := Text.splitAt '.'.toNat ns

def join (labels : List (List Char)) : List Char := List.intercalate ['.'] labels

/-- A mapped name whose labels are all read, checked and written. -/
def write? (ns : List Nat) : Option (List Char) := do
  let labels ← (labels ns).mapM Label.read?
  if labels.all Label.isSound && (!labels.any bidirectional || labels.all keepsDirection) then
    return join (← labels.mapM Label.write?)
  else none

/-- Whether a name is of ASCII, in small letters and without coded labels, so that it is written
as it is. -/
def isPlain (ns : List Nat) : Bool :=
  ns.all isAscii && (labels ns).all fun label => !Label.codedStart.isPrefixOf label

/-- The name that a text stands for. -/
def toAscii? (text : List Char) : Option (List Char) :=
  let ns := text.map Char.toNat
  let lowered := ns.map asciiLower
  let name := if isPlain lowered then some (lowered.map Char.ofNat) else (mapped ns).bind write?
  name.filter fun cs => cs.all (!isForbidden ·)

end Name
end Domain
end PadRelay
