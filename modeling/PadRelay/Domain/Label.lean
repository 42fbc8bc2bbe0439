import PadRelay.Domain.Direction
import PadRelay.Domain.Mapping
import PadRelay.Domain.Punycode

/-!
# PadRelay.Domain.Label

The labels of a domain name: what stands between its dots.

* `Label.read?`: the characters of a label, the coded ones decoded; none for a label that is coded
  in a way in which no label is written.
* `Label.isSound`: whether marks and joiners stand where they may.
* `Label.write?`: a label in ASCII.
-/

namespace PadRelay
namespace Domain
namespace Label

def codedStart : List Nat := "xn--".toList.map Char.toNat

def maxCode : Nat := 2000

def maxCoded : Nat := 1000

/-- Whether the characters are those of a coded label: not all of ASCII, each as it may stand in a
name, in composed normal form, and not looking coded themselves. -/
def isDecoded (ns : List Nat) : Bool :=
  !ns.all isAscii && ns.all isValid && Text.composed ns == ns && !codedStart.isPrefixOf ns

def read? (label : List Nat) : Option (List Nat) :=
  if codedStart.isPrefixOf label then
    let code := label.drop codedStart.length
    if label.all isAscii && code.length ≤ maxCode then
      (Punycode.decode (code.map Char.ofNat)).filter isDecoded
    else none
  else some label

def markRuns : List Text.Run := Text.readRuns markText

def viramaRuns : List Text.Run := Text.readRuns viramaText

/-- Letters that join the next one. -/
def joiningNextRuns : List Text.Run :=
  Text.readRuns joiningLeftText ++ Text.readRuns joiningBothText

/-- Letters that join the one before. -/
def joiningBeforeRuns : List Text.Run :=
  Text.readRuns joiningRightText ++ Text.readRuns joiningBothText

def transparentRuns : List Text.Run := Text.readRuns transparentText

/-- Whether a virama comes last. `before` is reversed. -/
def followsVirama (before : List Nat) : Bool :=
  match before with
  | n :: _ => Text.inRuns viramaRuns n
  | [] => false

/-- Whether the first character that a join does not pass over is in the table. -/
def meets (runs : List Text.Run) (ns : List Nat) : Bool :=
  match ns.dropWhile (Text.inRuns transparentRuns) with
  | n :: _ => Text.inRuns runs n
  | [] => false

/-- Whether a character may stand between `before`, reversed, and `after`: a joiner only behind a
virama, and one that keeps letters apart also where they would join. -/
def mayStand (before : List Nat) (n : Nat) (after : List Nat) : Bool :=
  if n = 0x200D then followsVirama before
  else if n = 0x200C then
    followsVirama before || (meets joiningNextRuns before && meets joiningBeforeRuns after)
  else true

/-- Whether the characters behind `before`, reversed, stand where they may. -/
def joinersStand (before : List Nat) : List Nat → Bool
  | [] => true
  | n :: after => mayStand before n after && joinersStand (n :: before) after

/-- Whether marks and joiners stand where they may. -/
def isSound (label : List Nat) : Bool :=
  label.all isAscii || (!((label.head?.map (Text.inRuns markRuns)).getD false) &&
    joinersStand [] label)

/-- A label in ASCII, coded if need be. -/
def write? (label : List Nat) : Option (List Char) :=
  if label.all isAscii then some (label.map Char.ofNat)
  else if label.length ≤ maxCoded then
    some ("xn--".toList ++ Punycode.encode label)
  else none

end Label
end Domain
end PadRelay
