import PadRelay.Domain.LabelData
import PadRelay.Text.Table

/-!
# PadRelay.Domain.Direction

Which way the characters of a label are written, and the rule that keeps a label with letters from
right to left readable next to others.

* `Direction.ofCode`: the direction of a character.
* `bidirectional`: whether a label has anything that is written from right to left.
* `keepsDirection`: the rule itself.
-/

namespace PadRelay
namespace Domain

/-- The direction of a character, as far as labels look at it. -/
inductive Direction where
  | leftToRight
  | rightToLeft
  | arabicLetter
  | arabicNumber
  | europeanNumber
  | numberSeparator
  | numberTerminator
  | neutral
  | boundary
  | nonspacing
  | separator
  deriving DecidableEq, Repr

/-- The characters of each direction but the first. -/
def directionRuns : List (Direction × List Text.Run) :=
  [(.rightToLeft, Text.readRuns rightToLeftText),
    (.arabicLetter, Text.readRuns arabicLetterText),
    (.arabicNumber, Text.readRuns arabicNumberText),
    (.europeanNumber, Text.readRuns europeanNumberText),
    (.numberSeparator, Text.readRuns numberSeparatorText),
    (.numberTerminator, Text.readRuns numberTerminatorText),
    (.neutral, Text.readRuns neutralText),
    (.boundary, Text.readRuns boundaryText),
    (.nonspacing, Text.readRuns nonspacingText),
    (.separator, Text.readRuns separatorText)]

namespace Direction

def ofCode (n : Nat) : Direction :=
  match directionRuns.find? fun x => Text.inRuns x.2 n with
  | some (d, _) => d
  | none => .leftToRight

/-- Whether a character makes its name one of both directions. -/
def turns : Direction → Bool
  | .rightToLeft | .arabicLetter | .arabicNumber => true
  | _ => false

/-- Whether a label may start so and is then written from right to left. -/
def startsRight : Direction → Bool
  | .rightToLeft | .arabicLetter => true
  | _ => false

/-- What may stand in a label of either direction. -/
def fitsBoth : Direction → Bool
  | .europeanNumber | .numberSeparator | .numberTerminator | .neutral | .boundary
  | .nonspacing => true
  | _ => false

/-- What may stand in a label written from right to left. -/
def fitsRight (d : Direction) : Bool := d.turns || d.fitsBoth

def fitsLeft (d : Direction) : Bool := d == .leftToRight || d.fitsBoth

/-- What may end a label written from right to left. -/
def endsRight (d : Direction) : Bool := d.turns || d == .europeanNumber

def endsLeft (d : Direction) : Bool := d == .leftToRight || d == .europeanNumber

end Direction

/-- Whether a label has anything that is written from right to left. -/
def bidirectional (label : List Nat) : Bool := label.any fun n => (Direction.ofCode n).turns

/-- The last direction that is not that of a mark without space. -/
def lastDirection? (ds : List Direction) : Option Direction :=
  (ds.reverse.dropWhile (· == .nonspacing)).head?

/-- Whether directions may stand together in a label of a name of both directions: all fit the
first, the last one ends a label of its kind, and European and Arabic digits do not meet. -/
def directionsFit : List Direction → Bool
  | [] => true
  | d :: ds =>
    if d.startsRight then
      ds.all Direction.fitsRight && ((lastDirection? (d :: ds)).map Direction.endsRight).getD false &&
        !(ds.contains .europeanNumber && ds.contains .arabicNumber)
    else if d = .leftToRight then
      ds.all Direction.fitsLeft && ((lastDirection? (d :: ds)).map Direction.endsLeft).getD false
    else false

/-- Whether a label of a name of both directions keeps its direction. -/
def keepsDirection (label : List Nat) : Bool := directionsFit (label.map Direction.ofCode)

end Domain
end PadRelay
