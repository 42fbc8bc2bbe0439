import PadRelay.Text.Hex
import PadRelay.Text.Split

/-!
# PadRelay.Text.Table

Tables of code points as lines of text. An entry is a code point, or a first and a last one with a
dash between them; behind a slash stands the step from one to the next, else it is one. Behind a
greater-than sign stand the values of the first code point; the values of the others are shifted
along with them. All numbers are hexadecimal, and blanks separate the entries.

* `readRuns`: the entries of a table.
* `inRuns`, `image?`: whether a code point is in a table, and its values there.
-/

namespace PadRelay
namespace Text

/-- The code points `first`, `first + step`, … up to `last`, with the values of the first. -/
structure Run where
  first : Nat
  last : Nat
  step : Nat
  values : List Nat
  deriving DecidableEq, Repr

def Run.covers (r : Run) (n : Nat) : Bool :=
  r.first ≤ n && n ≤ r.last && (n - r.first) % r.step == 0

/-- The number that hexadecimal digits denote. -/
def tableNumber (cs : List Char) : Nat :=
  cs.foldl (fun n c => 16 * n + (hexValue? c.toNat).getD 0) 0

def Run.ofEntry (entry : List Char) : Run :=
  let (codes, values) := cutAt '>' entry
  let (ends, step) := cutAt '/' codes
  let (first, last) := cutAt '-' ends
  { first := tableNumber first
    last := tableNumber (last.getD first)
    step := (step.map tableNumber).getD 1
    values := match values with
      | some vs => (splitAt ',' vs).map tableNumber
      | none => [] }

/-- The runs of a table, given by its lines. -/
def readRuns (table : List String) : List Run :=
  table.flatMap fun line => (splitAt ' ' line.toList).map Run.ofEntry

def inRuns (runs : List Run) (n : Nat) : Bool := runs.any (·.covers n)

/-- The values of a code point in a table. -/
def image? (runs : List Run) (n : Nat) : Option (List Nat) :=
  (runs.find? (·.covers n)).map fun r => r.values.map (· + (n - r.first))

end Text
end PadRelay
