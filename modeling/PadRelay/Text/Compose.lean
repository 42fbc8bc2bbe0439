import PadRelay.Text.ComposeData
import PadRelay.Text.Table

/-!
# PadRelay.Text.Compose

The composed normal form of text: letters and marks that have a character of their own together
are that character, and marks that do not touch each other stand in a fixed order.

* `decompose`: every composed character taken apart, to the end.
* `reorder`: runs of marks sorted by combining class, marks of one class keeping their order.
* `composed`: taken apart, sorted, and put together again.
-/

namespace PadRelay
namespace Text

def compositions : List Run := readRuns compositionText

def combining : List Run := readRuns combiningText

/-- The combining class of a character: zero for all but some marks. -/
def combiningClass (n : Nat) : Nat :=
  match combining.find? (·.covers n) with
  | some r => r.values.headD 0
  | none => 0

def firstSyllable : Nat := 0xAC00

def syllableCount : Nat := 11172

/-- The letters of a syllable: a leading one, a vowel, and perhaps a trailing one. -/
def syllableLetters (n : Nat) : List Nat :=
  let i := n - firstSyllable
  let trailing := i % 28
  [0x1100 + i / 588, 0x1161 + i % 588 / 28] ++ (if trailing = 0 then [] else [0x11A7 + trailing])

/-- A character taken apart, its first part again up to `depth` times. -/
def decomposeChar : Nat → Nat → List Nat
  | 0, n => [n]
  | depth + 1, n =>
    if firstSyllable ≤ n ∧ n < firstSyllable + syllableCount then syllableLetters n
    else
      match compositions.find? (·.covers n) with
      | some ⟨_, _, _, first :: rest⟩ => decomposeChar depth first ++ rest
      | _ => [n]

/-- A text taken apart. No character has more than four layers. -/
def decompose (ns : List Nat) : List Nat := ns.flatMap (decomposeChar 4)

/-- Puts a mark into its place among the characters before it, the nearest first. -/
def placeMark (n cls : Nat) : List Nat → List Nat
  | [] => [n]
  | m :: rest => if cls < combiningClass m then m :: placeMark n cls rest else n :: m :: rest

/-- A text with its runs of marks sorted, behind the text `done`, reversed. -/
def reorderFrom (done : List Nat) : List Nat → List Nat
  | [] => done.reverse
  | n :: rest =>
    let cls := combiningClass n
    reorderFrom (if cls = 0 then n :: done else placeMark n cls done) rest

/-- A text with its runs of marks sorted. -/
def reorder (ns : List Nat) : List Nat := reorderFrom [] ns

/-- The character that two characters are composed to. -/
def compose? (a b : Nat) : Option Nat :=
  if 0x1100 ≤ a ∧ a < 0x1113 ∧ 0x1161 ≤ b ∧ b < 0x1176 then
    some (firstSyllable + ((a - 0x1100) * 21 + (b - 0x1161)) * 28)
  else if firstSyllable ≤ a ∧ a < firstSyllable + syllableCount ∧ (a - firstSyllable) % 28 = 0 ∧
      0x11A8 ≤ b ∧ b < 0x11C3 then
    some (a + (b - 0x11A7))
  else (compositions.find? (·.values == [a, b])).map (·.first)

/-- A text put together. `starter` is the last character of class zero, and `marks` are the
characters behind it, reversed, that could not be put to it. A mark behind one of the same class
or a higher one is out of the starter's reach. -/
def composeFrom (done : List Nat) (starter : Nat) (marks : List Nat) : List Nat → List Nat
  | [] => done.reverse ++ starter :: marks.reverse
  | n :: rest =>
    let cls := combiningClass n
    let reached := match marks with
      | [] => true
      | m :: _ => combiningClass m < cls
    match if reached then compose? starter n else none with
    | some c => composeFrom done c marks rest
    | none =>
      if cls = 0 then composeFrom (marks ++ starter :: done) n [] rest
      else composeFrom done starter (n :: marks) rest

/-- A text from its first starter on put together, the marks before that left alone. -/
def composeAll (ns : List Nat) : List Nat :=
  let marks := ns.takeWhile (combiningClass · != 0)
  match ns.dropWhile (combiningClass · != 0) with
  | [] => marks
  | n :: rest => marks ++ composeFrom [] n [] rest

/-- The composed normal form. Below the first mark there is nothing to compose. -/
def composed (ns : List Nat) : List Nat :=
  if ns.all (· < 0x300) then ns else composeAll (reorder (decompose ns))

end Text
end PadRelay
