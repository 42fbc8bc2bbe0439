import PadRelay.Text.CaseData

/-!
# PadRelay.Text.Case

Lowercase text by Unicode's full mapping: every capital goes to its small letter, `İ` to an `i`
with a dot above, and a capital sigma to the final form at the end of a word.

* `lowercase`: the mapping on a whole text; only sigma looks at its surroundings.
* `isFinalSigma`: a cased letter stands before it and none after it, case-ignorable characters
  passed over on both sides.
-/

namespace PadRelay
namespace Text

def inRanges (ranges : List (Nat × Nat)) (n : Nat) : Bool :=
  ranges.any fun r => r.1 ≤ n && n ≤ r.2

/-- Letters that have a case. -/
def isCased (c : Char) : Bool := inRanges casedRanges c.toNat

/-- Characters that a search for a cased neighbour passes over. -/
def isCaseIgnorable (c : Char) : Bool := inRanges caseIgnorableRanges c.toNat

/-- The small letter of a capital, where it is a single character. -/
def lowerChar (c : Char) : Char :=
  let n := c.toNat
  if n < 0x80 then
    if 0x41 ≤ n && n ≤ 0x5A then Char.ofNat (n + 32) else c
  else
    match lowerRuns.find? fun (first, last, step, _) =>
        first ≤ n && n ≤ last && (n - first) % step == 0 with
    | some (_, _, _, shift) => Char.ofNat (n + shift).toNat
    | none => c

/-- Whether the first character that is not case-ignorable has a case. -/
def meetsCased (cs : List Char) : Bool :=
  match cs.dropWhile isCaseIgnorable with
  | c :: _ => isCased c
  | [] => false

/-- A sigma between `before` (nearest character first) and `after` ends its word. -/
def isFinalSigma (before after : List Char) : Bool := meetsCased before && !meetsCased after

/-- The lowercase form of one character between `before` (nearest first) and `after`. -/
def lowerAt (before : List Char) (c : Char) (after : List Char) : List Char :=
  if c = 'Σ' then [if isFinalSigma before after then 'ς' else 'σ']
  else if c = 'İ' then ['i', '\u0307']
  else [lowerChar c]

/-- Lowercases `cs`, which `before` (nearest first) precedes, behind the text `done`, reversed. -/
def lowerFrom (done before : List Char) : List Char → List Char
  | [] => done.reverse
  | c :: after => lowerFrom ((lowerAt before c after).reverse ++ done) (c :: before) after

def lowercase (cs : List Char) : List Char := lowerFrom [] [] cs

end Text
end PadRelay
