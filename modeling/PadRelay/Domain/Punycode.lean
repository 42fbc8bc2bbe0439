/-!
# PadRelay.Domain.Punycode

Code points written with the letters, digits and dashes of a label.

Code points of ASCII come first as they are, with a dash behind them. For every other one, in
rising order, a number says how far it lies from the one before, counted over all places where
it could stand. Numbers are written in base 36, least digit first, a digit below its threshold
being the last; thresholds follow the size of the numbers seen so far.

* `decode`, `encode`: from such a text to code points and back.
-/

namespace PadRelay
namespace Domain
namespace Punycode

/-- The value of a digit: letters before figures. -/
def digitValue? (c : Char) : Option Nat :=
  if 'a' ≤ c ∧ c ≤ 'z' then some (c.toNat - 97)
  else if '0' ≤ c ∧ c ≤ '9' then some (c.toNat - 22)
  else none

def digit (n : Nat) : Char := if n < 26 then Char.ofNat (97 + n) else Char.ofNat (22 + n)

/-- The threshold of the digit at place `k`, which counts in steps of 36: how far the place lies
beyond the bias, kept between 1 and 26. -/
def threshold (bias k : Nat) : Nat := min 26 (max 1 (k - bias))

theorem threshold_pos (bias k : Nat) : 0 < threshold bias k := by
  unfold threshold
  omega

/-- The bias for numbers of about this size. -/
def settleBias (delta k : Nat) : Nat :=
  if 455 < delta then settleBias (delta / 35) (k + 36) else k + 36 * delta / (delta + 38)
termination_by delta
decreasing_by omega

/-- The bias behind a number when `count` characters are placed. -/
def adapt (delta count : Nat) (first : Bool) : Nat :=
  let d := if first then delta / 700 else delta / 2
  settleBias (d + d / count) 0

def startBias : Nat := 72

/-- The first code point beyond ASCII. -/
def startCode : Nat := 128

/-- A number at the front, added to `sum`: its digits from place `k` on weigh `weight`. Nothing
may exceed 32 bits. -/
def readNumber (bias k weight sum : Nat) : List Char → Option (Nat × List Char)
  | [] => none
  | c :: rest =>
    match digitValue? c with
    | none => none
    | some d =>
      let sum := sum + d * weight
      let weight' := weight * (36 - threshold bias k)
      if UInt32.size ≤ sum then none
      else if d < threshold bias k then some (sum, rest)
      else if UInt32.size ≤ weight' then none
      else readNumber bias (k + 36) weight' sum rest

theorem length_readNumber_lt {bias k weight sum n : Nat} {cs rest : List Char}
    (h : readNumber bias k weight sum cs = some (n, rest)) : rest.length < cs.length := by
  induction cs generalizing k weight sum with
  | nil => cases h
  | cons c cs ih =>
    simp only [readNumber] at h
    split at h
    · cases h
    · split at h
      · cases h
      · split at h
        · cases h; exact Nat.lt_succ_self _
        · split at h
          · cases h
          · exact Nat.lt_succ_of_lt (ih h)

/-- Whether a number is a code point of a character. -/
def isCode (n : Nat) : Bool := n < 0xD800 || (0xDFFF < n && n < 0x110000)

/-- Places the code points that are left. `place` is where the next one could stand. -/
def decodeFrom (placed : List Nat) (code place bias : Nat) (cs : List Char) :
    Option (List Nat) :=
  if cs.isEmpty then some placed
  else
    match _h : readNumber bias 36 1 place cs with
    | none => none
    | some (n, rest) =>
      let count := placed.length + 1
      let code := code + n / count
      if isCode code then
        let spot := n % count
        decodeFrom (placed.take spot ++ code :: placed.drop spot) code (spot + 1)
          (adapt (n - place) count (place == 0)) rest
      else none
termination_by cs.length
decreasing_by exact length_readNumber_lt _h

/-- The text before the last dash and the text behind it. A dash in front counts as no dash. -/
def splitBasic (cs : List Char) : List Char × List Char :=
  match cs.reverse.dropWhile (· != '-') with
  | _ :: c :: before => ((c :: before).reverse, (cs.reverse.takeWhile (· != '-')).reverse)
  | _ => ([], cs)

def decode (cs : List Char) : Option (List Nat) :=
  let (basic, rest) := splitBasic cs
  decodeFrom (basic.map Char.toNat) startCode 0 startBias rest

/-- The digits of a number from place `k` on. -/
def writeNumber (bias k n : Nat) : List Char :=
  let t := threshold bias k
  if n < t then [digit n]
  else digit (t + (n - t) % (36 - t)) :: writeNumber bias (k + 36) ((n - t) / (36 - t))
termination_by n
decreasing_by
  have := threshold_pos bias k
  have := Nat.div_le_self (n - threshold bias k) (36 - threshold bias k)
  omega

/-- The writing of a text's code points that are not yet placed. -/
structure Writing where
  written : List Char
  delta : Nat
  bias : Nat
  placed : Nat
  deriving DecidableEq, Repr

/-- Passes over a code point while those equal to `code` are written. -/
def Writing.pass (basic code : Nat) (w : Writing) (n : Nat) : Writing :=
  if n < code then { w with delta := w.delta + 1 }
  else if n = code then
    { written := w.written ++ writeNumber w.bias 36 w.delta
      delta := 0
      bias := adapt w.delta (w.placed + 1) (w.placed == basic)
      placed := w.placed + 1 }
  else w

/-- Writes the code points in `codes`, which rise, when all below `before` are written. -/
def encodeFrom (ns : List Nat) (basic before : Nat) (w : Writing) : List Nat → List Char
  | [] => w.written
  | code :: codes =>
    let reached := { w with delta := w.delta + (code - before) * (w.placed + 1) }
    let passed := ns.foldl (Writing.pass basic code) reached
    encodeFrom ns basic (code + 1) { passed with delta := passed.delta + 1 } codes

def encode (ns : List Nat) : List Char :=
  let basic := ns.filter (· < startCode)
  let codes := ((ns.filter (startCode ≤ ·)).mergeSort).eraseDups
  basic.map Char.ofNat ++ (if basic.isEmpty then [] else ['-']) ++
    encodeFrom ns basic.length startCode ⟨[], 0, startBias, basic.length⟩ codes

end Punycode
end Domain
end PadRelay
