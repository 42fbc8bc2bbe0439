import PadRelay.Json.Lexical

/-!
# PadRelay.Json.Number

Number literals: how they are read, and the numbers they denote.

* `readLiteral`: a literal with its digits, whatever their number.
* `NumberLiteral.value`: a whole number of 64 bits where the literal is a plain integer that
  fits, and never minus zero; else a binary64 number, or none where that would be infinite.

A binary64 number is computed from the digits that fit 64 bits, further digits counting as zeros
before the point and not at all behind it, by one product with (or quotients by) powers of ten.
So the last bit may differ from that of the nearest number.
-/

namespace PadRelay
namespace Json

def isDigit (b : UInt8) : Bool := byte '0' ≤ b && b ≤ byte '9'

def digitValue (b : UInt8) : Nat := b.toNat - 48

/-- A number as it is written. The digits stand most significant first. -/
structure NumberLiteral where
  minus : Bool
  whole : List Nat
  /-- The digits behind the point; none without a point. -/
  fraction : List Nat
  /-- Whether the exponent is negative, and its digits. -/
  exponent : Option (Bool × List Nat)
  deriving DecidableEq, Repr

/-- The run of digits at the front, at least one. `atEnd` is the fault of an early end. -/
def readDigits (atEnd : DecodeError) (s : Bytes) : Result (List Nat) :=
  match s.takeWhile isDigit with
  | [] => .error (if s.isEmpty then atEnd else .invalidNumber)
  | d :: ds => .ok ((d :: ds).map digitValue, s.dropWhile isDigit)

theorem length_readDigits_le {atEnd : DecodeError} {s rest : Bytes} {ds : List Nat}
    (h : readDigits atEnd s = .ok (ds, rest)) : rest.length ≤ s.length := by
  unfold readDigits at h
  split at h
  · cases h
  · cases h; exact (List.dropWhile_suffix _).length_le

/-- The digits before the point. A zero stands alone. -/
def readWhole (atEnd : DecodeError) (s : Bytes) : Result (List Nat) :=
  match s with
  | [] => .error atEnd
  | b :: rest =>
    if b = byte '0' then
      if (rest.head?.map isDigit).getD false then .error .invalidNumber else .ok ([0], rest)
    else readDigits atEnd s

theorem length_readWhole_lt {atEnd : DecodeError} {s rest : Bytes} {ds : List Nat}
    (h : readWhole atEnd s = .ok (ds, rest)) : rest.length < s.length := by
  unfold readWhole at h
  split at h
  · cases h
  · next b tail =>
    split at h
    · split at h
      · cases h
      · cases h; simp
    · unfold readDigits at h
      split at h
      · cases h
      · next d ds' hd =>
        cases h
        cases hb : isDigit b with
        | false => simp [hb] at hd
        | true =>
          rw [List.dropWhile_cons_of_pos hb]
          exact Nat.lt_succ_of_le (List.dropWhile_suffix _).length_le

/-- The digits behind a point, if there is one. -/
def readFraction (atEnd : DecodeError) (s : Bytes) : Result (List Nat) :=
  match s with
  | [] => .ok ([], s)
  | b :: rest => if b = byte '.' then readDigits atEnd rest else .ok ([], s)

theorem length_readFraction_le {atEnd : DecodeError} {s rest : Bytes} {ds : List Nat}
    (h : readFraction atEnd s = .ok (ds, rest)) : rest.length ≤ s.length := by
  unfold readFraction at h
  split at h
  · cases h; simp
  · split at h
    · exact Nat.le_succ_of_le (length_readDigits_le h)
    · cases h; simp

/-- Whether a sign at the front is a minus, and what is left behind the sign. -/
def readSign : Bytes → Bool × Bytes
  | [] => (false, [])
  | b :: rest =>
    if b = byte '-' then (true, rest)
    else if b = byte '+' then (false, rest)
    else (false, b :: rest)

theorem length_readSign_le (s : Bytes) : (readSign s).2.length ≤ s.length := by
  cases s with
  | nil => simp [readSign]
  | cons b rest =>
    simp only [readSign]
    split
    · simp
    · split <;> simp

def readExponent (atEnd : DecodeError) (s : Bytes) : Result (Option (Bool × List Nat)) :=
  match s with
  | [] => .ok (none, s)
  | b :: rest =>
    if b = byte 'e' ∨ b = byte 'E' then
      match readDigits atEnd (readSign rest).2 with
      | .error e => .error e
      | .ok (ds, tail) => .ok (some ((readSign rest).1, ds), tail)
    else .ok (none, s)

theorem length_readExponent_le {atEnd : DecodeError} {s rest : Bytes}
    {x : Option (Bool × List Nat)} (h : readExponent atEnd s = .ok (x, rest)) :
    rest.length ≤ s.length := by
  unfold readExponent at h
  split at h
  · cases h; simp
  · next b tail =>
    split at h
    · split at h
      · cases h
      · next hd =>
        cases h
        have := length_readDigits_le hd
        have := length_readSign_le tail
        simp only [List.length_cons]
        omega
    · cases h; simp

/-- A literal behind its minus. -/
def readUnsigned (atEnd : DecodeError) (minus : Bool) (s : Bytes) : Result NumberLiteral :=
  match readWhole atEnd s with
  | .error e => .error e
  | .ok (whole, s) =>
    match readFraction atEnd s with
    | .error e => .error e
    | .ok (fraction, s) =>
      match readExponent atEnd s with
      | .error e => .error e
      | .ok (exponent, s) => .ok (⟨minus, whole, fraction, exponent⟩, s)

theorem length_readUnsigned_lt {atEnd : DecodeError} {minus : Bool} {s rest : Bytes}
    {l : NumberLiteral} (h : readUnsigned atEnd minus s = .ok (l, rest)) :
    rest.length < s.length := by
  unfold readUnsigned at h
  split at h
  · cases h
  · next hw =>
    split at h
    · cases h
    · next hf =>
      split at h
      · cases h
      · next he =>
        cases h
        have := length_readWhole_lt hw
        have := length_readFraction_le hf
        have := length_readExponent_le he
        omega

/-- The literal at the front. `atEnd` is the fault of an early end. -/
def readLiteral (atEnd : DecodeError) (s : Bytes) : Result NumberLiteral :=
  match s with
  | [] => .error atEnd
  | b :: rest => if b = byte '-' then readUnsigned atEnd true rest else readUnsigned atEnd false s

theorem length_readLiteral_lt {atEnd : DecodeError} {s rest : Bytes} {l : NumberLiteral}
    (h : readLiteral atEnd s = .ok (l, rest)) : rest.length < s.length := by
  unfold readLiteral at h
  split at h
  · cases h
  · split at h
    · have := length_readUnsigned_lt h; simp only [List.length_cons]; omega
    · exact length_readUnsigned_lt h

/-- What a literal denotes. -/
inductive Number where
  | natural (n : Nat)
  | negative (n : Nat)
  | fraction (minus : Bool) (x : Decimal.Binary64)
  deriving DecidableEq, Repr

/-- The number in a report of the wrong kind or size. -/
def Number.found : Number → Found
  | .natural n => .natural n
  | .negative n => .negative n
  | .fraction minus x => .fraction minus x

/-- The digits appended to `n` as long as the result fits 64 bits, and their number, counted on
from `count`. -/
def absorb (n count : Nat) : List Nat → Nat × Nat
  | [] => (n, count)
  | d :: ds => if 10 * n + d < UInt64.size then absorb (10 * n + d) (count + 1) ds else (n, count)

/-- The first exponent that does not fit 31 bits. -/
def exponentLimit : Nat := 2147483648

/-- The number that digits denote, no larger than `exponentLimit`. -/
def cappedValue (ds : List Nat) : Nat :=
  ds.foldl (fun n d => min (10 * n + d) exponentLimit) 0

/-- The largest exponent of a power of ten that is a binary64 number. -/
def maxPower : Nat := 308

/-- The quotient by `10 ^ maxPower`, taken again and again until nothing is left. -/
def divideRepeatedly (x : Decimal.Binary64) : Nat → Option Decimal.Binary64
  | 0 => some x
  | times + 1 =>
    if x.significand = 0 then some x
    else
      match x.scaleDown maxPower with
      | some y => divideRepeatedly y times
      | none => none

/-- The number times a power of ten. One step divides by at most `10 ^ maxPower`. -/
def scaleBy (x : Decimal.Binary64) (e : Int) : Option Decimal.Binary64 :=
  if 0 ≤ e then
    if e ≤ maxPower then x.scaleUp e.toNat
    else if x.significand = 0 then some x
    else none
  else
    let power := (-e).toNat - 1
    match divideRepeatedly x (power / maxPower) with
    | some y => y.scaleDown (power % maxPower + 1)
    | none => none

/-- The binary64 number `n * 10 ^ shift`, the exponent of the literal added to the shift. An
exponent beyond 31 bits makes the number zero or too large at once. -/
def realValue (minus : Bool) (n : Nat) (shift : Int) (exponent : Option (Bool × List Nat)) :
    Except DecodeError Number :=
  let (down, power) := match exponent with
    | none => (false, 0)
    | some (down, ds) => (down, cappedValue ds)
  if power = exponentLimit then
    if n ≠ 0 ∧ down = false then .error .numberOutOfRange
    else .ok (.fraction minus .zero)
  else
    let e : Int := if down then shift - power else shift + power
    match (Decimal.Binary64.round n 1).bind (scaleBy · e) with
    | some x => .ok (.fraction minus x)
    | none => .error .numberOutOfRange

def NumberLiteral.value (l : NumberLiteral) : Except DecodeError Number :=
  let (n, count) := absorb 0 0 l.whole
  if l.fraction.isEmpty ∧ l.exponent.isNone ∧ count = l.whole.length then
    if l.minus = false then .ok (.natural n)
    else if 0 < n ∧ n ≤ Nat.pow 2 63 then .ok (.negative n)
    else realValue true n 0 none
  else
    let (m, used) := absorb n 0 l.fraction
    realValue l.minus m (((l.whole.length - count : Nat) : Int) - used) l.exponent

def readNumber (s : Bytes) : Result Number :=
  match readLiteral (.unexpectedEnd .value) s with
  | .error e => .error e
  | .ok (l, rest) =>
    match l.value with
    | .error e => .error e
    | .ok n => .ok (n, rest)

theorem length_readNumber_lt {s rest : Bytes} {n : Number} (h : readNumber s = .ok (n, rest)) :
    rest.length < s.length := by
  unfold readNumber at h
  split at h
  · cases h
  · next hl =>
    split at h
    · cases h
    · cases h; exact length_readLiteral_lt hl

end Json
end PadRelay
