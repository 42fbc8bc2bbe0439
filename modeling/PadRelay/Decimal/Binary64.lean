/-!
# PadRelay.Decimal.Binary64

Non-negative finite numbers of binary64 floating point, as exact integers, and the two operations
that reading a decimal number needs.

* `round`: the number nearest to a fraction, a tie going to the even significand; nothing where
  that is too large.
* `scaleUp`, `scaleDown`: the product with, and the quotient by, the number nearest to a power
  of ten, rounded once.
-/

namespace PadRelay
namespace Decimal

/-- The number `significand * 2 ^ exponent`. -/
structure Binary64 where
  significand : Nat
  exponent : Int
  deriving DecidableEq, Repr

namespace Binary64

def minExponent : Int := -1074

def maxExponent : Int := 971

/-- The quotient rounded to a whole number, a tie to the even one. -/
def divideRounding (num den : Nat) : Nat :=
  let q := num / den
  let r := num % den
  if 2 * r < den then q
  else if 2 * r > den then q + 1
  else if q % 2 = 0 then q else q + 1

/-- A fraction with its denominator and numerator scaled by `2 ^ -e`. -/
def scaled (num den : Nat) (e : Int) : Nat × Nat :=
  if 0 ≤ e then (num, den * Nat.pow 2 e.toNat) else (num * Nat.pow 2 (-e).toNat, den)

/-- The exponent of the greatest power of two that is at most the fraction `num / den`. -/
def floorLog (num den : Nat) : Int :=
  let q : Int := num.log2 - den.log2
  let (n, d) := scaled num den q
  if d ≤ n then q else q - 1

def zero : Binary64 := ⟨0, minExponent⟩

/-- The number nearest to `num / den`. -/
def round (num den : Nat) : Option Binary64 :=
  if num = 0 then some zero
  else
    let e := max minExponent (floorLog num den - 52)
    let (n, d) := scaled num den e
    let m := divideRounding n d
    let x : Binary64 := if m = Nat.pow 2 53 then ⟨Nat.pow 2 52, e + 1⟩ else ⟨m, e⟩
    if x.exponent ≤ maxExponent then some x else none

def fraction (x : Binary64) : Nat × Nat :=
  if 0 ≤ x.exponent then (x.significand * Nat.pow 2 x.exponent.toNat, 1)
  else (x.significand, Nat.pow 2 (-x.exponent).toNat)

/-- The product with a power of ten, both taken as binary64 numbers. -/
def scaleUp (x : Binary64) (power : Nat) : Option Binary64 :=
  match round (Nat.pow 10 power) 1 with
  | none => none
  | some p =>
    let (a, b) := x.fraction
    let (c, d) := p.fraction
    round (a * c) (b * d)

/-- The quotient by a power of ten, both taken as binary64 numbers. -/
def scaleDown (x : Binary64) (power : Nat) : Option Binary64 :=
  match round (Nat.pow 10 power) 1 with
  | none => none
  | some p =>
    let (a, b) := x.fraction
    let (c, d) := p.fraction
    round (a * d) (b * c)

end Binary64
end Decimal
end PadRelay
