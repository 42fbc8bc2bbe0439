import PadRelay.Decimal.Binary64

/-!
# PadRelay.Decimal.Shortest

The decimal text of a binary64 number: the fewest digits that read back as the same number.

* `shortest`: among the decimals that round to the number, one with the fewest digits, the
  nearest of those.
* `layout`: positional from `1e-5` up to below `1e16`, always with a point; else with an exponent
  of a sign and two digits or more.
-/

namespace PadRelay
namespace Decimal

/-- The decimal `digits * 10 ^ exponent`. -/
structure Numeral where
  digits : Nat
  exponent : Int
  deriving DecidableEq, Repr

namespace Numeral

def fraction (d : Numeral) : Nat × Nat :=
  if 0 ≤ d.exponent then (d.digits * Nat.pow 10 d.exponent.toNat, 1)
  else (d.digits, Nat.pow 10 (-d.exponent).toNat)

def readsAs (d : Numeral) (x : Binary64) : Bool :=
  let (n, m) := d.fraction
  Binary64.round n m == some x

/-- How far two fractions lie apart, on the common denominator. -/
def distance (a b : Nat × Nat) : Nat :=
  (a.1 * b.2 - b.1 * a.2) + (b.1 * a.2 - a.1 * b.2)

/-- The two neighbours of a fraction on the grid of multiples of `10 ^ e`. -/
def neighbours (f : Nat × Nat) (e : Int) : Numeral × Numeral :=
  let k := if 0 ≤ e then f.1 / (f.2 * Nat.pow 10 e.toNat) else f.1 * Nat.pow 10 (-e).toNat / f.2
  (⟨k, e⟩, ⟨k + 1, e⟩)

/-- The nearer of two decimals to a fraction; of two equally near, the even one. -/
def nearer (f : Nat × Nat) (a b : Numeral) : Numeral :=
  let da := distance f a.fraction * b.fraction.2
  let db := distance f b.fraction * a.fraction.2
  if da < db then a else if db < da then b else if a.digits % 2 = 0 then a else b

/-- The decimal on one grid that reads as the number. -/
def onGrid? (x : Binary64) (e : Int) : Option Numeral :=
  let f := x.fraction
  let (a, b) := neighbours f e
  match a.readsAs x, b.readsAs x with
  | true, true => some (nearer f a b)
  | true, false => some a
  | false, true => some b
  | false, false => none

/-- The first grid with a hit, from coarse to fine. -/
def search (x : Binary64) : Nat → Int → Numeral
  | 0, e => ⟨0, e⟩
  | steps + 1, e =>
    match onGrid? x e with
    | some d => d
    | none => search x steps (e - 1)

def width (n : Nat) : Nat := (Nat.toDigits 10 n).length

/-- The exponent of the greatest power of ten that is at most the fraction, or one more. -/
def topExponent (f : Nat × Nat) : Int :=
  if f.2 ≤ f.1 then (width (f.1 / f.2) : Nat) else 1 - (width (f.2 / f.1) : Nat)

/-- The decimal with the fewest digits that reads as the number. -/
def shortest (x : Binary64) : Numeral :=
  if x.significand = 0 then ⟨0, 0⟩ else search x 20 (topExponent x.fraction)

/-- The digits without zeros at their end, with the exponent that makes up for them. -/
def normalFrom : Nat → Numeral → Numeral
  | 0, d => d
  | fuel + 1, d =>
    if d.digits ≠ 0 ∧ d.digits % 10 = 0 then normalFrom fuel ⟨d.digits / 10, d.exponent + 1⟩ else d

/-- The text of a positive decimal without zeros at its end. -/
def layout (d : Numeral) : String :=
  let ds := Nat.toDigits 10 d.digits
  let top : Int := d.exponent + ds.length - 1
  if -5 ≤ top ∧ top ≤ 15 then
    if 0 ≤ d.exponent then
      String.ofList (ds ++ List.replicate d.exponent.toNat '0' ++ ['.', '0'])
    else if 0 ≤ top then
      let whole := (top + 1).toNat
      String.ofList (ds.take whole ++ '.' :: ds.drop whole)
    else String.ofList ('0' :: '.' :: List.replicate (-top - 1).toNat '0' ++ ds)
  else
    let mantissa := match ds with
      | [c] => [c]
      | c :: rest => c :: '.' :: rest
      | [] => []
    let power := Nat.toDigits 10 top.natAbs
    String.ofList (mantissa ++ ['e', if top < 0 then '-' else '+'] ++ power)

end Numeral

def text (negative : Bool) (x : Binary64) : String :=
  let d := Numeral.shortest x
  let body := if d.digits = 0 then "0.0" else (Numeral.normalFrom 400 d).layout
  if negative then "-" ++ body else body

end Decimal
end PadRelay
