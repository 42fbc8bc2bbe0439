/-!
# PadRelay.Text.Hex

Hexadecimal digits.

* `hexDigit`, `upperHexDigit`: the digit of a value below sixteen.
* `hexDigits`: the digits of a number.
* `hexValue?`: the value of a digit in either case.
-/

namespace PadRelay
namespace Text

/-- A hexadecimal digit, in lowercase. -/
def hexDigit (n : Nat) : Char :=
  if n < 10 then Char.ofNat (48 + n) else Char.ofNat (87 + n)

def upperHexDigit (n : Nat) : Char :=
  if n < 10 then Char.ofNat (48 + n) else Char.ofNat (55 + n)

/-- The hexadecimal digits of a number, without leading zeros. -/
def hexDigits (n : Nat) : List Char := Nat.toDigits 16 n

/-- The value of a hexadecimal digit in either case, given by its code. -/
def hexValue? (n : Nat) : Option Nat :=
  if 48 ≤ n ∧ n ≤ 57 then some (n - 48)
  else if 97 ≤ n ∧ n ≤ 102 then some (n - 87)
  else if 65 ≤ n ∧ n ≤ 70 then some (n - 55)
  else none

end Text
end PadRelay
