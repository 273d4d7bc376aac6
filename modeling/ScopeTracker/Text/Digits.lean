import ScopeTracker.Text.Lines

/-!
# Digits

Digits of bases up to 16, in which the letters from `a` to `f` follow the digits of base 10, and
the numbers that rows of digits stand for.
-/

namespace ScopeTracker

namespace Text

/-- The value of a digit of base 16. -/
def digitValue? (c : Char) : Option Nat :=
  if c.isDigit then some (c.toNat - 48)
  else if 'a' ≤ c && c ≤ 'f' then some (c.toNat - 87)
  else if 'A' ≤ c && c ≤ 'F' then some (c.toNat - 55)
  else none

/-- The digit of base 16 with a value, a small letter above nine. -/
def hexDigit (n : Nat) : Char := if n < 10 then Char.ofNat (48 + n) else Char.ofNat (87 + n)

/-- Whether a character is a digit in a base. -/
def isDigitOf (base : Nat) (c : Char) : Bool :=
  match digitValue? c with
  | some value => value < base
  | none => false

/-- The number that digits stand for. -/
def valueOfDigits (base : Nat) (digits : Text) : Nat :=
  digits.foldl (fun value c => value * base + (digitValue? c).getD 0) 0

/-- The digits of a number in a base. -/
def digitsOf (base : Nat) (n : Nat) : Text := Nat.toDigits base n

end Text

end ScopeTracker
