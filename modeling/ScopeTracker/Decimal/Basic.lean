import ScopeTracker.Text.Digits

/-!
# Decimals

A decimal is a natural number times a power of ten. It is written with its digits in place, or,
if it is very large or very small, with one digit in front of the point and an exponent.
-/

namespace ScopeTracker

/-- The number `digits * 10 ^ exponent`. -/
structure Decimal where
  digits : Nat
  exponent : Int
deriving DecidableEq, Repr, Inhabited

namespace Decimal

/-- The exponents of the first digit for which a decimal is written with its digits in place. -/
structure Style where
  least : Int
  greatest : Int

/-- The exponent of the first digit. -/
def firstExponent (d : Decimal) : Int := d.exponent + (Text.digitsOf 10 d.digits).length - 1

/-- A decimal with its digits in place and at least one digit behind the point. -/
def positional (d : Decimal) : Text :=
  let digits := Text.digitsOf 10 d.digits
  let zeros (count : Int) : Text := List.replicate count.toNat '0'
  let whole := (d.firstExponent + 1).toNat
  if 0 ≤ d.exponent then digits ++ zeros d.exponent ++ ['.', '0']
  else if 0 ≤ d.firstExponent then digits.take whole ++ '.' :: digits.drop whole
  else '0' :: '.' :: zeros (-d.firstExponent - 1) ++ digits

/-- A decimal with one digit in front of the point and an exponent with its sign. A point
without a digit behind it is left out. -/
def scientific (d : Decimal) : Text :=
  let digits := Text.digitsOf 10 d.digits
  let fraction : Text := if digits.length = 1 then [] else '.' :: digits.drop 1
  let sign : Char := if d.firstExponent < 0 then '-' else '+'
  digits.take 1 ++ fraction ++ 'e' :: sign :: Text.digitsOf 10 d.firstExponent.natAbs

/-- The text of a decimal. -/
def text (style : Style) (d : Decimal) : Text :=
  if style.least ≤ d.firstExponent && d.firstExponent ≤ style.greatest then d.positional
  else d.scientific

end Decimal

end ScopeTracker
