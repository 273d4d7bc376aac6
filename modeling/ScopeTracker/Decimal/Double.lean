import ScopeTracker.Decimal.Basic

/-!
# Decimals as doubles

A decimal becomes a double by computing with doubles: the digits that fit 64 bits, multiplied or
divided by a power of ten. That is exact for short decimals, and may be off by a unit in the last
place for long ones.
-/

namespace ScopeTracker

namespace Decimal

/-- The number from which on digits do not fit 64 bits. -/
def wordLimit : Nat := 18446744073709551616

/-- Goes on with a number at the digits of a text as long as it fits 64 bits. The answer holds
the number and the digits that are left. -/
def fitDigits (value : Nat) : Text → Nat × Text
  | [] => (value, [])
  | c :: rest =>
    let next := value * 10 + (Text.digitValue? c).getD 0
    if next < wordLimit then fitDigits next rest else (value, c :: rest)

/-- The double nearest to a power of ten. -/
def powerOfTen (exponent : Nat) : Float := Float.ofScientific 1 false exponent

/-- A double times a power of ten, nothing if that is too large. A power below the range of the
doubles is taken in two steps. -/
def scale? (x : Float) (exponent : Int) : Option Float :=
  if 308 < exponent then if x == 0 then some x else none
  else if 0 ≤ exponent then
    let product := x * powerOfTen exponent.toNat
    if product.isInf then none else some product
  else if -308 ≤ exponent then some (x / powerOfTen (-exponent).toNat)
  else if x == 0 then some x
  else scale? (x / powerOfTen 308) (exponent + 308)
termination_by exponent.natAbs
decreasing_by omega

/-- The double for `value * 10 ^ exponent`, nothing if that is too large. -/
def double? (negative : Bool) (value : Nat) (exponent : Int) : Option Float :=
  (scale? (Float.ofNat value) exponent).map fun x => if negative then -x else x

end Decimal

end ScopeTracker
