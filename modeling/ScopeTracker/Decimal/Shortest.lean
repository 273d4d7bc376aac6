import ScopeTracker.Decimal.Basic

/-!
# The shortest decimal of a double

A positive double stands for all the reals that round to it. Of the decimals among them, its text
is one with the fewest digits, and of those the nearest to the double itself.

Everything is computed exactly. The decimals `c * 10 ^ g` for one `g` form a grid; if a point of
the grid rounds to the double, then so does one of the two points around it. The grids are tried
from the coarsest on, and the first hit ends the search.
-/

namespace ScopeTracker

namespace Decimal

/-- The reals that round to a double. All numbers are multiples of `2 ^ unit`. -/
structure Rounding where
  /-- The double itself. -/
  value : Nat
  low : Nat
  high : Nat
  /-- Whether the ends round to the double too. -/
  closed : Bool
  unit : Int
deriving DecidableEq, Repr

namespace Rounding

/-- The reals that round to a positive double. The doubles below a power of two are closer to it
than those above. -/
def ofDouble (x : Float) : Rounding :=
  let bits := x.toBits.toNat
  let field := bits / 4503599627370496 % 2048
  let fraction := bits % 4503599627370496
  let mantissa := if field = 0 then fraction else fraction + 4503599627370496
  { value := 4 * mantissa
    low := 4 * mantissa - (if fraction = 0 && 1 < field then 1 else 2)
    high := 4 * mantissa + 2
    closed := mantissa % 2 = 0
    unit := (max field 1 : Nat) - 1077 }

/-- The value of the point of a grid that is nearest to the double, if that point rounds to it.
Of two points at the same distance the even one counts. -/
def onGrid? (r : Rounding) (grid : Int) : Option Nat :=
  let scaled (n : Nat) : Nat := n * Nat.pow 2 r.unit.toNat * Nat.pow 10 (-grid).toNat
  let step := Nat.pow 2 (-r.unit).toNat * Nat.pow 10 grid.toNat
  let hits (c : Nat) : Bool :=
    if r.closed then scaled r.low ≤ c * step && c * step ≤ scaled r.high
    else scaled r.low < c * step && c * step < scaled r.high
  let below := scaled r.value / step
  let twice := 2 * (scaled r.value % step)
  let upper := step < twice || (step = twice && below % 2 = 1)
  if hits below && hits (below + 1) then some (if upper then below + 1 else below)
  else if hits below then some below
  else if hits (below + 1) then some (below + 1)
  else none

/-- An exponent of ten that is too large for a grid, by not much. -/
def top (r : Rounding) : Int := (r.unit + Nat.log2 r.high) * 30103 / 100000 + 2

/-- The shortest decimal that rounds to the double. A double has at most 17 digits. -/
def shortest (r : Rounding) : Decimal :=
  let found := (List.range 24).findSome? fun (finer : Nat) =>
    (r.onGrid? (r.top - finer)).map fun digits => (⟨digits, r.top - finer⟩ : Decimal)
  found.getD default

end Rounding

/-- The text of a finite double. -/
def doubleText (style : Style) (x : Float) : String :=
  let magnitude := Float.ofBits (x.toBits % 9223372036854775808)
  let sign := if x.toBits.toNat < 9223372036854775808 then "" else "-"
  if magnitude.toBits = 0 then sign ++ "0.0"
  else sign ++ String.ofList ((Rounding.ofDouble magnitude).shortest.text style)

end Decimal

end ScopeTracker
