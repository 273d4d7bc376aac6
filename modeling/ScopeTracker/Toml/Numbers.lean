import ScopeTracker.Toml.Strings

/-!
# TOML numbers

Integers are written in base 10 with a sign, or in base 16, 8 or 2 behind `0x`, `0o` or `0b`;
floats have a fraction, an exponent or both. Single underscores may stand between digits. Integers
have 64 bits with a sign; a float must not be above the largest double.
-/

namespace ScopeTracker

namespace Toml

/-- The digits of a text in which single underscores stand between digits. -/
def digits? (isDigit : Char → Bool) : Text → Option Text
  | [] => none
  | [c] => if isDigit c then some [c] else none
  | c :: '_' :: rest => if isDigit c then (digits? isDigit rest).map (c :: ·) else none
  | c :: rest => if isDigit c then (digits? isDigit rest).map (c :: ·) else none

/-- A sign and what follows it. Without a sign the number counts as positive. -/
def splitSign : Text → Bool × Text
  | '-' :: rest => (true, rest)
  | '+' :: rest => (false, rest)
  | t => (false, t)

/-- The digits of a whole number in base 10: no zero stands before others. -/
def wholeDigits? (t : Text) : Option Text :=
  if t.head? = some '0' && 1 < t.length then none else digits? Char.isDigit t

/-- A number of 64 bits with a sign. -/
def int64? (n : Int) : Option Int :=
  if -9223372036854775808 ≤ n && n ≤ 9223372036854775807 then some n else none

/-- The integer that a text stands for. -/
def integer? : Text → Option Int
  | '0' :: 'x' :: rest => based 16 rest
  | '0' :: 'o' :: rest => based 8 rest
  | '0' :: 'b' :: rest => based 2 rest
  | t => do
    let (negative, t) := splitSign t
    let value : Int := Text.valueOfDigits 10 (← wholeDigits? t)
    int64? (if negative then -value else value)
where
  /-- A number in a base other than 10. -/
  based (base : Nat) (t : Text) : Option Int := do
    int64? (Text.valueOfDigits base (← digits? (Text.isDigitOf base) t))

/-- The smallest number that a double rounds to infinity: half a unit above the largest one. -/
def doubleOverflow : Nat := Nat.pow 2 1024 - Nat.pow 2 970

/-- Whether `mantissa * 10 ^ exponent` is too large for a double. The first two cases keep the
powers small. -/
def overflowsDouble (mantissa : Nat) (exponent : Int) : Bool :=
  if mantissa = 0 then false
  else if 400 < exponent then true
  else if 0 ≤ exponent then doubleOverflow ≤ mantissa * Nat.pow 10 exponent.toNat
  else doubleOverflow * Nat.pow 10 (-exponent).toNat ≤ mantissa

/-- Whether a text is a float. A positive one must be small enough for a double. -/
def isFloat (t : Text) : Bool :=
  let (negative, unsigned) := splitSign t
  if unsigned = "inf".toList || unsigned = "nan".toList then true
  else
    let isMark (c : Char) : Bool := c = 'e' || c = 'E'
    let mantissa := unsigned.takeWhile (!isMark ·)
    let exponent := unsigned.dropWhile (!isMark ·)
    let whole := mantissa.takeWhile (· ≠ '.')
    let fraction := mantissa.dropWhile (· ≠ '.')
    let read : Option Bool := do
      let wholeDigits ← wholeDigits? whole
      let fractionDigits ← if fraction.isEmpty then some [] else digits? Char.isDigit fraction.tail
      let (below, exponentText) := splitSign exponent.tail
      let exponentDigits ← if exponent.isEmpty then some [] else digits? Char.isDigit exponentText
      let power : Int := Text.valueOfDigits 10 exponentDigits
      let power := (if below then -power else power) - fractionDigits.length
      let value := Text.valueOfDigits 10 (wholeDigits ++ fractionDigits)
      -- far below one; the comparison would only waste time on a huge power
      return negative || power < -(wholeDigits.length + fractionDigits.length : Nat) ||
        !overflowsDouble value power
    if fraction.isEmpty && exponent.isEmpty then false else read.getD false

end Toml

end ScopeTracker
