import ScopeTracker.Toml.Strings

/-!
# TOML dates and times

A date, a time, or both with a `T` or a space between them; with both, an offset may follow. The
calendar is checked. What is kept is the text in one normal form: with `T` and `Z` as large
letters, and without zeros at the end of a fraction.
-/

namespace ScopeTracker

namespace Toml

/-- Reads two digits whose value lies between bounds. -/
def twoDigits (low high : Nat) : Reader Nat
  | a :: b :: rest =>
    if a.isDigit && b.isDigit then
      let value := (a.toNat - 48) * 10 + (b.toNat - 48)
      if low ≤ value && value ≤ high then some (value, rest) else none
    else none
  | _ => none

/-- Reads one given character. -/
def charOf (wanted : Char) : Text → Option Text
  | c :: rest => if c = wanted then some rest else none
  | [] => none

/-- The number of days of a month. -/
def daysOfMonth (year month : Nat) : Nat :=
  if month = 2 then
    if year % 4 = 0 && (year % 100 ≠ 0 || year % 400 = 0) then 29 else 28
  else if month = 4 || month = 6 || month = 9 || month = 11 then 30
  else 31

/-- Reads a date. -/
def readDate (t : Text) : Option (Text × Text) := do
  let (century, rest) ← twoDigits 0 99 t
  let (year, rest) ← twoDigits 0 99 rest
  let (month, rest) ← twoDigits 1 12 (← charOf '-' rest)
  let (_, rest) ← twoDigits 1 (daysOfMonth (century * 100 + year) month) (← charOf '-' rest)
  return (t.take 10, rest)

/-- Reads a time with its fraction, of which nine digits at most are kept. -/
def readTime (t : Text) : Option (Text × Text) := do
  let (_, rest) ← twoDigits 0 23 t
  let (_, rest) ← twoDigits 0 59 (← charOf ':' rest)
  let (_, rest) ← twoDigits 0 60 (← charOf ':' rest)
  match rest with
  | '.' :: fraction =>
    let digits := fraction.takeWhile Char.isDigit
    if digits.isEmpty then none
    else
      let kept := ((digits.take 9).reverse.dropWhile (· = '0')).reverse
      return (t.take 8 ++ (if kept.isEmpty then [] else '.' :: kept), fraction.drop digits.length)
  | rest => return (t.take 8, rest)

/-- Reads an offset. None counts as well. -/
def readOffset : Reader Text
  | 'Z' :: rest | 'z' :: rest => some (['Z'], rest)
  | sign :: rest =>
    if sign = '+' || sign = '-' then do
      let (hours, after) ← twoDigits 0 23 rest
      let (minutes, after) ← twoDigits 0 59 (← charOf ':' after)
      let sign := if hours = 0 && minutes = 0 then '+' else sign
      return (sign :: rest.take 5, after)
    else some ([], sign :: rest)
  | [] => some ([], [])

/-- Reads a date, a time or both. -/
def readDateTime (t : Text) : Option (Text × Text) :=
  match readDate t with
  | none => readTime t
  | some (date, rest) =>
    match rest with
    | separator :: after =>
      if separator = 'T' || separator = 't' || separator = ' ' then
        match readTime after with
        | some (time, rest) => do
          let (offset, rest) ← readOffset rest
          return (date ++ 'T' :: time ++ offset, rest)
        | none => some (date, rest)
      else some (date, rest)
    | [] => some (date, [])

end Toml

end ScopeTracker
