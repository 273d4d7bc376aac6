import ScopeTracker.Decimal.Double
import ScopeTracker.Server.Json.Basic
import ScopeTracker.Text.Split

/-!
# Reading JSON

A JSON text is read from its start on. One fault anywhere refuses the whole text.

The readers of arrays and objects take at least one character with every step, and a value nests
at most as deep as its text is long, so that the length of the whole text is enough both for the
number of steps and for the depth.
-/

namespace ScopeTracker

namespace Json

/-- Reads the start of a text. The answer holds what is left of it. -/
abbrev Reader (α : Type) := Text → Option (α × Text)

/-- What is left behind blanks. -/
def skipBlanks (t : Text) : Text :=
  t.dropWhile fun c => c = ' ' || c = '\n' || c = '\r' || c = '\t'

/-! ## Strings -/

/-- The character that a letter stands for behind a backslash. -/
def escaped? : Char → Option Char
  | '"' => some '"'
  | '\\' => some '\\'
  | '/' => some '/'
  | 'b' => some '\x08'
  | 'f' => some '\x0c'
  | 'n' => some '\n'
  | 'r' => some '\r'
  | 't' => some '\t'
  | _ => none

/-- Reads the characters of a string up to its closing mark. An escape by number gives a unit of
UTF-16. The numbers read are put in front of `read`, the last one first. -/
def readUnits (read : List Nat) : Text → Option (List Nat × Text)
  | [] => none
  | '"' :: rest => some (read, rest)
  | '\\' :: 'u' :: a :: b :: c :: d :: rest =>
    let digits := [a, b, c, d]
    if digits.all (Text.isDigitOf 16) then
      readUnits (Text.valueOfDigits 16 digits :: read) rest
    else none
  | '\\' :: c :: rest =>
    match escaped? c with
    | some c => readUnits (c.toNat :: read) rest
    | none => none
  | c :: rest => if c.toNat < 0x20 then none else readUnits (c.toNat :: read) rest

/-- Joins the pairs of surrogates among the numbers of a string, which are given with the last
one first. A surrogate alone is refused. -/
def charsOfUnits (after : Text) : List Nat → Option Text
  | [] => some after
  | [unit] => if unit.isValidChar then some (Char.ofNat unit :: after) else none
  | low :: high :: rest =>
    if low.isValidChar then charsOfUnits (Char.ofNat low :: after) (high :: rest)
    else if 0xDC00 ≤ low && 0xD800 ≤ high && high < 0xDC00 then
      charsOfUnits (Char.ofNat (0x10000 + (high - 0xD800) * 0x400 + (low - 0xDC00)) :: after) rest
    else none

/-- Reads a string behind its opening mark. -/
def readString (t : Text) : Option (String × Text) := do
  let (units, rest) ← readUnits [] t
  return (String.ofList (← charsOfUnits [] units), rest)

/-! ## Numbers -/

/-- Reads digits, at least one. -/
def readDigits (t : Text) : Option (Text × Text) :=
  let digits := t.takeWhile Char.isDigit
  if digits.isEmpty then none else some (digits, t.dropWhile Char.isDigit)

/-- Reads the digits in front of the point. No zero stands before others. -/
def readWhole (t : Text) : Option (Text × Text) := do
  let (digits, rest) ← readDigits t
  if digits.head? = some '0' && 1 < digits.length then none else return (digits, rest)

/-- Reads the digits behind the point, if there is one. -/
def readFraction : Text → Option (Option Text × Text)
  | '.' :: rest => do
    let (digits, rest) ← readDigits rest
    return (some digits, rest)
  | t => some (none, t)

/-- Reads an exponent, if there is one. -/
def readExponent (t : Text) : Option (Option Int × Text) :=
  match t with
  | mark :: rest =>
    if mark = 'e' || mark = 'E' then do
      let (negative, rest) := match rest with
        | '-' :: rest => (true, rest)
        | '+' :: rest => (false, rest)
        | rest => (false, rest)
      let (digits, rest) ← readDigits rest
      let value : Int := Text.valueOfDigits 10 digits
      return (some (if negative then -value else value), rest)
    else some (none, t)
  | [] => some (none, [])

/-- A number written without fraction and exponent: an integer if it has at most 64 bits. Zero
with a sign is no integer. -/
def wholeNumber? (negative : Bool) (value : Nat) (dropped : Nat) : Option Json :=
  if dropped = 0 && !negative then some (.int value)
  else if dropped = 0 && 0 < value && value ≤ 9223372036854775808 then some (.int (-value))
  else (Decimal.double? negative value dropped).map .real

/-- Reads a number. -/
def readNumber (t : Text) : Option (Json × Text) := do
  let (negative, t) := match t with
    | '-' :: rest => (true, rest)
    | t => (false, t)
  let (whole, t) ← readWhole t
  let (fraction, t) ← readFraction t
  let (exponent, t) ← readExponent t
  let (value, dropped) := Decimal.fitDigits 0 whole
  if fraction.isNone && exponent.isNone then
    return (← wholeNumber? negative value dropped.length, t)
  else
    let digits := fraction.getD []
    let (value, left) := Decimal.fitDigits value digits
    let power : Int := dropped.length + left.length - digits.length + exponent.getD 0
    return (.real (← Decimal.double? negative value power), t)

/-! ## Values -/

/-- Puts a member in its place among the members of an object. The last one of a name counts. -/
def putMember (name : String) (value : Json) : List (String × Json) → List (String × Json)
  | [] => [(name, value)]
  | (other, old) :: rest =>
    if name = other then (name, value) :: rest
    else if name < other then (name, value) :: (other, old) :: rest
    else (other, old) :: putMember name value rest

/-- Reads the elements of an array behind one of its elements. -/
def readElements (element : Reader Json) : Nat → Reader (List Json)
  | 0, _ => none
  | steps + 1, t =>
    match skipBlanks t with
    | ']' :: rest => some ([], rest)
    | ',' :: rest => do
      let (value, rest) ← element rest
      let (values, rest) ← readElements element steps rest
      return (value :: values, rest)
    | _ => none

/-- Reads a name and a value. -/
def readMember (element : Reader Json) (t : Text) : Option ((String × Json) × Text) :=
  match skipBlanks t with
  | '"' :: rest => do
    let (name, rest) ← readString rest
    match skipBlanks rest with
    | ':' :: rest =>
      let (value, rest) ← element rest
      return ((name, value), rest)
    | _ => none
  | _ => none

/-- Reads the members of an object behind some of its members. -/
def readMembers (element : Reader Json) :
    Nat → List (String × Json) → Reader (List (String × Json))
  | 0, _, _ => none
  | steps + 1, members, t =>
    match skipBlanks t with
    | ',' :: rest => do
      let ((name, value), rest) ← readMember element rest
      readMembers element steps (putMember name value members) rest
    | c :: rest => if c = '\x7d' then some (members, rest) else none
    | [] => none

/-- Reads a word that stands for a value. -/
def readWord (word : String) (value : Json) (t : Text) : Option (Json × Text) :=
  if word.toList.isPrefixOf t then some (value, t.drop word.length) else none

/-- Reads a value. `depth` is how deep arrays and objects may still nest. -/
def readValue (steps : Nat) : Nat → Reader Json
  | 0, _ => none
  | depth + 1, t =>
    match skipBlanks t with
    | [] => none
    | c :: rest =>
      if c = '"' then (readString rest).map fun (s, rest) => (.string s, rest)
      else if c = '[' then
        match skipBlanks rest with
        | ']' :: rest => some (.array [], rest)
        | rest => do
          let (value, rest) ← readValue steps depth rest
          let (values, rest) ← readElements (readValue steps depth) steps rest
          return (.array (value :: values), rest)
      else if c = '\x7b' then
        if (skipBlanks rest).head? = some '\x7d' then
          some (.object [], (skipBlanks rest).drop 1)
        else do
          let ((name, value), rest) ← readMember (readValue steps depth) rest
          let (members, rest) ← readMembers (readValue steps depth) steps [(name, value)] rest
          return (.object members, rest)
      else if c = 't' then readWord "true" (.bool true) (c :: rest)
      else if c = 'f' then readWord "false" (.bool false) (c :: rest)
      else if c = 'n' then readWord "null" .null (c :: rest)
      else readNumber (c :: rest)

/-- Reads a value that is a whole text. -/
def ofString? (s : String) : Option Json :=
  let t := s.toList
  match readValue (t.length + 1) (t.length + 1) t with
  | some (value, rest) => if (skipBlanks rest).isEmpty then some value else none
  | none => none

end Json

end ScopeTracker
