import ScopeTracker.Text.Digits
import ScopeTracker.Text.Split

/-!
# Addresses of hosts

A host may be given by its address. Addresses of version 4 are four bytes, written as up to four
numbers with points between them, of which the last one fills the bytes that are left. Those of
version 6 are eight groups of 16 bits in base 16; one run of groups that are zero may be left
out, and the last two groups may be written as an address of version 4.
-/

namespace ScopeTracker

namespace Address

/-! ## Version 4 -/

/-- A number of an address: in base 16 behind `0x`, in base 8 behind `0`, else in base 10.
Nothing behind `0x` is zero. -/
def number? (t : Text) : Option Nat :=
  let inBase (base : Nat) (digits : Text) : Option Nat :=
    if digits.all (Text.isDigitOf base) then some (Text.valueOfDigits base digits) else none
  match t with
  | [] => none
  | '0' :: 'x' :: digits | '0' :: 'X' :: digits => inBase 16 digits
  | '0' :: c :: digits => inBase 8 (c :: digits)
  | digits => inBase 10 digits

/-- The parts of a name between its points. A point at the end does not count. -/
def parts (name : Text) : List Text :=
  match (Text.splitAtChar '.' name).reverse with
  | [] :: part :: rest => (part :: rest).reverse
  | parts => parts.reverse

/-- Whether a name must be an address of version 4: its last part is a number, or would be one
in base 10. -/
def endsInNumber (name : Text) : Bool :=
  match (parts name).getLast? with
  | some part => !part.isEmpty && (part.all Char.isDigit || (number? part).isSome)
  | none => false

/-- The number of bytes that are left for the last of some parts. -/
def roomOfLast (count : Nat) : Nat :=
  match count with
  | 1 => 4294967296
  | 2 => 16777216
  | 3 => 65536
  | _ => 256

/-- Reads an address of version 4. -/
def version4? (name : Text) : Option Nat := do
  let numbers ← (parts name).mapM number?
  let last ← numbers.getLast?
  if 4 < numbers.length then none
  else if roomOfLast numbers.length ≤ last || numbers.dropLast.any (255 < ·) then none
  else
    let high := numbers.dropLast.foldl (fun value byte => value * 256 + byte) 0
    return high * roomOfLast numbers.length + last

/-- The text of an address of version 4: its four bytes in base 10. -/
def text4 (address : Nat) : String :=
  let byte (unit : Nat) : String := toString (address / unit % 256)
  ".".intercalate [byte 16777216, byte 65536, byte 256, byte 1]

/-! ## Version 6 -/

/-- A group of up to four digits of base 16. -/
def group? (t : Text) : Option Nat :=
  if !t.isEmpty && t.length ≤ 4 && t.all (Text.isDigitOf 16) then some (Text.valueOfDigits 16 t)
  else none

/-- A byte in base 10, without zeros in front of it. -/
def byte? (t : Text) : Option Nat :=
  let value := Text.valueOfDigits 10 t
  if t.isEmpty || !t.all Char.isDigit || (t.head? = some '0' && 1 < t.length) then none
  else if value < 256 then some value
  else none

/-- The two groups that four bytes make. -/
def groupsOfBytes? (t : Text) : Option (List Nat) := do
  match ← (Text.splitAtChar '.' t).mapM byte? with
  | [a, b, c, d] => return [a * 256 + b, c * 256 + d]
  | _ => none

/-- Reads groups with colons between them. The last one may be four bytes. -/
def groups? : List Text → Option (List Nat)
  | [] => some []
  | [last] => ((group? last).map fun group => [group]).or (groupsOfBytes? last)
  | first :: rest => do return (← group? first) :: (← groups? rest)

/-- Reads a row of groups, which may be empty. -/
def row? (t : Text) : Option (List Nat) :=
  if t.isEmpty then some [] else groups? (Text.splitAtChar ':' t)

/-- Cuts a text at the first pair of colons. -/
def cutAtPair : Text → Option (Text × Text)
  | ':' :: ':' :: rest => some ([], rest)
  | c :: rest => (cutAtPair rest).map fun (before, after) => (c :: before, after)
  | [] => none

/-- Reads an address of version 6. A pair of colons stands for at least one group. The bytes of
version 4 are only read at the end. -/
def version6? (t : Text) : Option (List Nat) := do
  match cutAtPair t with
  | none =>
    let groups ← row? t
    if groups.length = 8 then return groups else none
  | some (before, after) =>
    let first ← if before.isEmpty then some [] else (Text.splitAtChar ':' before).mapM group?
    let last ← row? after
    let given := first.length + last.length
    if given < 8 then return first ++ List.replicate (8 - given) 0 ++ last else none

/-- The number of zeros at the start of a list. -/
def zeros (groups : List Nat) : Nat := (groups.takeWhile (· = 0)).length

/-- Where the first of the longest runs of zeros starts, and its length. -/
def longestZeros (groups : List Nat) : Nat × Nat :=
  (List.range groups.length).foldl (fun (start, length) i =>
    let here := zeros (groups.drop i)
    if length < here then (i, here) else (start, length)) (0, 0)

/-- The text of an address of version 6. A pair of colons stands for the first of the longest
runs of at least two zeros. -/
def text6 (groups : List Nat) : String :=
  let row (groups : List Nat) : String :=
    ":".intercalate (groups.map fun group => String.ofList (Text.digitsOf 16 group))
  let (start, length) := longestZeros groups
  if length < 2 then row groups
  else row (groups.take start) ++ "::" ++ row (groups.drop (start + length))

end Address

end ScopeTracker
