import ScopeTracker.Decimal.Shortest

/-!
# JSON values

The messages between the server and an editor are JSON values. The members of an object that was
read stand in the order of their names; an object that is to be sent may have them in any order.
-/

namespace ScopeTracker

/-- A JSON value. -/
inductive Json where
  | null
  | bool (value : Bool)
  | int (value : Int)
  /-- A number that was not written as an integer, or is no integer of 64 bits. -/
  | real (value : Float)
  | string (value : String)
  | array (elements : List Json)
  | object (members : List (String × Json))

namespace Json

instance : Inhabited Json := ⟨null⟩

/-- A natural number. -/
def nat (n : Nat) : Json := .int n

/-- A member of an object. -/
def get? (name : String) : Json → Option Json
  | object members => members.lookup name
  | _ => none

/-- Numbers have their digits in place from five zeros behind the point up to 16 digits in front
of it. -/
def numberStyle : Decimal.Style := ⟨-5, 15⟩

/-- The text of a number that is not an integer. -/
def realText (value : Float) : String := Decimal.doubleText numberStyle value

/-- A character as it stands in a string. -/
def escape (c : Char) : List Char :=
  match c with
  | '"' => ['\\', '"']
  | '\\' => ['\\', '\\']
  | '\n' => ['\\', 'n']
  | '\r' => ['\\', 'r']
  | '\t' => ['\\', 't']
  | '\x08' => ['\\', 'b']
  | '\x0c' => ['\\', 'f']
  | c =>
    if c.toNat < 0x20 then
      ['\\', 'u', '0', '0', Text.hexDigit (c.toNat / 16), Text.hexDigit (c.toNat % 16)]
    else [c]

/-- A string in quotation marks. -/
def quote (s : String) : String := "\"" ++ String.ofList (s.toList.flatMap escape) ++ "\""

mutual

/-- The text of a value, without blanks. -/
def compact : Json → String
  | null => "null"
  | bool value => if value then "true" else "false"
  | int value => toString value
  | real value => realText value
  | string value => quote value
  | array elements => "[" ++ ",".intercalate (compactElements elements) ++ "]"
  | object members => "\x7b" ++ ",".intercalate (compactMembers members) ++ "\x7d"

/-- The texts of values. -/
def compactElements : List Json → List String
  | [] => []
  | element :: rest => compact element :: compactElements rest

/-- The texts of members. -/
def compactMembers : List (String × Json) → List String
  | [] => []
  | (name, value) :: rest => (quote name ++ ":" ++ compact value) :: compactMembers rest

end

end Json

end ScopeTracker
