import ScopeTracker.Server.Params.Basic

/-!
# Records in parameters

A record is an object, or an array of the values of its members in their order. Of an object the
members that are there are checked first, in the order of their names; then it fails for the
first member that is missing. Members that the record does not know do not count.

Some records take over the members of other records. Those are only read from objects: first the
record's own members, then the parts one after the other.
-/

namespace ScopeTracker

namespace Params

/-- Whether a member of a record may be missing. -/
inductive Need where
  /-- It has to be there. -/
  | required
  /-- It may be missing from an object. -/
  | optional
  /-- It may be missing from an object, and at the end of an array. -/
  | free
deriving DecidableEq, Repr

/-- A member of a record: its name, whether it may be missing, and a check of its value. -/
structure Member where
  name : String
  need : Need
  check : Reader Unit

/-- A member that has to be there. -/
def must {α : Type} (name : String) (read : Reader α) : Member := ⟨name, .required, checked read⟩

/-- A member that may be missing or null. -/
def may {α : Type} (name : String) (read : Reader α) : Member :=
  ⟨name, .optional, checked (orNull read)⟩

/-- A member that may be missing or null, also at the end of an array. -/
def mayEnd {α : Type} (name : String) (read : Reader α) : Member :=
  ⟨name, .free, checked (orNull read)⟩

/-- Reads a member that has to be there. -/
def required {α : Type} (name : String) (read : Reader α) : Reader α := fun turn json =>
  match json.get? name with
  | some value => read turn value
  | none => .error ("missing field " ++ named name)

/-- Reads a member that may be missing or null. -/
def optional {α : Type} (name : String) (read : Reader α) : Reader (Option α) := fun turn json =>
  match json.get? name with
  | some value => orNull read turn value
  | none => .ok none

/-! ## Objects and arrays -/

/-- Checks the members of an object that a record knows. -/
def checkGiven (members : List Member) (turn : Turn) (given : List (String × Json)) :
    Decoded Unit :=
  given.forM fun (name, value) =>
    match members.find? (·.name = name) with
    | some member => member.check turn value
    | none => .ok ()

/-- Fails for the first member that has to be there and is missing. -/
def checkMissing (members : List Member) (given : List (String × Json)) : Decoded Unit :=
  let isMissing (member : Member) : Bool :=
    member.need = .required && (given.lookup member.name).isNone
  match members.find? isMissing with
  | some member => .error ("missing field " ++ named member.name)
  | none => .ok ()

/-- Checks an object. -/
def checkObject (members : List Member) (turn : Turn) (given : List (String × Json)) :
    Decoded Unit := do
  checkGiven members turn given
  checkMissing members given

/-- A number of elements as it is named in the answer. -/
def elementCount (n : Nat) : String :=
  toString n ++ (if n = 1 then " element" else " elements")

/-- A length that does not fit. -/
def wrongLength {α : Type} (length : Nat) (expected : String) : Decoded α :=
  .error ("invalid length " ++ toString length ++ ", expected " ++ expected)

/-- Checks the values of an array against the members of a record, from the member with a number
on. -/
def checkElements (name : String) (turn : Turn) (total : Nat) :
    Nat → List Member → List Json → Decoded Unit
  | index, member :: members, [] =>
    if member.need = .free then checkElements name turn total (index + 1) members []
    else wrongLength index ("struct " ++ name ++ " with " ++ elementCount total)
  | index, member :: members, element :: elements => do
    member.check turn element
    checkElements name turn total (index + 1) members elements
  | _, [], [] => .ok ()
  | index, [], element :: elements =>
    wrongLength (index + (element :: elements).length) <|
      match turn with
      | .direct => "fewer elements in array"
      | .later => elementCount total ++ " in sequence"

/-! ## Records -/

/-- Reads a record. The members are checked first and then put together. -/
def record {α : Type} (name : String) (members : List Member) (read : Reader α) : Reader α
  | turn, .object given => do
    checkObject members turn given
    read turn (.object given)
  | turn, .array elements => do
    checkElements name turn members.length 0 members elements
    read turn (.object ((members.map (·.name)).zip elements))
  | _, json => wrongKind json ("struct " ++ name)

/-- Checks a record. -/
def shape (name : String) (members : List Member) : Reader Unit := record name members anything

/-- Reads a record that takes over the members of others. -/
def merged {α : Type} (name : String) (own : List Member) (parts : List (List Member))
    (read : Reader α) : Reader α
  | turn, .object given => do
    checkObject own turn given
    parts.forM fun members => checkObject members .later given
    read turn (.object given)
  | _, json => wrongKind json ("struct " ++ name)

/-- Checks a record that takes over the members of others. -/
def mergedShape (name : String) (own : List Member) (parts : List (List Member)) : Reader Unit :=
  merged name own parts anything

end Params

end ScopeTracker
