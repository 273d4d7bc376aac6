import ScopeTracker.Files.Uri
import ScopeTracker.Server.Json.Basic
import ScopeTracker.Text.Quoted

/-!
# Reading parameters

What an editor sends is checked while it is read. The first thing that is wrong with it is said
in the answer: a value of another kind, a number that is too large, a word that is not known.

A value is read as it comes, or it is set aside until it is clear what it belongs to. What is
said of an array that is too long depends on that.
-/

namespace ScopeTracker

namespace Params

/-- A value, or what is wrong with the parameters. -/
abbrev Decoded := Except String

/-- When a value is read. -/
inductive Turn where
  /-- As it comes. -/
  | direct
  /-- After it was set aside. -/
  | later
deriving DecidableEq, Repr

/-- Reads a value. -/
abbrev Reader (α : Type) := Turn → Json → Decoded α

/-- A name as it stands in a message. -/
def named (name : String) : String := "\x60" ++ name ++ "\x60"

/-- The kind of a value, as it is named in the answer. -/
def kind : Json → String
  | .null => "null"
  | .bool value => "boolean " ++ named (if value then "true" else "false")
  | .int value => "integer " ++ named (toString value)
  | .real value => "floating point " ++ named (Json.realText value)
  | .string value => "string " ++ String.ofList (Text.quoted value.toList)
  | .array _ => "sequence"
  | .object _ => "map"

/-- A value of another kind than the one expected. -/
def wrongKind {α : Type} (json : Json) (expected : String) : Decoded α :=
  .error ("invalid type: " ++ kind json ++ ", expected " ++ expected)

/-- A value of the kind expected that is not allowed. -/
def wrongValue {α : Type} (json : Json) (expected : String) : Decoded α :=
  .error ("invalid value: " ++ kind json ++ ", expected " ++ expected)

/-- Accepts whatever is sent. -/
def anything : Reader Unit := fun _ _ => .ok ()

/-- Checks a value and forgets it. -/
def checked {α : Type} (read : Reader α) : Reader Unit :=
  fun turn json => (read turn json).map fun _ => ()

/-! ## Single values -/

/-- Reads a string. -/
def string : Reader String
  | _, .string s => .ok s
  | _, json => wrongKind json "a string"

/-- Reads a truth value. -/
def boolean : Reader Bool
  | _, .bool value => .ok value
  | _, json => wrongKind json "a boolean"

/-- Reads an integer between bounds. -/
def integer (low high : Int) (name : String) : Reader Int
  | _, .int n => if low ≤ n && n ≤ high then .ok n else wrongValue (.int n) name
  | _, json => wrongKind json name

/-- Reads a natural number of 32 bits. -/
def word : Reader Nat :=
  fun turn json => Int.toNat <$> integer 0 4294967295 "u32" turn json

/-- Reads an integer of 32 bits with a sign. -/
def signedWord : Reader Int := integer (-2147483648) 2147483647 "i32"

/-- Accepts a number. -/
def number : Reader Unit
  | _, .int _ | _, .real _ => .ok ()
  | _, json => wrongKind json "f32"

/-- Reads a URI. -/
def uri : Reader Uri
  | _, .string s =>
    match Uri.ofString s with
    | .ok uri => .ok uri
    | .error error => .error (error.message ++ ": " ++ String.ofList (Text.quoted s.toList))
  | _, json => wrongKind json "a string representing an URL"

/-! ## Choices -/

/-- The words that may be used, as they are named in a message. -/
def alternatives (words : List String) : String :=
  match words with
  | [word] => named word
  | [first, second] => named first ++ " or " ++ named second
  | words => "one of " ++ ", ".intercalate (words.map named)

/-- Accepts what may stand beside a word that has nothing to say. -/
def nothing : Reader Unit
  | _, .null => .ok ()
  | .later, .object [] => .ok ()
  | _, json => wrongKind json "unit"

/-- Accepts one of a few words, given as a string or as the only member of an object. -/
def oneOf (words : List String) : Reader Unit := fun turn json =>
  let known (word : String) (check : Decoded Unit) : Decoded Unit :=
    if words.contains word then check
    else .error ("unknown variant " ++ named word ++ ", expected " ++ alternatives words)
  match json with
  | .string word => known word (.ok ())
  | .object [(word, value)] => known word (nothing turn value)
  | .object _ => wrongValue json "map with a single key"
  | json => wrongKind json "string or map"

/-- Accepts a value of one of several kinds, which have a common name. -/
def either (name : String) (kinds : List (Reader Unit)) : Reader Unit := fun _ json =>
  if kinds.any fun read => (read .later json).isOk then .ok ()
  else .error ("data did not match any variant of untagged enum " ++ name)

/-! ## Values that hold others -/

/-- Reads the elements of an array. -/
def list {α : Type} (element : Reader α) : Reader (List α)
  | turn, .array elements => elements.mapM (element turn)
  | _, json => wrongKind json "a sequence"

/-- Reads a value that may be null. -/
def orNull {α : Type} (read : Reader α) : Reader (Option α)
  | _, .null => .ok none
  | turn, json => some <$> read turn json

/-- Accepts an object with any names, of which each one and its value are checked. -/
def table (expected : String) (name : String → Decoded Unit) (value : Reader Unit) : Reader Unit
  | turn, .object members => members.forM fun (key, json) => do
    name key
    value turn json
  | _, json => wrongKind json expected

end Params

end ScopeTracker
