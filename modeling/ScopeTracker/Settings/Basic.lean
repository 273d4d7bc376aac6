import ScopeTracker.Cache.Basic
import ScopeTracker.Toml.Reader

/-!
# Settings

The settings file is a TOML document with three tables: `tokenizer` limits the length of lines,
`grammars` names folders with grammar files, and `languages` gives language ids a root scope.
Anything that cannot be read as settings stands for the default settings as a whole.
-/

namespace ScopeTracker

/-- Limits of the tokenizer. -/
structure TokenizerSettings where
  maxLineLength : Option Nat := none
deriving DecidableEq, Repr

/-- The folders with grammar files, as written. -/
structure GrammarSettings where
  paths : List String := []
deriving DecidableEq, Repr

/-- The settings, each table on its own. -/
structure Settings where
  tokenizer : Option TokenizerSettings := none
  grammars : Option GrammarSettings := none
  /-- The root scopes for language ids. -/
  languages : Option (List (String × String)) := none
deriving DecidableEq, Repr

namespace Settings

instance : Inhabited Settings := ⟨{}⟩

/-- The name of the settings file. -/
def fileName : String := "tmscopes.toml"

/-- The length in bytes above which lines are skipped. -/
def maxLineLength (settings : Settings) : Nat :=
  (settings.tokenizer.bind (·.maxLineLength)).getD defaultMaxLineLength

/-! ## Reading -/

/-- A length: an integer that is not negative. -/
def length? : Toml → Option Nat
  | .integer n => if 0 ≤ n then some n.toNat else none
  | _ => none

/-- A string. -/
def string? : Toml → Option String
  | .string s => some s
  | _ => none

/-- A list of strings. -/
def strings? : Toml → Option (List String)
  | .array elements => elements.mapM string?
  | _ => none

/-- The key under which a date-time holds its text where a table is expected. -/
def dateTimeKey : String := "$__toml_private_datetime"

/-- The value of a table with a single field, if it is given. Other keys do not count. The table
may also be given as an array of its fields in order. -/
def field? (name : String) : Toml → Option (Option Toml)
  | .table entries => some (entries.lookup name)
  | .array elements => some elements.head?
  | .dateTime _ => some none
  | _ => none

/-- The table `tokenizer`. As an array it must have its field. -/
def tokenizer? : Toml → Option TokenizerSettings
  | .array [] => none
  | table => do
    match ← field? "max_line_length" table with
    | some value => return { maxLineLength := ← length? value }
    | none => return {}

/-- The table `grammars`. -/
def grammars? (table : Toml) : Option GrammarSettings := do
  match ← field? "paths" table with
  | some value => return { paths := ← strings? value }
  | none => return {}

/-- The table `languages`. -/
def languages? : Toml → Option (List (String × String))
  | .table entries => entries.mapM fun (id, scope) => (string? scope).map (id, ·)
  | .dateTime text => some [(dateTimeKey, text)]
  | _ => none

/-- Reads an entry if it is there. -/
def optional? {α : Type} (read : Toml → Option α) (entry : Option Toml) : Option (Option α) :=
  match entry with
  | none => some none
  | some value => (read value).map some

/-- The settings in the entries of a document. Other keys do not count. -/
def ofEntries? (entries : List (String × Toml)) : Option Settings := do
  return {
    tokenizer := ← optional? tokenizer? (entries.lookup "tokenizer")
    grammars := ← optional? grammars? (entries.lookup "grammars")
    languages := ← optional? languages? (entries.lookup "languages") }

/-- The settings in a text. -/
def ofText? (t : Text) : Option Settings := (Toml.parse t).bind ofEntries?

/-- The settings in the bytes of a file, the default ones if they cannot be read. -/
def ofBytes (bytes : ByteArray) : Settings :=
  ((String.fromUTF8? bytes).bind fun s => ofText? s.toList).getD {}

end Settings

end ScopeTracker
