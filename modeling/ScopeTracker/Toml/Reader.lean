import ScopeTracker.Toml.DateTime
import ScopeTracker.Toml.Numbers
import ScopeTracker.Toml.Table

/-!
# Reading TOML

A document is a row of lines: blank ones, headers of tables and of elements of arrays, and keys
with their values. One fault anywhere refuses the whole document.

Arrays and inline tables nest to a limited depth, which is also what the reader of values
recurs on. Inside them, and over the lines, every step takes at least one character, so that the
length of the text is enough for the number of steps.
-/

namespace ScopeTracker

namespace Toml

/-- The depth of nesting, and the number of parts of a dotted key, that is refused. -/
def nestingLimit : Nat := 80

/-! ## Keys -/

/-- Whether a character may stand in a key without quotation marks. -/
def isKeyChar (c : Char) : Bool := c.isAlphanum || c = '_' || c = '-'

/-- Reads one part of a key. -/
def readKeyPart (t : Text) : Option (String × Text) :=
  let finish := Option.map fun ((value, rest) : Text × Text) => (String.ofList value, rest)
  match t with
  | '"' :: rest => finish (readBasic .none rest)
  | '\'' :: rest => finish (readLiteral rest)
  | t =>
    let bare := t.takeWhile isKeyChar
    if bare.isEmpty then none else some (String.ofList bare, t.dropWhile isKeyChar)

/-- Reads the parts of a key with the spaces around them. -/
def readKeyParts : Nat → Reader (List String)
  | 0, _ => none
  | steps + 1, t => do
    let (part, rest) ← readKeyPart (skipSpaces t)
    match skipSpaces rest with
    | '.' :: rest =>
      let (parts, rest) ← readKeyParts steps rest
      return (part :: parts, rest)
    | rest => return ([part], rest)

/-- Reads a key. -/
def readKey (t : Text) : Option (List String × Text) := do
  let (parts, rest) ← readKeyParts nestingLimit t
  if parts.length < nestingLimit then return (parts, rest) else none

/-! ## Values -/

/-- Whether a character may stand in a number, a date, a time or a word. -/
def isWordChar (c : Char) : Bool :=
  c.isAlphanum || c = '_' || c = '+' || c = '-' || c = '.' || c = ':'

/-- Reads a number, a truth value, a date or a time. -/
def readWord (t : Text) : Option (Toml × Text) :=
  match readDateTime t with
  | some (text, rest) => some (.dateTime (String.ofList text), rest)
  | none =>
    let word := t.takeWhile isWordChar
    let rest := t.dropWhile isWordChar
    if word = "true".toList then some (.boolean true, rest)
    else if word = "false".toList then some (.boolean false, rest)
    else if isFloat word then some (.float (String.ofList word), rest)
    else (integer? word).map fun n => (.integer n, rest)

/-- Reads the elements of an array up to its closing bracket. -/
def readElements (element : Reader Toml) : Nat → Reader (List Toml)
  | 0, _ => none
  | steps + 1, t => do
    match ← skipFiller? false t with
    | ']' :: rest => return ([], rest)
    | t =>
      let (value, rest) ← element t
      match ← skipFiller? false rest with
      | ',' :: rest =>
        let (values, rest) ← readElements element steps rest
        return (value :: values, rest)
      | ']' :: rest => return ([value], rest)
      | _ => none

/-- Reads a key, the sign behind it, and a value. -/
def readPair (element : Reader Toml) (t : Text) : Option ((List String × Toml) × Text) := do
  let (key, rest) ← readKey t
  let rest ← charOf '=' rest
  let (value, rest) ← element (skipSpaces rest)
  return ((key, value), rest)

/-- Reads the pairs of an inline table, at least one, up to its closing brace. -/
def readPairs (element : Reader Toml) : Nat → Entries → Reader Entries
  | 0, _, _ => none
  | steps + 1, entries, t => do
    let ((key, value), rest) ← readPair element t
    let (_, entries) ← addValue key value .header entries
    match skipSpaces rest with
    | ',' :: rest => readPairs element steps entries rest
    | c :: rest => if c = '\x7d' then return (entries, rest) else none
    | [] => none

/-- Reads a value. `depth` is how deep arrays and inline tables may still nest. -/
def readValue : Nat → Reader Toml
  | depth, t =>
    match t with
    | [] => none
    | c :: rest =>
      if c = '"' || c = '\'' then (readString t).map fun (s, rest) => (.string s, rest)
      else if c = '[' then
        match depth with
        | 0 => none
        | depth + 1 =>
          (readElements (readValue depth) (t.length + 1) rest).map fun (values, rest) =>
            (.array values, rest)
      else if c = '\x7b' then
        match depth with
        | 0 => none
        | depth + 1 =>
          match skipSpaces rest with
          | [] => none
          | c :: after =>
            if c = '\x7d' then some (.table [], after)
            else
              (readPairs (readValue depth) (t.length + 1) [] rest).map fun (entries, rest) =>
                (.table (finishEntries entries), rest)
      else readWord t

/-! ## Documents -/

/-- What has been read of a document: its entries, and the path of the last header. -/
structure Draft where
  entries : Entries := []
  header : List String := []

/-- Changes the entries of a draft from the root on. -/
def Draft.change (draft : Draft) (change : TableChange) : Option Draft :=
  (change .header draft.entries).map fun (_, entries) => { draft with entries }

/-- Adds a value to the table of the last header. -/
def Draft.addPair (draft : Draft) (key : List String) (value : Toml) : Option Draft :=
  draft.change (descend .path (addValue key value) draft.header)

/-- Reads the path of a header with its closing brackets, and the rest of the line. -/
def readHeader (brackets : Nat) (t : Text) : Option (List String × Text) := do
  let (path, rest) ← readKey t
  if (List.replicate brackets ']').isPrefixOf rest then
    return (path, ← skipLineEnd? (rest.drop brackets))
  else none

/-- Reads the lines of a document. -/
def readLines : Nat → Draft → Text → Option Draft
  | 0, _, _ => none
  | steps + 1, draft, t =>
    match skipSpaces t with
    | [] => some draft
    | '[' :: '[' :: rest => do
      let (path, rest) ← readHeader 2 rest
      readLines steps { ← draft.change (addElement path) with header := path } rest
    | '[' :: rest => do
      let (path, rest) ← readHeader 1 rest
      readLines steps { ← draft.change (addHeader path) with header := path } rest
    | c :: rest => do
      if c = '#' || c = '\n' || c = '\r' then
        readLines steps draft (← skipLineEnd? (c :: rest))
      else
        let ((key, value), rest) ← readPair (readValue (nestingLimit - 1)) (c :: rest)
        readLines steps (← draft.addPair key value) (← skipLineEnd? rest)

/-- The entries of a document. A byte order mark in front of it does not count. -/
def parse (t : Text) : Option (List (String × Toml)) :=
  let t := match t with
    | '\uFEFF' :: rest => rest
    | t => t
  (readLines (t.length + 1) {} t).map fun draft => finishEntries draft.entries

end Toml

end ScopeTracker
