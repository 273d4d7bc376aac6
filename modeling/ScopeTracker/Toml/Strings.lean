import ScopeTracker.Toml.Value

/-!
# TOML strings

Strings stand in quotation marks, and know escapes, or in apostrophes, and know none. With three
marks on either side they may go over several lines; a line break right behind the opening marks
does not count, and up to two marks may stand right before the closing ones.

All readers walk the text once and keep in a state how far an escape has come.
-/

namespace ScopeTracker

namespace Toml

/-- How far an escape has come. -/
inductive Escape where
  /-- No escape is under way. -/
  | none
  /-- A backslash was read. -/
  | backslash
  /-- Of the digits of a code point, `left` are to come; those read so far have a value. -/
  | codePoint (left value : Nat)
  /-- A backslash and spaces were read; a line break has to come. -/
  | lineEnd
  /-- A backslash and a line break were read; spaces and line breaks do not count any more. -/
  | gap

/-- The character that a letter stands for behind a backslash. -/
def escaped? : Char → Option Char
  | 'b' => some '\x08'
  | 't' => some '\t'
  | 'n' => some '\n'
  | 'f' => some '\x0c'
  | 'r' => some '\r'
  | '"' => some '"'
  | '\\' => some '\\'
  | _ => none

/-- The character with a code point. Surrogates are no characters. -/
def charOfCodePoint? (n : Nat) : Option Char :=
  if n.isValidChar then some (Char.ofNat n) else none

/-- Goes on with an escape at a character: the character that the escape stands for, if it ends
here, and the new state. -/
def Escape.step (c : Char) : Escape → Option (Option Char × Escape)
  | backslash =>
    match c with
    | 'u' => some (Option.none, codePoint 4 0)
    | 'U' => some (Option.none, codePoint 8 0)
    | c => (escaped? c).map fun c => (some c, none)
  | codePoint left value => do
    let value := value * 16 + (← Text.digitValue? c)
    if left ≤ 1 then return (some (← charOfCodePoint? value), none)
    else return (Option.none, codePoint (left - 1) value)
  | none | lineEnd | gap => Option.none

/-- Puts a character in front of what was read. -/
def consRead (c : Char) (read : Option (Text × Text)) : Option (Text × Text) :=
  read.map fun (value, rest) => (c :: value, rest)

/-- Reads a string up to its closing quotation mark. -/
def readBasic (escape : Escape) : Reader Text
  | [] => none
  | c :: rest =>
    match escape with
    | .none =>
      if c = '"' then some ([], rest)
      else if c = '\\' then readBasic .backslash rest
      else if isPlain c then consRead c (readBasic .none rest)
      else none
    | escape =>
      match escape.step c with
      | some (some c, escape) => consRead c (readBasic escape rest)
      | some (none, escape) => readBasic escape rest
      | none => none

/-- Reads a string up to its closing apostrophe. -/
def readLiteral : Reader Text
  | [] => none
  | c :: rest =>
    if c = '\'' then some ([], rest)
    else if isPlain c then consRead c (readLiteral rest)
    else none

/-- Whether two more marks follow. -/
def closes (mark : Char) (t : Text) : Bool := [mark, mark].isPrefixOf t

/-- The marks, at most two, that belong to the string although they follow three closing ones. -/
def innerMarks (mark : Char) (t : Text) : Text × Text :=
  let count := min 2 (t.takeWhile (· = mark)).length
  (t.take count, t.drop count)

/-- Reads a string up to its three closing quotation marks. -/
def readLongBasic (escape : Escape) : Reader Text
  | [] => none
  | c :: rest =>
    let plain (inGap : Bool) : Option (Text × Text) :=
      let escape := if inGap then Escape.gap else .none
      if c = '"' then
        if closes '"' rest then some (innerMarks '"' (rest.drop 2))
        else consRead c (readLongBasic .none rest)
      else if c = '\\' then readLongBasic .backslash rest
      else if c = '\r' then
        if rest.head? = some '\n' then readLongBasic escape rest else none
      else if inGap && (c = '\n' || isSpace c) then readLongBasic .gap rest
      else if c = '\n' || isPlain c then consRead c (readLongBasic .none rest)
      else none
    let lineEnd : Option (Text × Text) :=
      if c = '\n' then readLongBasic .gap rest
      else if isSpace c || (c = '\r' && rest.head? = some '\n') then readLongBasic .lineEnd rest
      else none
    match escape with
    | .none => plain false
    | .gap => plain true
    | .lineEnd => lineEnd
    | escape =>
      match escape, escape.step c with
      | _, some (some c, escape) => consRead c (readLongBasic escape rest)
      | _, some (none, escape) => readLongBasic escape rest
      | .backslash, none => lineEnd
      | _, none => none

/-- Reads a string up to its three closing apostrophes. -/
def readLongLiteral : Reader Text
  | [] => none
  | c :: rest =>
    if c = '\'' && closes '\'' rest then some (innerMarks '\'' (rest.drop 2))
    else if c = '\r' then if rest.head? = some '\n' then readLongLiteral rest else none
    else if c = '\n' || isPlain c then consRead c (readLongLiteral rest)
    else none

/-- Reads a string of any kind. -/
def readString (t : Text) : Option (String × Text) :=
  let read := match t with
    | '"' :: '"' :: '"' :: rest => readLongBasic .none ((skipBreak? rest).getD rest)
    | '"' :: rest => readBasic .none rest
    | '\'' :: '\'' :: '\'' :: rest => readLongLiteral ((skipBreak? rest).getD rest)
    | '\'' :: rest => readLiteral rest
    | _ => none
  read.map fun (value, rest) => (String.ofList value, rest)

end Toml

end ScopeTracker
