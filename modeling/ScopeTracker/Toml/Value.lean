import ScopeTracker.Text.Digits

/-!
# TOML values

The values a TOML document is made of, and the characters that may stand as themselves in its
strings and comments.
-/

namespace ScopeTracker

/-- A TOML value. Floats and date-times are kept as text, since nothing is computed with them. -/
inductive Toml where
  | string (value : String)
  | integer (value : Int)
  | float (literal : String)
  | boolean (value : Bool)
  | dateTime (value : String)
  | array (elements : List Toml)
  | table (entries : List (String × Toml))

namespace Toml

instance : Inhabited Toml := ⟨table []⟩

/-- Reads the start of a text. The answer holds what is left of it. -/
abbrev Reader (α : Type) := Text → Option (α × Text)

/-- Whether a character is a space or a tab. -/
def isSpace (c : Char) : Bool := c = ' ' || c = '\t'

/-- Whether a character may stand as itself in a string or in a comment: a tab, or any character
that is not a control character of ASCII. -/
def isPlain (c : Char) : Bool := c = '\t' || (0x20 ≤ c.toNat && c.toNat ≠ 0x7F)

/-- What is left behind spaces and tabs. -/
def skipSpaces (t : Text) : Text := t.dropWhile isSpace

/-- What is left behind a line break, which is a line feed or a carriage return with one. -/
def skipBreak? : Text → Option Text
  | '\n' :: rest => some rest
  | '\r' :: '\n' :: rest => some rest
  | _ => none

/-- What is left of a text behind the rest of its line, in which only a comment may stand. -/
def skipLineEnd? (t : Text) : Option Text :=
  let t := skipSpaces t
  let t := match t with
    | '#' :: rest => rest.dropWhile isPlain
    | t => t
  if t.isEmpty then some [] else skipBreak? t

/-- What is left behind spaces, line breaks and comments. A carriage return alone is refused. -/
def skipFiller? (inComment : Bool) : Text → Option Text
  | [] => some []
  | '\n' :: rest => skipFiller? false rest
  | '\r' :: rest => if rest.head? = some '\n' then skipFiller? inComment rest else none
  | c :: rest =>
    if inComment then if isPlain c then skipFiller? true rest else none
    else if isSpace c then skipFiller? false rest
    else if c = '#' then skipFiller? true rest
    else some (c :: rest)

end Toml

end ScopeTracker
