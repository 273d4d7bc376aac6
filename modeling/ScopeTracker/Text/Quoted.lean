import ScopeTracker.Text.Unprintable

/-!
# Quoted texts

How a text is shown in a message: in quotation marks, with escapes for the marks themselves, for
the backslash, and for what could not be seen.
-/

namespace ScopeTracker

namespace Text

/-- The escape of a character by its code point. -/
def codePointEscape (c : Char) : Text :=
  ['\\', 'u', '\x7b'] ++ digitsOf 16 c.toNat ++ ['\x7d']

/-- A character as it stands in a quoted text. -/
def quotedChar (c : Char) : Text :=
  match c with
  | '"' => ['\\', '"']
  | '\\' => ['\\', '\\']
  | '\n' => ['\\', 'n']
  | '\r' => ['\\', 'r']
  | '\t' => ['\\', 't']
  | '\x00' => ['\\', '0']
  | c => if isPrintable c then [c] else codePointEscape c

/-- A text in quotation marks. -/
def quoted (t : Text) : Text := '"' :: t.flatMap quotedChar ++ ['"']

end Text

end ScopeTracker
