import ScopeTracker.Text.Lines

/-!
# Blank characters

The characters that have the Unicode property `White_Space`. They are what is trimmed from the
ends of a text, and a text of nothing else is blank.
-/

namespace ScopeTracker

namespace Text

/-- Whether a character has the property `White_Space`. -/
def isBlankChar (c : Char) : Bool :=
  let n := c.toNat
  (0x9 ≤ n && n ≤ 0xD) || n = 0x20 || n = 0x85 || n = 0xA0 || n = 0x1680 ||
    (0x2000 ≤ n && n ≤ 0x200A) || n = 0x2028 || n = 0x2029 || n = 0x202F || n = 0x205F ||
    n = 0x3000

/-- A text without the blank characters at its ends. -/
def trimBlanks (t : Text) : Text :=
  ((t.dropWhile isBlankChar).reverse.dropWhile isBlankChar).reverse

/-- Whether nothing is left of a text when its blanks are trimmed. -/
def isBlank (t : Text) : Bool := t.all isBlankChar

end Text

end ScopeTracker
