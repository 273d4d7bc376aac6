import ScopeTracker.Text.Lines

/-!
# Cutting a text at a character

`splitAtChar` cuts a text at every place where a character stands. Dotted names and paths are
read with it.
-/

namespace ScopeTracker

namespace Text

/-- The parts of a text between the places where a character stands. There is always at least
one part. -/
def splitAtChar (separator : Char) : Text → List Text
  | [] => [[]]
  | c :: rest =>
    if c = separator then [] :: splitAtChar separator rest
    else prependToFirst [c] (splitAtChar separator rest)

/-- A text in which the ASCII letters are small ones. -/
def asciiLower (t : Text) : Text := t.map Char.toLower

end Text

end ScopeTracker
