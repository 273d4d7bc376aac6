import ScopeTracker.Text.Lines

/-!
# Patterns

The rules of a grammar recognise a piece of text by a pattern: a sequence of character classes,
each taken a number of times, as often as possible and less often where the rest of the pattern
would not match otherwise.
-/

namespace ScopeTracker

/-- A class of characters. -/
inductive CharClass where
  | only (c : Char)
  | between (first last : Char)
  | allBut (c : Char)
deriving DecidableEq, Repr

/-- Whether a character is in a class. -/
def CharClass.contains : CharClass → Char → Bool
  | only c, d => c == d
  | between first last, d => first ≤ d && d ≤ last
  | allBut c, d => c != d

/-- A class taken at least `least` times, and at most `most` times if that is given. -/
structure Piece where
  chars : CharClass
  least : Nat := 1
  most : Option Nat := some 1
deriving DecidableEq, Repr

/-- The longest run of the piece's characters at the start of a text that it may take. -/
def Piece.longest (piece : Piece) (t : Text) : Nat :=
  let run := (t.takeWhile piece.chars.contains).length
  (piece.most.map (min run)).getD run

/-- One character. -/
def Piece.char (c : Char) : Piece := { chars := .only c }

/-- A sequence of pieces. -/
abbrev Pattern := List Piece

namespace Pattern

/-- The characters of a word, one after the other. -/
def word (w : String) : Pattern := w.toList.map .char

/-- What each piece takes from the start of a text if the whole pattern matches there. Each
piece takes as much as it can leave the rest of the pattern a match. -/
def matchPieces : Pattern → Text → Option (List Text)
  | [], _ => some []
  | piece :: pieces, t =>
    (List.range' piece.least (piece.longest t + 1 - piece.least)).reverse.findSome? fun count =>
      (matchPieces pieces (t.drop count)).map (t.take count :: ·)

end Pattern

end ScopeTracker
