import ScopeTracker.Text.Digits
import ScopeTracker.Text.Split

/-!
# Sets of characters

A set of characters is a list of ranges of code points. The tables of properties of characters
are written as lines of such ranges in base 16: `41-5a` for a range, `5f` for a single character.
-/

namespace ScopeTracker

namespace Text

/-- A set of characters: ranges of code points with their first and last one. -/
structure CharSet where
  ranges : List (Nat × Nat)
deriving DecidableEq, Repr, Inhabited

namespace CharSet

/-- Whether a set has a character. -/
def contains (set : CharSet) (c : Char) : Bool :=
  set.ranges.any fun (first, last) => first ≤ c.toNat && c.toNat ≤ last

/-- The words of the lines of a table. -/
def wordsOf (table : List String) : List Text :=
  (table.flatMap fun line => splitAtChar ' ' line.toList).filter (!·.isEmpty)

/-- The number that a word of a table stands for. -/
def codePoint (word : Text) : Nat := valueOfDigits 16 word

/-- The range that a word of a table stands for. -/
def rangeOf (word : Text) : Nat × Nat :=
  match splitAtChar '-' word with
  | [first, last] => (codePoint first, codePoint last)
  | _ => (codePoint word, codePoint word)

/-- The set that a table describes. -/
def ofTable (table : List String) : CharSet := ⟨(wordsOf table).map rangeOf⟩

end CharSet

end Text

end ScopeTracker
