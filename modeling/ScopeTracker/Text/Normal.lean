import ScopeTracker.Text.CombiningClass
import ScopeTracker.Text.Composite

/-!
# The composed normal form

Two texts that read the same may be written with composites or with what these stand for, and
with marks in different orders. In the composed normal form (normalization form C) the marks
behind a character are in the order of their classes, and everything that can be composed is.

The few characters that are taken apart and never composed again are left as they are: texts that
are brought into the form here are free of them.
-/

namespace ScopeTracker

namespace Text

/-- Takes a character apart as far as it goes. Composites nest at most three deep. -/
def decomposeChar : Nat → Char → Text
  | 0, c => [c]
  | depth + 1, c =>
    match parts? c with
    | some (first, second) => decomposeChar depth first ++ [second]
    | none => [c]

/-- Puts a mark behind the marks of smaller classes or of its own, in a row of marks with the last
one first. A character without a class stays at the end. -/
def insertMark (c : Char) : Text → Text
  | [] => [c]
  | d :: rest =>
    if combiningClass c ≠ 0 && combiningClass c < combiningClass d then d :: insertMark c rest
    else c :: d :: rest

/-- Puts the marks behind each character in the order of their classes. -/
def orderMarks (t : Text) : Text := (t.foldl (fun read c => insertMark c read) []).reverse

/-- Composes a character with what follows it. `marks` are the marks between, the last one first;
one of the same or a larger class keeps a mark apart. -/
def composeFrom (base : Char) (marks : Text) : Text → Text
  | [] => base :: marks.reverse
  | c :: rest =>
    let isApart : Bool := match marks.head? with
      | some mark => combiningClass c ≤ combiningClass mark
      | none => false
    match if isApart then none else compose? base c with
    | some whole => composeFrom whole marks rest
    | none =>
      if combiningClass c = 0 then base :: marks.reverse ++ composeFrom c [] rest
      else composeFrom base (c :: marks) rest

/-- The composed normal form. -/
def normal (t : Text) : Text :=
  match orderMarks (t.flatMap (decomposeChar 4)) with
  | [] => []
  | c :: rest => composeFrom c [] rest

end Text

end ScopeTracker
