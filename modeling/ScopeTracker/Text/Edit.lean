import ScopeTracker.Text.Lines
import ScopeTracker.Text.Position

/-!
# Edits

An edit replaces a range of a text. The edits of one batch all give their ranges in the text
before the batch; they are carried out from the last start to the first, so that no edit moves
the ground under a later one.
-/

namespace ScopeTracker

/-- The replacement of a range by a text. -/
structure Edit where
  range : Range
  text : Text
deriving DecidableEq, Repr, Inhabited

namespace Edit

/-- An insertion at a position. -/
def insert (position : Position) (text : Text) : Edit := ⟨.empty position, text⟩

/-- The number of line breaks in the new text. -/
def insertedBreaks (edit : Edit) : Nat := edit.text.countLineBreaks

/-- The number of lines by which the ends of the replaced range lie apart. -/
def removedBreaks (edit : Edit) : Nat := edit.range.stop.line - edit.range.start.line

/-- Whether the first edit may be carried out before the second: it does not start above it. -/
def notAbove (first second : Edit) : Bool := second.range.start ≤ first.range.start

/-- A batch sorted by descending start. Edits with one start keep their order. -/
def sortDescending (edits : List Edit) : List Edit := edits.mergeSort notAbove

/-- A batch whose starts do not ascend. -/
def Descending (edits : List Edit) : Prop := edits.Pairwise fun a b => notAbove a b

instance (edits : List Edit) : Decidable (Descending edits) :=
  inferInstanceAs (Decidable (List.Pairwise _ _))

end Edit

end ScopeTracker
