/-!
# Positions and ranges

A position is a zero-based line and a byte column, ordered by line and then by column. A range
has two ends; nothing says that they are in order.
-/

namespace ScopeTracker

/-- A zero-based line and a byte column in that line. -/
structure Position where
  line : Nat
  column : Nat
deriving DecidableEq, Repr, Inhabited

namespace Position

instance : LE Position := ⟨fun a b => a.line < b.line ∨ a.line = b.line ∧ a.column ≤ b.column⟩

instance : LT Position := ⟨fun a b => a.line < b.line ∨ a.line = b.line ∧ a.column < b.column⟩

theorem le_def {a b : Position} :
    a ≤ b ↔ a.line < b.line ∨ a.line = b.line ∧ a.column ≤ b.column := Iff.rfl

theorem lt_def {a b : Position} :
    a < b ↔ a.line < b.line ∨ a.line = b.line ∧ a.column < b.column := Iff.rfl

instance (a b : Position) : Decidable (a ≤ b) := decidable_of_iff _ le_def.symm

instance (a b : Position) : Decidable (a < b) := decidable_of_iff _ lt_def.symm

/-- Lines are compared first, columns decide between positions on one line. -/
instance : Ord Position := ⟨fun a b => (compare a.line b.line).then (compare a.column b.column)⟩

/-- The later of two positions. -/
instance : Max Position := ⟨fun a b => if a ≤ b then b else a⟩

end Position

/-- A span between two positions. -/
structure Range where
  start : Position
  stop : Position
deriving DecidableEq, Repr, Inhabited

namespace Range

/-- The empty range at a position. -/
def empty (position : Position) : Range := ⟨position, position⟩

/-- The largest column a 64-bit position can have. It stands for the end of any line. -/
def lastColumn : Nat := 18446744073709551615

/-- The range of the whole lines `first` to `last`. -/
def lines (first last : Nat) : Range := ⟨⟨first, 0⟩, ⟨last, lastColumn⟩⟩

end Range

end ScopeTracker
