import ScopeTracker.Text.Lines

/-!
# Columns of a line

A column inside the library counts the UTF-8 bytes before it; editors count UTF-16 code units.
`splitAtColumn` cuts a line at the last character boundary that is not behind a byte column, and
`takeUnits` keeps the shortest run of characters that reaches a UTF-16 column.

Main statements: cutting a line loses nothing (`takeColumn_append_dropColumn`).
-/

namespace ScopeTracker

namespace Text

/-- The length of a text in UTF-8 bytes. -/
def byteLength : Text → Nat
  | [] => 0
  | c :: rest => c.utf8Size + byteLength rest

/-- The number of UTF-16 code units of a character: two above the basic plane. -/
def charUnits (c : Char) : Nat := if c.toNat < 0x10000 then 1 else 2

/-- The length of a text in UTF-16 code units. -/
def unitLength : Text → Nat
  | [] => 0
  | c :: rest => charUnits c + unitLength rest

/-- Cuts a text at the last character boundary that has at most `column` bytes before it. -/
def splitAtColumn : Text → Nat → Text × Text
  | [], _ => ([], [])
  | c :: rest, column =>
    if c.utf8Size ≤ column then
      let (before, after) := splitAtColumn rest (column - c.utf8Size)
      (c :: before, after)
    else ([], c :: rest)

/-- The part of a line before a byte column. -/
def takeColumn (t : Text) (column : Nat) : Text := (splitAtColumn t column).1

/-- The part of a line from a byte column on. -/
def dropColumn (t : Text) (column : Nat) : Text := (splitAtColumn t column).2

/-- The last character boundary at or before a byte column. -/
def floorColumn (t : Text) (column : Nat) : Nat := byteLength (takeColumn t column)

/-- Whether a byte column lies on a character boundary of the line. -/
def isBoundary (t : Text) (column : Nat) : Bool := floorColumn t column = column

/-- The text between two byte columns, if both lie on character boundaries in order. -/
def slice? (t : Text) (start stop : Nat) : Option Text :=
  if start ≤ stop && isBoundary t start && isBoundary t stop then
    some (dropColumn (takeColumn t stop) start)
  else none

/-- The shortest run of characters that has at least `units` UTF-16 code units, or the whole
line if it is shorter than that. -/
def takeUnits : Text → Nat → Text
  | [], _ => []
  | _ :: _, 0 => []
  | c :: rest, units => c :: takeUnits rest (units - charUnits c)

theorem byteLength_eq_zero_iff {t : Text} : t.byteLength = 0 ↔ t = [] := by
  cases t with
  | nil => simp [byteLength]
  | cons c rest =>
    have hsize := Char.utf8Size_pos c
    simp only [byteLength, reduceCtorEq, iff_false]
    omega

/-! ## Cutting a line loses nothing -/

theorem takeColumn_append_dropColumn (t : Text) (column : Nat) :
    t.takeColumn column ++ t.dropColumn column = t := by
  unfold takeColumn dropColumn
  fun_induction splitAtColumn t column with
  | case1 => rfl
  | case2 c rest column _ before after h ih => simpa [h] using ih
  | case3 => rfl

theorem mem_of_mem_takeColumn {t : Text} {column : Nat} {c : Char}
    (h : c ∈ t.takeColumn column) : c ∈ t := by
  rw [← takeColumn_append_dropColumn t column]
  exact List.mem_append_left _ h

theorem mem_of_mem_dropColumn {t : Text} {column : Nat} {c : Char}
    (h : c ∈ t.dropColumn column) : c ∈ t := by
  rw [← takeColumn_append_dropColumn t column]
  exact List.mem_append_right _ h

theorem BreakFree.takeColumn {t : Text} (h : t.BreakFree) (column : Nat) :
    (t.takeColumn column).BreakFree := fun c hc => h c (mem_of_mem_takeColumn hc)

theorem BreakFree.dropColumn {t : Text} (h : t.BreakFree) (column : Nat) :
    (t.dropColumn column).BreakFree := fun c hc => h c (mem_of_mem_dropColumn hc)

end Text

end ScopeTracker
