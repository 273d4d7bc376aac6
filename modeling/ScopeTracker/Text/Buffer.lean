import ScopeTracker.Text.Column
import ScopeTracker.Text.Edit

/-!
# Text buffers

A buffer holds the lines of a document. Every position is accepted and clamped to the document:
a line past the end becomes the end of the document, a column past the end of its line becomes
the end of the line, and a column inside a character becomes the start of that character.
-/

namespace ScopeTracker

/-- The lines of a document: at least one, and none of them holds a line break. -/
structure Buffer where
  lines : List Text
  lines_ne_nil : lines ≠ []
  breakFree : ∀ line ∈ lines, Text.BreakFree line
deriving DecidableEq

/-- A position in UTF-16 code units, as editors send and expect it. -/
structure Utf16Position where
  line : Nat
  character : Nat
deriving DecidableEq, Repr, Inhabited

/-- A range in UTF-16 code units. -/
structure Utf16Range where
  start : Utf16Position
  stop : Utf16Position
deriving DecidableEq, Repr, Inhabited

namespace Buffer

/-- The buffer that holds a text. -/
def ofText (text : Text) : Buffer :=
  ⟨text.splitLines, text.splitLines_ne_nil, text.breakFree_of_mem_splitLines⟩

instance : Inhabited Buffer := ⟨ofText []⟩

/-- The whole text, with a line feed between lines. -/
def text (buffer : Buffer) : Text := Text.joinLines buffer.lines

/-- The number of lines. An empty document has one. -/
def lineCount (buffer : Buffer) : Nat := buffer.lines.length

/-- The index of the last line. -/
def lastLine (buffer : Buffer) : Nat := buffer.lineCount - 1

/-- The text of a line without its break, empty for a line past the end. -/
def line (buffer : Buffer) (index : Nat) : Text := buffer.lines.getD index []

/-- The end of the document. -/
def endPosition (buffer : Buffer) : Position :=
  ⟨buffer.lastLine, (buffer.line buffer.lastLine).byteLength⟩

/-- The position of the document that stands for any position. -/
def clamp (buffer : Buffer) (position : Position) : Position :=
  if buffer.lastLine < position.line then buffer.endPosition
  else ⟨position.line, (buffer.line position.line).floorColumn position.column⟩

/-- The range of the document that stands for any range. An end before the start moves to the
start. -/
def clampRange (buffer : Buffer) (range : Range) : Range :=
  let start := buffer.clamp range.start
  ⟨start, max (buffer.clamp range.stop) start⟩

/-! ## Edits -/

theorem breakFree_line (buffer : Buffer) (index : Nat) : (buffer.line index).BreakFree := by
  unfold line
  rw [List.getD_eq_getElem?_getD]
  cases h : buffer.lines[index]? with
  | none => simp [Text.BreakFree]
  | some line => exact buffer.breakFree line (List.mem_of_getElem? h)

/-- The lines that an edit puts in place of the lines it touches: the new text between what is
left of the first and of the last touched line. -/
def replacement (buffer : Buffer) (range : Range) (text : Text) : List Text :=
  Text.appendToLast ((buffer.line range.stop.line).dropColumn range.stop.column)
    (Text.prependToFirst ((buffer.line range.start.line).takeColumn range.start.column)
      text.splitLines)

theorem breakFree_replacement (buffer : Buffer) (range : Range) (text : Text) :
    ∀ line ∈ buffer.replacement range text, Text.BreakFree line :=
  Text.breakFree_of_mem_appendToLast ((buffer.breakFree_line _).dropColumn _)
    (Text.breakFree_of_mem_prependToFirst ((buffer.breakFree_line _).takeColumn _)
      text.breakFree_of_mem_splitLines)

/-- Carries out an edit on the clamped range. -/
def applyEdit (buffer : Buffer) (edit : Edit) : Buffer :=
  let range := buffer.clampRange edit.range
  { lines := buffer.lines.take range.start.line ++
      (buffer.replacement range edit.text ++ buffer.lines.drop (range.stop.line + 1))
    lines_ne_nil := by simp [replacement, Text.appendToLast_ne_nil]
    breakFree := by
      intro line hline
      rcases List.mem_append.1 hline with h | h
      · exact buffer.breakFree line (List.mem_of_mem_take h)
      · rcases List.mem_append.1 h with h | h
        · exact buffer.breakFree_replacement _ _ line h
        · exact buffer.breakFree line (List.mem_of_mem_drop h) }

/-- Carries out a batch of edits that all refer to the text before the batch. -/
def applyEdits (buffer : Buffer) (edits : List Edit) : Buffer :=
  (Edit.sortDescending edits).foldl applyEdit buffer

/-! ## UTF-16 positions -/

/-- The byte position of a UTF-16 position. A position inside a surrogate pair becomes the end
of its character, and one past the document or its line the end of that. -/
def positionOfUtf16 (buffer : Buffer) (position : Utf16Position) : Position :=
  if buffer.lastLine < position.line then buffer.endPosition
  else ⟨position.line, ((buffer.line position.line).takeUnits position.character).byteLength⟩

/-- The UTF-16 position of a byte position, clamped first. -/
def positionToUtf16 (buffer : Buffer) (position : Position) : Utf16Position :=
  let position := buffer.clamp position
  ⟨position.line, ((buffer.line position.line).takeColumn position.column).unitLength⟩

/-- The byte range of a UTF-16 range. The ends are converted one by one and not put in order. -/
def rangeOfUtf16 (buffer : Buffer) (range : Utf16Range) : Range :=
  ⟨buffer.positionOfUtf16 range.start, buffer.positionOfUtf16 range.stop⟩

/-- The UTF-16 range of a byte range. -/
def rangeToUtf16 (buffer : Buffer) (range : Range) : Utf16Range :=
  ⟨buffer.positionToUtf16 range.start, buffer.positionToUtf16 range.stop⟩

end Buffer

end ScopeTracker
