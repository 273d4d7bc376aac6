import ScopeTracker.Proofs.Text.RawText
import ScopeTracker.Proofs.Text.Splice

/-!
# Edits of the flat text

A buffer keeps its lines apart, and an edit glues what is left of the first and of the last touched
line onto the lines of the new text. Seen from the whole text, with a line feed between lines, all
of this is one replacement of characters: a position is an offset in bytes, and a range is what lies
between two offsets.

Main statement: an edit replaces what lies between the offsets of its clamped range by its text with
plain line feeds, on whatever range it is given (`text_applyEdit`).
-/

namespace ScopeTracker

namespace Text

variable {above below lines : List Text}

/-- A text with a line feed in place of each break. -/
def withFeeds : Text → Text
  | [] => []
  | '\r' :: '\n' :: rest => '\n' :: withFeeds rest
  | c :: rest => (if isBreak c then '\n' else c) :: withFeeds rest

/-! ## Joining lines -/

theorem joinLines_singleton (line : Text) : joinLines [line] = line :=
  List.intercalate_singleton

theorem joinLines_prependToFirst (h : lines ≠ []) (t : Text) :
    joinLines (prependToFirst t lines) = t ++ joinLines lines := by
  cases lines with
  | nil => exact absurd rfl h
  | cons first rest =>
    by_cases hrest : rest = []
    · rw [hrest, prependToFirst, joinLines_singleton, joinLines_singleton]
    · rw [prependToFirst, joinLines_cons hrest, joinLines_cons hrest, List.append_assoc]

/-- Lines that are glued make the texts that they make by themselves, one behind the other. -/
theorem joinLines_glue (habove : above ≠ []) (hbelow : below ≠ []) :
    joinLines (glue above below) = joinLines above ++ joinLines below := by
  induction above with
  | nil => exact absurd rfl habove
  | cons line rest ih =>
    by_cases hrest : rest = []
    · rw [hrest, glue, joinLines_prependToFirst hbelow, joinLines_singleton]
    · rw [glue_cons hrest, joinLines_cons (glue_ne_nil hbelow rest), ih hrest, joinLines_cons hrest,
        List.append_assoc, List.cons_append]

/-- Each line but the last one is followed by its line feed. -/
theorem joinLines_concat (above : List Text) (last : Text) :
    joinLines (above ++ [last]) = (above.flatMap fun line => line ++ ['\n']) ++ last := by
  induction above with
  | nil => exact joinLines_singleton last
  | cons line rest ih =>
    rw [List.cons_append, joinLines_cons (by simp), ih, List.flatMap_cons]
    simp only [List.append_assoc, List.cons_append, List.nil_append]

/-- Cutting a text into lines and joining them makes all breaks alike. -/
theorem joinLines_splitLines (t : Text) : joinLines t.splitLines = t.withFeeds := by
  fun_induction splitLines t with
  | case1 => rfl
  | case2 rest ih => rw [joinLines_cons (splitLines_ne_nil rest), ih, withFeeds, List.nil_append]
  | case3 c rest hlone hc ih =>
    rw [joinLines_cons (splitLines_ne_nil rest), ih, withFeeds.eq_3 _ _ hlone, if_pos hc,
      List.nil_append]
  | case4 c rest hlone hc ih =>
    rw [joinLines_prependToFirst (splitLines_ne_nil rest), ih, withFeeds.eq_3 _ _ hlone, if_neg hc,
      List.singleton_append]

theorem return_not_mem_withFeeds (t : Text) : '\r' ∉ t.withFeeds := by
  fun_induction withFeeds t with
  | case1 => exact List.not_mem_nil
  | case2 rest ih => simp [ih]
  | case3 c rest _ ih =>
    have hc : (if isBreak c then '\n' else c) ≠ '\r' := by
      split
      · decide
      · rename_i hother
        rintro rfl
        exact hother rfl
    simp [ih, hc.symm]

/-- All breaks are feeds, and there are as many as before. -/
theorem count_feed_withFeeds (t : Text) : t.withFeeds.count '\n' = t.countLineBreaks := by
  fun_induction withFeeds t with
  | case1 => rfl
  | case2 rest ih => rw [countLineBreaks_crlf, List.count_cons_self, ih]
  | case3 c rest hlone ih =>
    by_cases hc : isBreak c
    · rw [if_pos hc, countLineBreaks_break hc fun more h => hlone more h, List.count_cons_self, ih]
    · have hne : c ≠ '\n' := by
        rintro rfl
        exact hc rfl
      rw [if_neg hc, countLineBreaks_other (by simpa using hc), List.count_cons_of_ne hne, ih]

/-! ## Boundaries -/

theorem byteLength_append (before after : Text) :
    (before ++ after).byteLength = before.byteLength + after.byteLength := by
  induction before with
  | nil => simp [byteLength]
  | cons c before ih => rw [List.cons_append, byteLength, byteLength, ih, Nat.add_assoc]

theorem isBoundary_iff {t : Text} {column : Nat} :
    t.isBoundary column ↔ (t.takeColumn column).byteLength = column :=
  decide_eq_true_iff

theorem isBoundary_append (before after : Text) :
    (before ++ after).isBoundary before.byteLength := by
  rw [isBoundary_iff, takeColumn, splitAtColumn_append]

theorem isBoundary_floorColumn (t : Text) (column : Nat) : t.isBoundary (t.floorColumn column) := by
  have h := isBoundary_append (t.takeColumn column) (t.dropColumn column)
  rwa [takeColumn_append_dropColumn] at h

theorem isBoundary_byteLength (t : Text) : t.isBoundary t.byteLength := by
  have h := isBoundary_append t []
  rwa [List.append_nil] at h

theorem le_byteLength_of_isBoundary {t : Text} {column : Nat} (h : t.isBoundary column) :
    column ≤ t.byteLength := by
  have hlength := congrArg byteLength (takeColumn_append_dropColumn t column)
  rw [byteLength_append, isBoundary_iff.mp h] at hlength
  omega

end Text

namespace Buffer

variable {buffer : Buffer} {position : Position}

/-! ## Places -/

/-- A position that cuts a line of the document, between two characters or at one of its ends. -/
structure HasPlace (buffer : Buffer) (position : Position) : Prop where
  line_lt : position.line < buffer.lineCount
  boundary : (buffer.line position.line).isBoundary position.column

/-- The number of bytes before a line in the whole text. Each line above ends with a line feed. -/
def lineOffset (buffer : Buffer) (index : Nat) : Nat :=
  Text.byteLength ((buffer.lines.take index).flatMap fun line => line ++ ['\n'])

/-- The number of bytes before a position in the whole text. -/
def offset (buffer : Buffer) (position : Position) : Nat :=
  buffer.lineOffset position.line + position.column

theorem hasPlace_clamp (buffer : Buffer) (position : Position) :
    buffer.HasPlace (buffer.clamp position) := by
  have hlast := buffer.lastLine_add_one
  unfold clamp
  split
  · exact ⟨by simp only [endPosition]; omega, Text.isBoundary_byteLength _⟩
  · exact ⟨by simp only; omega, Text.isBoundary_floorColumn _ _⟩

theorem hasPlace_clampRange (buffer : Buffer) (range : Range) :
    buffer.HasPlace (buffer.clampRange range).start ∧
      buffer.HasPlace (buffer.clampRange range).stop := by
  refine ⟨buffer.hasPlace_clamp range.start, ?_⟩
  rw [clampRange, Position.max_def]
  split
  · exact buffer.hasPlace_clamp range.start
  · exact buffer.hasPlace_clamp range.stop

theorem clampRange_ordered (buffer : Buffer) (range : Range) :
    (buffer.clampRange range).start ≤ (buffer.clampRange range).stop :=
  Position.le_max_right _ _

theorem lineOffset_succ {index : Nat} (h : index < buffer.lineCount) :
    buffer.lineOffset (index + 1) =
      buffer.lineOffset index + ((buffer.line index).byteLength + 1) := by
  have hfeed : Text.byteLength ['\n'] = 1 := by decide
  rw [lineOffset, lineOffset, List.take_add_one, buffer.getElem?_lines h, Option.toList_some,
    List.flatMap_append, Text.byteLength_append, List.flatMap_singleton, Text.byteLength_append,
    hfeed]

theorem lineOffset_mono (buffer : Buffer) {index other : Nat} (h : index ≤ other) :
    buffer.lineOffset index ≤ buffer.lineOffset other := by
  obtain ⟨between, hbetween⟩ : buffer.lines.take index <+: buffer.lines.take other :=
    List.take_prefix_take_left h
  rw [lineOffset, lineOffset, ← hbetween, List.flatMap_append, Text.byteLength_append]
  exact Nat.le_add_right _ _

/-- A place further down is further on in the text. -/
theorem offset_le {other : Position} (hplace : buffer.HasPlace position) (hle : position ≤ other) :
    buffer.offset position ≤ buffer.offset other := by
  rw [offset, offset]
  rcases Position.le_def.mp hle with hlt | ⟨heq, hcolumn⟩
  · -- the line of the place ends before the other line starts
    have hline := lineOffset_succ hplace.line_lt
    have hbelow := buffer.lineOffset_mono (show position.line + 1 ≤ other.line from hlt)
    have hcolumn := Text.le_byteLength_of_isBoundary hplace.boundary
    omega
  · rw [heq]
    omega

/-! ## The text on both sides of a place -/

/-- The lines of the text before a position. -/
def linesBefore (buffer : Buffer) (position : Position) : List Text :=
  buffer.lines.take position.line ++ [(buffer.line position.line).takeColumn position.column]

/-- The lines of the text after a position. -/
def linesAfter (buffer : Buffer) (position : Position) : List Text :=
  (buffer.line position.line).dropColumn position.column :: buffer.lines.drop (position.line + 1)

theorem linesBefore_ne_nil (buffer : Buffer) (position : Position) :
    buffer.linesBefore position ≠ [] := by
  simp [linesBefore]

theorem linesAfter_ne_nil (buffer : Buffer) (position : Position) :
    buffer.linesAfter position ≠ [] := by
  simp [linesAfter]

/-- The two parts of the line that is cut go together again. -/
theorem glue_linesBefore_linesAfter (h : position.line < buffer.lineCount) :
    Text.glue (buffer.linesBefore position) (buffer.linesAfter position) = buffer.lines := by
  have hrest : buffer.line position.line :: buffer.lines.drop (position.line + 1) =
      buffer.lines.drop position.line := by
    rw [List.drop_eq_getElem_cons h, line_eq, List.getElem?_eq_getElem h, Option.getD_some]
  rw [linesBefore, linesAfter, Text.glue_concat, Text.takeColumn_append_dropColumn, hrest,
    List.take_append_drop]

theorem text_eq (h : position.line < buffer.lineCount) :
    buffer.text = Text.joinLines (buffer.linesBefore position) ++
      Text.joinLines (buffer.linesAfter position) := by
  rw [text, ← glue_linesBefore_linesAfter h]
  exact Text.joinLines_glue (buffer.linesBefore_ne_nil _) (buffer.linesAfter_ne_nil _)

theorem byteLength_linesBefore (h : buffer.HasPlace position) :
    (Text.joinLines (buffer.linesBefore position)).byteLength = buffer.offset position := by
  rw [linesBefore, Text.joinLines_concat, Text.byteLength_append,
    Text.isBoundary_iff.mp h.boundary, offset, lineOffset]

/-- Cutting the whole text at an offset gives the text before the place and the text after it. -/
theorem splitAtColumn_text (h : buffer.HasPlace position) :
    buffer.text.splitAtColumn (buffer.offset position) =
      (Text.joinLines (buffer.linesBefore position),
        Text.joinLines (buffer.linesAfter position)) := by
  rw [text_eq h.line_lt, ← byteLength_linesBefore h, Text.splitAtColumn_append]

theorem isBoundary_offset (h : buffer.HasPlace position) :
    buffer.text.isBoundary (buffer.offset position) := by
  rw [text_eq h.line_lt, ← byteLength_linesBefore h]
  exact Text.isBoundary_append _ _

/-! ## Edits -/

/-- The lines after an edit are those before, in and after it, glued. -/
theorem lines_applyEdit_eq_glue (buffer : Buffer) (edit : Edit) :
    (buffer.applyEdit edit).lines =
      Text.glue (buffer.linesBefore (buffer.clampRange edit.range).start)
        (Text.glue edit.text.splitLines
          (buffer.linesAfter (buffer.clampRange edit.range).stop)) := by
  simp only [applyEdit, replacement, linesBefore, linesAfter]
  rw [Text.appendToLast_append (Text.prependToFirst_ne_nil _ _),
    Text.glue_prependToFirst edit.text.splitLines_ne_nil]
  obtain ⟨next, lower, hglued⟩ := List.exists_cons_of_ne_nil
    (Text.glue_ne_nil (buffer.linesAfter_ne_nil (buffer.clampRange edit.range).stop)
      edit.text.splitLines)
  rw [linesAfter] at hglued
  rw [hglued, Text.glue_concat]
  rfl

/-- An edit of the lines is a replacement in the whole text. Its clamped range has its ends in
order, and both are places of the document, so the lines and the text are cut between characters.
The text before the start and the text after the end stay, and what is put between them has a line
feed for each break. The lines of the new text hold no break, and it is cut into these lines again.
-/
theorem text_applyEdit (buffer : Buffer) (edit : Edit) :
    let range := buffer.clampRange edit.range
    let edited := buffer.applyEdit edit
    (range.start ≤ range.stop ∧ buffer.HasPlace range.start ∧ buffer.HasPlace range.stop) ∧
      (buffer.offset range.start ≤ buffer.offset range.stop ∧
        buffer.text.isBoundary (buffer.offset range.start) ∧
        buffer.text.isBoundary (buffer.offset range.stop)) ∧
      edited.text = buffer.text.takeColumn (buffer.offset range.start) ++
        (edit.text.withFeeds ++ buffer.text.dropColumn (buffer.offset range.stop)) ∧
      edited.lineCount =
        buffer.lineCount - (range.stop.line - range.start.line) + edit.insertedBreaks ∧
      (0 < edited.lineCount ∧ ∀ line ∈ edited.lines, '\r' ∉ line ∧ '\n' ∉ line) ∧
      ofText edited.text = edited := by
  intro range edited
  obtain ⟨hstart, hstop⟩ := buffer.hasPlace_clampRange edit.range
  have hordered : range.start ≤ range.stop := buffer.clampRange_ordered edit.range
  have htext : edited.text = buffer.text.takeColumn (buffer.offset range.start) ++
      (edit.text.withFeeds ++ buffer.text.dropColumn (buffer.offset range.stop)) := by
    have hlower := Text.glue_ne_nil (buffer.linesAfter_ne_nil range.stop) edit.text.splitLines
    rw [text, lines_applyEdit_eq_glue, Text.joinLines_glue (buffer.linesBefore_ne_nil _) hlower,
      Text.joinLines_glue edit.text.splitLines_ne_nil (buffer.linesAfter_ne_nil _),
      Text.joinLines_splitLines, Text.takeColumn, Text.dropColumn, splitAtColumn_text hstart,
      splitAtColumn_text hstop]
  have hcount : edited.lineCount =
      buffer.lineCount - (range.stop.line - range.start.line) + edit.insertedBreaks := by
    have hcounts : edited.lineCount + (range.stop.line - range.start.line) =
        buffer.lineCount + edit.insertedBreaks := buffer.lineCount_applyEdit edit
    have hbelow : range.stop.line < buffer.lineCount := hstop.line_lt
    omega
  refine ⟨⟨hordered, hstart, hstop⟩, ⟨offset_le hstart hordered, isBoundary_offset hstart,
    isBoundary_offset hstop⟩, htext, hcount, ⟨edited.lineCount_pos, ?_⟩, edited.ofText_text⟩
  intro line hline
  have hfree := edited.breakFree line hline
  exact ⟨fun h => absurd (hfree _ h) (by decide), fun h => absurd (hfree _ h) (by decide)⟩

/-- The range starts inside a character and ends on a line above, so the text is put in before that
character, and its one break becomes a line feed. -/
example : ((ofText ['a', '\n', 'b', 'é']).applyEdit ⟨⟨⟨1, 2⟩, ⟨0, 0⟩⟩, ['x', '\r', '\n']⟩).text =
    ['a', '\n', 'b', 'x', '\n', 'é'] := by
  decide

end Buffer

end ScopeTracker
