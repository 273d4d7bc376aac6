import ScopeTracker.Text.Buffer
import ScopeTracker.Proofs.Text.Breaks

/-!
# What an edit leaves alone

The cache knows an edit by the lines of its range and by the breaks it puts in. This module says
what these tell about the buffer after the edit: how many lines it has, and which lines are
those of the buffer before.

Main statements: a batch leaves the lines above all its starts alone (`line_applyEdits_above`),
edits that put in as many breaks as they take out move no line (`line_applyEdits_of_balanced`),
and an insertion without breaks changes one line (`lines_applyEdit_insertion`).
-/

namespace ScopeTracker

namespace Position

theorem max_def (a b : Position) : max a b = if a ≤ b then b else a := rfl

theorem max_self (position : Position) : max position position = position :=
  ite_self position

theorem line_max (a b : Position) : (max a b).line = max a.line b.line := by
  rw [max_def]
  split
  · rename_i h
    rcases le_def.mp h with h | h <;> omega
  · rename_i h
    rw [le_def] at h
    omega

theorem le_max_right (a b : Position) : b ≤ max a b := by
  rw [max_def]
  split
  · exact .inr ⟨rfl, Nat.le_refl _⟩
  · rename_i h
    simp only [le_def] at h ⊢
    omega

theorem max_of_line_lt {a b : Position} (h : a.line < b.line) : max a b = b :=
  if_pos (le_def.mpr (.inl h))

theorem max_eq_left_of_le {a b : Position} (h : b ≤ a) : max a b = a := by
  rw [max_def]
  split
  · rename_i hab
    obtain ⟨line, column⟩ := a
    obtain ⟨line', column'⟩ := b
    simp only [le_def, mk.injEq] at *
    omega
  · rfl

theorem line_le_of_le {a b : Position} (h : a ≤ b) : a.line ≤ b.line := by
  rcases le_def.mp h with h | h <;> omega

end Position

namespace Buffer

variable (buffer : Buffer)

/-- A buffer is known by its text. -/
theorem ofText_text : ofText buffer.text = buffer := by
  cases buffer
  simp only [ofText, text, mk.injEq]
  exact Text.splitLines_joinLines ‹_› ‹_›

/-! ## Lines of clamped positions -/

theorem lineCount_pos : 0 < buffer.lineCount :=
  List.length_pos_iff.mpr buffer.lines_ne_nil

theorem lastLine_add_one : buffer.lastLine + 1 = buffer.lineCount := by
  have := buffer.lineCount_pos
  unfold lastLine
  omega

theorem line_clamp (position : Position) :
    (buffer.clamp position).line = min position.line buffer.lastLine := by
  unfold clamp
  split
  · simp only [endPosition]
    omega
  · simp only
    omega

theorem clamp_of_lt {position : Position} (h : position.line < buffer.lineCount) :
    buffer.clamp position =
      ⟨position.line, (buffer.line position.line).floorColumn position.column⟩ := by
  have hlast := buffer.lastLine_add_one
  rw [clamp, if_neg (by omega)]

theorem line_start_clampRange (range : Range) :
    (buffer.clampRange range).start.line = min range.start.line buffer.lastLine :=
  buffer.line_clamp range.start

theorem line_stop_clampRange (range : Range) :
    (buffer.clampRange range).stop.line =
      max (min range.stop.line buffer.lastLine) (min range.start.line buffer.lastLine) := by
  simp only [clampRange, Position.line_max, line_clamp]

theorem line_eq (index : Nat) : buffer.line index = buffer.lines[index]?.getD [] :=
  List.getD_eq_getElem?_getD

theorem getElem?_lines {index : Nat} (h : index < buffer.lineCount) :
    buffer.lines[index]? = some (buffer.line index) := by
  rw [line_eq, List.getElem?_eq_getElem h]
  rfl

/-! ## One edit -/

theorem length_replacement (range : Range) (text : Text) :
    (buffer.replacement range text).length = text.countLineBreaks + 1 := by
  rw [replacement, Text.length_appendToLast (Text.prependToFirst_ne_nil _ _),
    Text.length_prependToFirst text.splitLines_ne_nil, Text.length_splitLines]

/-- The lines taken out and put in make up for the change of the line count. -/
theorem lineCount_applyEdit (edit : Edit) :
    (buffer.applyEdit edit).lineCount +
        ((buffer.clampRange edit.range).stop.line - (buffer.clampRange edit.range).start.line) =
      buffer.lineCount + edit.insertedBreaks := by
  have hstart := buffer.line_start_clampRange edit.range
  have hstop := buffer.line_stop_clampRange edit.range
  have hlast := buffer.lastLine_add_one
  simp only [lineCount] at hlast
  simp only [lineCount, applyEdit, List.length_append, List.length_take, List.length_drop,
    length_replacement, Edit.insertedBreaks]
  omega

theorem line_applyEdit_above (edit : Edit) {index : Nat}
    (h : index < (buffer.clampRange edit.range).start.line) :
    (buffer.applyEdit edit).line index = buffer.line index := by
  have hstart := buffer.line_start_clampRange edit.range
  have hlast := buffer.lastLine_add_one
  simp only [lineCount] at hlast
  rw [line_eq, line_eq]
  simp only [applyEdit]
  rw [List.getElem?_append_left (by rw [List.length_take]; omega), List.getElem?_take_of_lt h]

theorem line_applyEdit_below (edit : Edit) (offset : Nat) :
    (buffer.applyEdit edit).line
        ((buffer.clampRange edit.range).start.line + edit.insertedBreaks + 1 + offset) =
      buffer.line ((buffer.clampRange edit.range).stop.line + 1 + offset) := by
  have hstart := buffer.line_start_clampRange edit.range
  have hlast := buffer.lastLine_add_one
  simp only [lineCount] at hlast
  have htake : (buffer.lines.take (buffer.clampRange edit.range).start.line).length =
      (buffer.clampRange edit.range).start.line := by
    rw [List.length_take]
    omega
  have hreplacement := buffer.length_replacement (buffer.clampRange edit.range) edit.text
  rw [line_eq, line_eq]
  simp only [applyEdit, Edit.insertedBreaks]
  rw [List.getElem?_append_right (by omega), List.getElem?_append_right (by omega),
    List.getElem?_drop]
  congr 2
  omega

theorem lt_lineCount_applyEdit {edit : Edit} {top : Nat} (hstart : top ≤ edit.range.start.line)
    (htop : top < buffer.lineCount) : top < (buffer.applyEdit edit).lineCount := by
  have hcount := buffer.lineCount_applyEdit edit
  have hfirst := buffer.line_start_clampRange edit.range
  have hstop := buffer.line_stop_clampRange edit.range
  have hlast := buffer.lastLine_add_one
  omega

theorem line_applyEdit_of_lt {edit : Edit} {top index : Nat}
    (hstart : top ≤ edit.range.start.line) (htop : top < buffer.lineCount) (h : index < top) :
    (buffer.applyEdit edit).line index = buffer.line index := by
  apply line_applyEdit_above
  have hlast := buffer.lastLine_add_one
  rw [line_start_clampRange]
  omega

end Buffer

/-! ## Insertions within a line -/

namespace Buffer

variable {buffer : Buffer} {edit : Edit} {range : Range} {place : Position}

/-- A range that ends on a line above its start stands for nothing but the place it starts at. -/
theorem clampRange_of_reversed (hreversed : range.stop.line < range.start.line)
    (hinside : range.start.line < buffer.lineCount) :
    buffer.clampRange range = .empty (buffer.clamp range.start) := by
  have hlast := buffer.lastLine_add_one
  have hlines : (buffer.clamp range.stop).line < (buffer.clamp range.start).line := by
    rw [line_clamp, line_clamp]
    omega
  simp only [clampRange, Range.empty, Position.max_of_line_lt hlines]

theorem line_lt_of_clampRange (hplace : buffer.clampRange range = .empty place) :
    place.line < buffer.lines.length := by
  have hline := buffer.line_start_clampRange range
  have hlast := buffer.lastLine_add_one
  rw [hplace] at hline
  simp only [Range.empty, lineCount] at hline hlast
  omega

/-- A text without breaks changes only the line that it is put into. -/
theorem lines_applyEdit_insertion (hplace : buffer.clampRange edit.range = .empty place)
    (hbreaks : edit.insertedBreaks = 0) :
    (buffer.applyEdit edit).lines = buffer.lines.set place.line
      ((buffer.line place.line).takeColumn place.column ++ edit.text ++
        (buffer.line place.line).dropColumn place.column) := by
  simp only [applyEdit, hplace, Range.empty, replacement]
  rw [Text.splitLines_of_countLineBreaks_eq_zero hbreaks, List.set_eq_take_append_cons_drop,
    if_pos (line_lt_of_clampRange hplace)]
  simp only [Text.prependToFirst, Text.appendToLast, List.cons_append, List.nil_append]

/-- Putting nothing in changes nothing. -/
theorem applyEdit_of_empty (hplace : buffer.clampRange edit.range = .empty place)
    (htext : edit.text = []) : buffer.applyEdit edit = buffer := by
  have hbreaks : edit.insertedBreaks = 0 := by
    rw [Edit.insertedBreaks, htext]
    rfl
  have hinside := line_lt_of_clampRange hplace
  have hlines := lines_applyEdit_insertion hplace hbreaks
  have hline : buffer.line place.line = buffer.lines[place.line] := by
    rw [line_eq, List.getElem?_eq_getElem hinside]
    rfl
  rw [htext, List.append_nil, Text.takeColumn_append_dropColumn, hline,
    List.set_getElem_self] at hlines
  cases buffer
  cases hedited : applyEdit _ edit
  rw [hedited] at hlines
  congr

/-- A line is another one after a text was put into it. -/
theorem line_applyEdit_ne
    (hplace : buffer.clampRange edit.range = .empty place) (hbreaks : edit.insertedBreaks = 0)
    (htext : edit.text ≠ []) :
    (buffer.applyEdit edit).line place.line ≠ buffer.line place.line := by
  have hinside := line_lt_of_clampRange hplace
  rw [line_eq (buffer.applyEdit edit), lines_applyEdit_insertion hplace hbreaks,
    List.getElem?_set_self hinside]
  intro hsame
  have hlength := congrArg List.length hsame
  have hwhole := congrArg List.length
    (Text.takeColumn_append_dropColumn (buffer.line place.line) place.column)
  have hpos := List.length_pos_iff.mpr htext
  simp only [Option.getD_some, List.length_append] at hlength hwhole
  omega

/-- The lines below a text that was put in stay as they are. -/
theorem line_applyEdit_insertion_below
    (hplace : buffer.clampRange edit.range = .empty place) (hbreaks : edit.insertedBreaks = 0)
    {index : Nat} (hindex : place.line < index) :
    (buffer.applyEdit edit).line index = buffer.line index := by
  rw [line_eq, line_eq, lines_applyEdit_insertion hplace hbreaks,
    List.getElem?_set_ne (by omega)]

end Buffer

/-! ## Edits that move no line -/

/-- An edit whose range lies within the first `count` lines and holds as many breaks as the text
that takes its place. -/
structure Edit.Balanced (edit : Edit) (count : Nat) : Prop where
  ordered : edit.range.start.line ≤ edit.range.stop.line
  inside : edit.range.stop.line < count
  breaks : edit.insertedBreaks = edit.removedBreaks

/-- A line that the range of an edit touches. -/
def Edit.Touches (edit : Edit) (index : Nat) : Prop :=
  edit.range.start.line ≤ index ∧ index ≤ edit.range.stop.line

namespace Buffer

variable {buffer : Buffer} {edit : Edit} {count : Nat}

theorem lineCount_applyEdit_of_balanced (h : edit.Balanced buffer.lineCount) :
    (buffer.applyEdit edit).lineCount = buffer.lineCount := by
  have hcount := buffer.lineCount_applyEdit edit
  have hstart := buffer.line_start_clampRange edit.range
  have hstop := buffer.line_stop_clampRange edit.range
  have hlast := buffer.lastLine_add_one
  obtain ⟨hordered, hinside, hbreaks⟩ := h
  simp only [Edit.removedBreaks] at hbreaks
  omega

theorem line_applyEdit_of_balanced (h : edit.Balanced buffer.lineCount) {index : Nat}
    (hindex : ¬ edit.Touches index) : (buffer.applyEdit edit).line index = buffer.line index := by
  have hstart := buffer.line_start_clampRange edit.range
  have hstop := buffer.line_stop_clampRange edit.range
  have hlast := buffer.lastLine_add_one
  obtain ⟨hordered, hinside, hbreaks⟩ := h
  simp only [Edit.removedBreaks] at hbreaks
  by_cases habove : index < edit.range.start.line
  · exact buffer.line_applyEdit_above edit (by omega)
  · have hbelow : edit.range.stop.line < index := by
      apply Nat.lt_of_not_le
      intro hle
      exact hindex ⟨by omega, hle⟩
    have hline := buffer.line_applyEdit_below edit (index - (edit.range.stop.line + 1))
    rwa [show (buffer.clampRange edit.range).start.line + edit.insertedBreaks + 1 +
        (index - (edit.range.stop.line + 1)) = index from by omega,
      show (buffer.clampRange edit.range).stop.line + 1 +
        (index - (edit.range.stop.line + 1)) = index from by omega] at hline

end Buffer

/-! ## Batches -/

namespace Edit

theorem notAbove_trans (a b c : Edit) (hab : notAbove a b) (hbc : notAbove b c) :
    notAbove a c := by
  simp only [notAbove, decide_eq_true_eq, Position.le_def] at *
  omega

theorem notAbove_total (a b : Edit) : notAbove a b || notAbove b a := by
  simp only [notAbove, Bool.or_eq_true, decide_eq_true_eq, Position.le_def]
  omega

theorem descending_sortDescending (edits : List Edit) : Descending (sortDescending edits) :=
  List.pairwise_mergeSort notAbove_trans notAbove_total edits

theorem sortDescending_of_descending {edits : List Edit} (h : Descending edits) :
    sortDescending edits = edits :=
  List.mergeSort_of_pairwise h

/-- In a batch sorted by descending start the last edit starts on the highest line. -/
theorem line_last_le {edits : List Edit} {highest : Edit} (h : Descending edits)
    (hlast : edits.getLast? = some highest) :
    ∀ edit ∈ edits, highest.range.start.line ≤ edit.range.start.line := by
  obtain ⟨lower, rfl⟩ := List.getLast?_eq_some_iff.mp hlast
  intro edit hmem
  rcases List.mem_append.mp hmem with hlower | hlast
  · have hnot := (List.pairwise_append.mp h).2.2 edit hlower highest (by simp)
    simp only [notAbove, decide_eq_true_eq] at hnot
    exact Position.line_le_of_le hnot
  · obtain rfl : edit = highest := List.mem_singleton.mp hlast
    exact Nat.le_refl _

@[simp] theorem mem_sortDescending {edit : Edit} {edits : List Edit} :
    edit ∈ sortDescending edits ↔ edit ∈ edits :=
  List.mem_mergeSort

theorem forall_mem_sortDescending {p : Edit → Prop} {edits : List Edit} :
    (∀ edit ∈ sortDescending edits, p edit) ↔ ∀ edit ∈ edits, p edit := by
  simp only [mem_sortDescending]

end Edit

namespace Buffer

variable {buffer : Buffer} {edits : List Edit}

theorem applyEdits_of_descending (h : Edit.Descending edits) :
    buffer.applyEdits edits = edits.foldl applyEdit buffer := by
  rw [applyEdits, Edit.sortDescending_of_descending h]

theorem applyEdits_sortDescending (buffer : Buffer) (edits : List Edit) :
    buffer.applyEdits (Edit.sortDescending edits) = buffer.applyEdits edits := by
  rw [applyEdits_of_descending (Edit.descending_sortDescending edits), applyEdits]

@[simp] theorem applyEdits_singleton (buffer : Buffer) (edit : Edit) :
    buffer.applyEdits [edit] = buffer.applyEdit edit := by
  simp [applyEdits, Edit.sortDescending]

private theorem foldl_applyEdit_above {top : Nat}
    (hstart : ∀ edit ∈ edits, top ≤ edit.range.start.line) (htop : top < buffer.lineCount) :
    top < (edits.foldl applyEdit buffer).lineCount ∧
      ∀ index < top, (edits.foldl applyEdit buffer).line index = buffer.line index := by
  induction edits generalizing buffer with
  | nil => exact ⟨htop, fun _ _ => rfl⟩
  | cons edit later ih =>
    have hedit := hstart edit (by simp)
    obtain ⟨hcount, hline⟩ := ih (fun e he => hstart e (by simp [he]))
      (buffer.lt_lineCount_applyEdit hedit htop)
    refine ⟨hcount, fun index h => ?_⟩
    rw [List.foldl_cons, hline index h, buffer.line_applyEdit_of_lt hedit htop h]

/-- A line at or above all starts of a batch is still there afterwards. -/
theorem lt_lineCount_applyEdits {top : Nat}
    (hstart : ∀ edit ∈ edits, top ≤ edit.range.start.line) (htop : top < buffer.lineCount) :
    top < (buffer.applyEdits edits).lineCount :=
  (foldl_applyEdit_above (by simpa using hstart) htop).1

/-- The lines above all starts of a batch stay as they are. -/
theorem line_applyEdits_above {top : Nat}
    (hstart : ∀ edit ∈ edits, top ≤ edit.range.start.line) (htop : top < buffer.lineCount)
    {index : Nat} (h : index < top) : (buffer.applyEdits edits).line index = buffer.line index :=
  (foldl_applyEdit_above (by simpa using hstart) htop).2 index h

theorem take_lines_applyEdits_above {top : Nat}
    (hstart : ∀ edit ∈ edits, top ≤ edit.range.start.line) (htop : top < buffer.lineCount) :
    (buffer.applyEdits edits).lines.take top = buffer.lines.take top := by
  have htop' := lt_lineCount_applyEdits hstart htop
  apply List.ext_getElem?
  intro index
  by_cases h : index < top
  · rw [List.getElem?_take_of_lt h, List.getElem?_take_of_lt h,
      getElem?_lines _ (Nat.lt_trans h htop'), getElem?_lines _ (Nat.lt_trans h htop),
      line_applyEdits_above hstart htop h]
  · simp only [List.getElem?_take, h, if_false]

private theorem foldl_applyEdit_of_balanced
    (h : ∀ edit ∈ edits, edit.Balanced buffer.lineCount) :
    (edits.foldl applyEdit buffer).lineCount = buffer.lineCount ∧
      ∀ index, (∀ edit ∈ edits, ¬ edit.Touches index) →
        (edits.foldl applyEdit buffer).line index = buffer.line index := by
  induction edits generalizing buffer with
  | nil => exact ⟨rfl, fun _ _ => rfl⟩
  | cons edit later ih =>
    have hedit := h edit (by simp)
    have hcount := lineCount_applyEdit_of_balanced hedit
    obtain ⟨hcount', hline⟩ := ih (fun e he => by rw [hcount]; exact h e (by simp [he]))
    refine ⟨hcount'.trans hcount, fun index hindex => ?_⟩
    rw [List.foldl_cons, hline index fun e he => hindex e (by simp [he]),
      line_applyEdit_of_balanced hedit (hindex edit (by simp))]

/-- Balanced edits keep the number of lines. -/
theorem lineCount_applyEdits_of_balanced (h : ∀ edit ∈ edits, edit.Balanced buffer.lineCount) :
    (buffer.applyEdits edits).lineCount = buffer.lineCount :=
  (foldl_applyEdit_of_balanced (by simpa using h)).1

/-- Balanced edits change no line that none of them touches. They may overlap. -/
theorem line_applyEdits_of_balanced (h : ∀ edit ∈ edits, edit.Balanced buffer.lineCount)
    {index : Nat} (hindex : ∀ edit ∈ edits, ¬ edit.Touches index) :
    (buffer.applyEdits edits).line index = buffer.line index :=
  (foldl_applyEdit_of_balanced (by simpa using h)).2 index (by simpa using hindex)

end Buffer

end ScopeTracker
