import ScopeTracker.Proofs.Store.Runs
import ScopeTracker.Proofs.Text.Conversions

/-!
# Buffers and the editor's text

A change replaces what lies between two positions of the text that an editor holds. The buffer does
the same on its lines: it has forgotten which break ended each of them, and it cuts the text that is
put in into lines by itself.

Main statement: after every change the buffer has the lines of the editor's text, unless a change
puts a carriage return right in front of a line feed, so that two breaks become one
(`mirrors_iff`).
-/

namespace ScopeTracker

/-- The end does not come before the start. -/
def Utf16Range.Ordered (range : Utf16Range) : Prop :=
  range.start.line < range.stop.line ∨
    range.start.line = range.stop.line ∧ range.start.character ≤ range.stop.character

instance (range : Utf16Range) : Decidable range.Ordered := inferInstanceAs (Decidable (_ ∨ _))

namespace Text

/-- The text before a range and the text after it. Both ends are positions of the text, in order. -/
def around? (raw : Text) (range : Utf16Range) : Option (Text × Text) :=
  if range.Ordered then do
    let (before, _) ← raw.cut? range.start
    let (_, after) ← raw.cut? range.stop
    return (before, after)
  else none

/-- What a change makes of the text that an editor holds. -/
def applyContentChange? (raw : Text) (change : ContentChange) : Option Text :=
  match change.range with
  | none => some change.text
  | some range => (raw.around? range).map fun (before, after) => before ++ change.text ++ after

/-- A change that makes one break of two: where the new text follows the old one, or the old text
the new one, a carriage return comes before a line feed. -/
def Joins (raw : Text) (change : ContentChange) : Prop :=
  ∃ ends ∈ change.range.bind raw.around?,
    Fuses ends.1 (change.text ++ ends.2) ∨ Fuses change.text ends.2

instance (raw : Text) (change : ContentChange) : Decidable (raw.Joins change) :=
  inferInstanceAs (Decidable (∃ ends ∈ _, _))

theorem around?_eq_some {raw before after : Text} {range : Utf16Range}
    (h : raw.around? range = some (before, after)) :
    range.Ordered ∧ (∃ rest, raw.cut? range.start = some (before, rest)) ∧
      ∃ start, raw.cut? range.stop = some (start, after) := by
  unfold around? at h
  split at h
  · rename_i hordered
    simp only [Option.bind_eq_bind, Option.bind_eq_some_iff] at h
    obtain ⟨⟨before, rest⟩, hstart, ⟨start, after⟩, hstop, heq⟩ := h
    cases heq
    exact ⟨hordered, ⟨rest, hstart⟩, ⟨start, hstop⟩⟩
  · cases h

/-- The lines after a replacement are those before, in and after it, glued, unless breaks fuse. -/
theorem splitLines_replace (before text after : Text) :
    splitLines (before ++ text ++ after) =
        glue before.splitLines (glue text.splitLines after.splitLines) ↔
      ¬ (Fuses before (text ++ after) ∨ Fuses text after) := by
  constructor
  · intro hlines
    -- each break that is lost is a line that is missing
    have hlength := congrArg List.length hlines
    have hinner := length_splitLines_append text after
    have houter := length_splitLines_append before (text ++ after)
    have hlower := length_glue text.splitLines_ne_nil after.splitLines_ne_nil
    have hglued := length_glue before.splitLines_ne_nil
      (glue_ne_nil after.splitLines_ne_nil text.splitLines)
    rw [← List.append_assoc] at houter
    rintro (hfuses | hfuses)
    · rw [if_pos hfuses] at houter
      split at hinner <;> omega
    · rw [if_pos hfuses] at hinner
      split at houter <;> omega
  · intro hfuses
    rw [not_or] at hfuses
    rw [List.append_assoc, splitLines_append hfuses.1, splitLines_append hfuses.2]

end Text

/-! ## One change -/

namespace Buffer

variable {buffer : Buffer} {raw : Text} {range : Utf16Range} {position : Utf16Position}
  {change : ContentChange} {changes : List ContentChange}

/-- The buffer has the lines of a text. -/
def Mirrors (buffer : Buffer) (raw : Text) : Prop := buffer.lines = raw.splitLines

theorem mirrors_ofText (raw : Text) : (ofText raw).Mirrors raw := rfl

/-- The ends of a range that are in order as an editor counts are in order in the buffer. -/
theorem rangeOfUtf16_ordered (buffer : Buffer) (h : range.Ordered) :
    (buffer.rangeOfUtf16 range).start ≤ (buffer.rangeOfUtf16 range).stop :=
  buffer.positionOfUtf16_mono h

section Cut

variable {before after last first : Text} {above below : List Text}
  (hmirrors : buffer.Mirrors raw)
  (hcut : Text.CutAt raw before after position above last first below)
include hmirrors hcut

theorem Mirrors.lines_of_cutAt : buffer.lines = above ++ (last ++ first) :: below :=
  hmirrors.trans hcut.raw_lines

theorem Mirrors.line_of_cutAt : buffer.line position.line = last ++ first := by
  rw [line_eq, hmirrors.lines_of_cutAt hcut, ← hcut.line,
    List.getElem?_append_right (Nat.le_refl _), Nat.sub_self]
  rfl

theorem Mirrors.line_le_lastLine : position.line ≤ buffer.lastLine := by
  have hlines := congrArg List.length (hmirrors.lines_of_cutAt hcut)
  have hlast := buffer.lastLine_add_one
  have hline := hcut.line
  simp only [List.length_append, List.length_cons, lineCount] at hlines hlast
  omega

/-- The buffer finds the place of a cut: so many bytes into the line as its first part has. -/
theorem Mirrors.positionOfUtf16 :
    buffer.positionOfUtf16 position = ⟨position.line, last.byteLength⟩ := by
  have hinside := Nat.not_lt.mpr (hmirrors.line_le_lastLine hcut)
  rw [Buffer.positionOfUtf16, if_neg hinside, hmirrors.line_of_cutAt hcut, ← hcut.character,
    Text.takeUnits_append]

theorem Mirrors.clamp_of_cutAt :
    buffer.clamp ⟨position.line, last.byteLength⟩ = ⟨position.line, last.byteLength⟩ := by
  have hinside := Nat.not_lt.mpr (hmirrors.line_le_lastLine hcut)
  rw [clamp, if_neg hinside]
  simp only [hmirrors.line_of_cutAt hcut, Text.floorColumn, Text.takeColumn,
    Text.splitAtColumn_append]

theorem Mirrors.linesBefore_of_cutAt :
    buffer.linesBefore ⟨position.line, last.byteLength⟩ = before.splitLines := by
  rw [linesBefore, hmirrors.line_of_cutAt hcut, Text.takeColumn, Text.splitAtColumn_append,
    hmirrors.lines_of_cutAt hcut, ← hcut.line, List.take_left, hcut.before_lines]

theorem Mirrors.linesAfter_of_cutAt :
    buffer.linesAfter ⟨position.line, last.byteLength⟩ = after.splitLines := by
  rw [linesAfter, hmirrors.line_of_cutAt hcut, Text.dropColumn, Text.splitAtColumn_append,
    hmirrors.lines_of_cutAt hcut, ← hcut.line, ← List.drop_drop, List.drop_left, hcut.after_lines]
  rfl

end Cut

/-- A replacement on the lines puts the lines of the new text between those before and those after
the range. -/
theorem Mirrors.lines_applyEdit {before after : Text} (hmirrors : buffer.Mirrors raw)
    (haround : raw.around? range = some (before, after)) (text : Text) :
    (buffer.applyEdit ⟨buffer.rangeOfUtf16 range, text⟩).lines =
      Text.glue before.splitLines (Text.glue text.splitLines after.splitLines) := by
  obtain ⟨hordered, ⟨rest, hstart⟩, ⟨start, hstop⟩⟩ := Text.around?_eq_some haround
  obtain ⟨above, last, first, below, hcut⟩ := Text.cut?_spec hstart
  obtain ⟨above', last', first', below', hcut'⟩ := Text.cut?_spec hstop
  have hclamp : buffer.clampRange (buffer.rangeOfUtf16 range) =
      ⟨⟨range.start.line, last.byteLength⟩, ⟨range.stop.line, last'.byteLength⟩⟩ := by
    have hle := buffer.rangeOfUtf16_ordered hordered
    simp only [rangeOfUtf16, hmirrors.positionOfUtf16 hcut, hmirrors.positionOfUtf16 hcut'] at hle ⊢
    simp only [clampRange, hmirrors.clamp_of_cutAt hcut, hmirrors.clamp_of_cutAt hcut',
      Position.max_eq_left_of_le hle]
  rw [lines_applyEdit_eq_glue, hclamp, hmirrors.linesBefore_of_cutAt hcut,
    hmirrors.linesAfter_of_cutAt hcut']

/-- A change keeps the buffer a mirror of the text exactly if it joins no breaks. -/
theorem Mirrors.applyContentChange_iff {text : Text} (hmirrors : buffer.Mirrors raw)
    (htext : raw.applyContentChange? change = some text) :
    (buffer.applyContentChange change).Mirrors text ↔ ¬ raw.Joins change := by
  obtain ⟨range, new⟩ := change
  cases range with
  | none =>
    cases htext
    exact iff_of_true rfl fun ⟨_, hends, _⟩ => by cases hends
  | some range =>
    obtain ⟨⟨before, after⟩, haround, heq⟩ := Option.map_eq_some_iff.mp htext
    cases heq
    have hlines := hmirrors.lines_applyEdit haround new
    have hjoins : raw.Joins ⟨some range, new⟩ ↔
        (Text.Fuses before (new ++ after) ∨ Text.Fuses new after) := by
      simp only [Text.Joins, Option.bind_some, haround, Option.mem_some, exists_eq_left']
    rw [hjoins, ← Text.splitLines_replace, Mirrors, Buffer.applyContentChange, hlines, eq_comm]

/-- As long as no change joins breaks, the buffer is a mirror of the text. -/
theorem Mirrors.applyContentChanges {text : Text} (hmirrors : buffer.Mirrors raw)
    (htext : changes.foldlM Text.applyContentChange? raw = some text)
    (hjoins : ∀ earlier change later, changes = earlier ++ change :: later →
      ∀ held, earlier.foldlM Text.applyContentChange? raw = some held → ¬ held.Joins change) :
    (changes.foldl applyContentChange buffer).Mirrors text := by
  induction changes generalizing buffer raw with
  | nil =>
    cases htext
    exact hmirrors
  | cons change later ih =>
    rw [List.foldlM_cons] at htext
    obtain ⟨next, hnext, htext⟩ := Option.bind_eq_some_iff.mp htext
    refine ih ((hmirrors.applyContentChange_iff hnext).mpr (hjoins [] change later rfl raw rfl))
      htext ?_
    intro earlier change' rest hsplit held hheld
    refine hjoins (change :: earlier) change' rest (by rw [hsplit, List.cons_append]) held ?_
    rw [List.foldlM_cons, hnext]
    exact hheld

end Buffer

/-! ## Histories -/

namespace Document

variable {σ : Type}

/-- An editor opens a document and reports changes of its text one after the other, each of a range
of the text as it is then. The document has the lines of the editor's text after every change
exactly if no change puts a carriage return right in front of a line feed. It does not matter which
breaks there are besides, or whether the grammar fails. -/
theorem mirrors_iff [BEq σ] {raw final : Text} {changes : List ContentChange}
    (hfinal : changes.foldlM Text.applyContentChange? raw = some final) (languageId : String)
    (version : Int) (grammar : Option (Grammar σ)) (maxLineLength : Nat) :
    (∀ earlier later, changes = earlier ++ later →
      ∀ held, earlier.foldlM Text.applyContentChange? raw = some held →
        ((create raw languageId version grammar maxLineLength).state.follow earlier).buffer.lines =
          held.splitLines) ↔
      ∀ earlier change later, changes = earlier ++ change :: later →
        ∀ held, earlier.foldlM Text.applyContentChange? raw = some held → ¬ held.Joins change := by
  simp only [buffer_follow]
  constructor
  · intro hlines earlier change later hsplit held hheld
    rw [hsplit, List.foldlM_append, hheld, Option.bind_eq_bind, Option.bind_some,
      List.foldlM_cons] at hfinal
    obtain ⟨next, hnext, _⟩ := Option.bind_eq_some_iff.mp hfinal
    have hbefore := hlines earlier (change :: later) hsplit held hheld
    have hafter := hlines (earlier ++ [change]) later (by simp [hsplit]) next (by
      rw [List.foldlM_append, hheld]
      simpa using hnext)
    rw [List.foldl_append] at hafter
    exact (Buffer.Mirrors.applyContentChange_iff hbefore hnext).mp hafter
  · rintro hjoins earlier later rfl held hheld
    refine (Buffer.mirrors_ofText raw).applyContentChanges hheld ?_
    intro before change after hsplit
    exact hjoins before change (after ++ later) (by simp [hsplit])

/-- A feed is put in front of a lone return, and the text behind it is replaced. The first line
ends with a feed now, the second with the return, and the third with both. -/
theorem mirrors_mixed :
    let opened := (create ['a', '\r', 'b', '\r', '\n', 'c'] "toy" 1 (some .comments) 20).state
    let changes : List ContentChange :=
      [⟨some ⟨⟨0, 1⟩, ⟨0, 1⟩⟩, ['\n']⟩, ⟨some ⟨⟨2, 0⟩, ⟨2, 1⟩⟩, ['!']⟩]
    (opened.follow changes).buffer.lines =
      Text.splitLines ['a', '\n', '\r', '!', '\r', '\n', 'c'] := by
  intro opened changes
  have hfinal : changes.foldlM Text.applyContentChange? ['a', '\r', 'b', '\r', '\n', 'c'] =
      some ['a', '\n', '\r', '!', '\r', '\n', 'c'] := by decide
  refine (mirrors_iff hfinal "toy" 1 (some Grammar.comments) 20).mpr ?_ changes [] rfl _ hfinal
  intro earlier change later hsplit held hheld
  rcases earlier with _ | ⟨first, _ | ⟨second, rest⟩⟩
  · obtain ⟨rfl, rfl⟩ := List.cons.inj hsplit
    cases hheld
    decide
  · obtain ⟨rfl, hrest⟩ := List.cons.inj hsplit
    obtain ⟨rfl, rfl⟩ := List.cons.inj hrest
    cases hheld
    decide
  · simp [changes] at hsplit

/-- A return is put in front of a feed. Then the editor has two lines and the document three. -/
theorem not_mirrors_joined :
    let opened := create ['a', '\n', 'b'] "toy" 1 (some .comments) 20
    let change : ContentChange := ⟨some ⟨⟨0, 1⟩, ⟨0, 1⟩⟩, ['\r']⟩
    let held : Text := ['a', '\r', '\n', 'b']
    opened.result = .ok () ∧
      Text.applyContentChange? ['a', '\n', 'b'] change = some held ∧
      held.splitLines = [['a'], ['b']] ∧
      (opened.state.follow [change]).buffer.lines = [['a'], [], ['b']] ∧
      (opened.state.follow [change]).buffer.lines ≠ held.splitLines := by
  simp only [buffer_follow]
  decide +kernel

end Document

end ScopeTracker
