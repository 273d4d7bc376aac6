import ScopeTracker.Proofs.Document.Histories
import ScopeTracker.Proofs.Text.RawText

/-!
# Edits that start past the last line

The buffer moves an edit that starts past its last line to the end of the document, so what is put
in goes on the last line. The cache takes the line of the edit as it stands. It reads the lines
that were put in below the old last line, and the last line itself only if there are none.

Main statement: after such an edit the cache is the reading of the whole document exactly if the
text that is put in has no break, or starts with one and leaves the old last line as it was
(`onEdits_pastEnd_iff`).
-/

namespace ScopeTracker

/-! ## The text -/

namespace Buffer

variable {buffer : Buffer} {range : Range} {edit : Edit}

/-- A range past the last line stands for the end of the document. -/
theorem clampRange_pastEnd (hpast : buffer.lineCount ≤ range.start.line)
    (hordered : range.start.line ≤ range.stop.line) :
    buffer.clampRange range = .empty buffer.endPosition := by
  have hlast := buffer.lastLine_add_one
  have hclamp : ∀ position : Position, buffer.lineCount ≤ position.line →
      buffer.clamp position = buffer.endPosition := fun position hline => by
    rw [clamp, if_pos (by omega)]
  rw [clampRange, hclamp _ hpast, hclamp _ (by omega)]
  simp only [Range.empty, Position.max_self]

section PastEnd

variable (hpast : buffer.lineCount ≤ edit.range.start.line)
  (hordered : edit.range.start.line ≤ edit.range.stop.line)
include hpast hordered

theorem lineCount_applyEdit_pastEnd :
    (buffer.applyEdit edit).lineCount = buffer.lineCount + edit.insertedBreaks := by
  have hcount := buffer.lineCount_applyEdit edit
  rw [clampRange_pastEnd hpast hordered] at hcount
  simp only [Range.empty] at hcount
  omega

theorem line_applyEdit_pastEnd_above {index : Nat} (h : index < buffer.lastLine) :
    (buffer.applyEdit edit).line index = buffer.line index := by
  apply line_applyEdit_above
  rw [clampRange_pastEnd hpast hordered]
  exact h

/-- The first line of what is put in goes on the last line. -/
theorem line_lastLine_applyEdit_pastEnd {first : Text} {rest : List Text}
    (hsplit : edit.text.splitLines = first :: rest) :
    (buffer.applyEdit edit).line buffer.lastLine = buffer.line buffer.lastLine ++ first := by
  have hlast := buffer.lastLine_add_one
  have hwhole := Text.splitAtColumn_append (buffer.line buffer.lastLine) []
  rw [List.append_nil] at hwhole
  simp only [lineCount] at hlast
  rw [line_eq]
  simp only [applyEdit, clampRange_pastEnd hpast hordered, Range.empty, endPosition, replacement,
    Text.takeColumn, Text.dropColumn, hwhole, hsplit, Text.prependToFirst]
  rw [List.getElem?_append_right (by rw [List.length_take]; omega), List.length_take,
    show buffer.lastLine - min buffer.lastLine buffer.lines.length = 0 by omega]
  cases rest with
  | nil => simp [Text.appendToLast]
  | cons next rest => simp [Text.appendToLast]

end PastEnd

end Buffer

/-! ## The cache -/

namespace LineCache

variable {σ : Type} {cache : LineCache σ} {buffer : Buffer} {edit : Edit}

theorem Dense.truncate_of_size_le (hdense : cache.Dense) {count : Nat} (h : cache.size ≤ count) :
    cache.truncate count = cache := by
  have hlength : cache.lines.length = cache.snapshots.length := hdense
  rw [size] at h
  rw [LineCache.truncate, List.take_of_length_le h, List.take_of_length_le (hlength ▸ h)]

/-- The state that the cache compares is that of a line past the end, which it does not have. So
no such edit is contained. -/
theorem not_isContained_of_pastEnd [BEq σ] [LawfulBEq σ] {reparsed : LineCache σ}
    (hpast : cache.size ≤ edit.range.stop.line) : ¬ isContained cache reparsed edit := by
  intro hcontained
  obtain ⟨-, hstop, -⟩ := of_isContained hcontained
  omega

/-- The lines from the first one that was put in are read again, or the last line if none was. -/
theorem Complete.reread_pastEnd [BEq σ] [LawfulBEq σ] (h : cache.Complete buffer)
    (hpast : buffer.lineCount ≤ edit.range.start.line)
    (hordered : edit.range.start.line ≤ edit.range.stop.line)
    (hok : (cache.applyChanges (buffer.applyEdit edit) [edit]).result = .ok ()) :
    let document := buffer.applyEdit edit
    Reread cache (cache.applyChanges document [edit]).state document
      (min document.lastLine buffer.lineCount) document.lineCount := by
  intro document
  obtain ⟨grammar, hgrammar⟩ := h.exists_grammar
  have hcount : document.lineCount = buffer.lineCount + edit.insertedBreaks :=
    Buffer.lineCount_applyEdit_pastEnd hpast hordered
  have hlast := document.lastLine_add_one
  have hsize := h.size_eq
  have hreads := rereads_reparseEdit hgrammar h.dense document edit
  rw [show min (min edit.range.start.line document.lastLine) cache.size =
      min document.lastLine buffer.lineCount from by omega,
    show min (edit.range.start.line + edit.insertedBreaks) document.lastLine + 1 =
      document.lineCount from by omega] at hreads
  rw [applyChanges_of_descending hgrammar (List.pairwise_singleton _ _), applySorted] at hok ⊢
  have hresult := Outcome.ok_of_andThen hok
  have hread := hreads.reread_of_ok hresult
  have hfits := hread.size
  have hcontained : ¬ isContained cache (cache.reparseEdit document edit).state edit :=
    not_isContained_of_pastEnd (by omega)
  rw [Outcome.andThen_of_ok hresult, if_neg hcontained, reparseFrom_eq, widenedFrom,
    if_neg (by simp only [wideningStart, List.foldl_nil]; omega)]
  -- nothing is left to read below the edit, and nothing to cut off
  have hwhole : (cache.reparseEdit document edit).state.truncate document.lineCount =
      (cache.reparseEdit document edit).state :=
    hread.dense.truncate_of_size_le (by omega)
  rw [Outcome.ok_andThen, hwhole]
  exact hread

section Followed

variable [BEq σ] [LawfulBEq σ] (h : cache.Complete buffer)
  (hpast : buffer.lineCount ≤ edit.range.start.line)
  (hordered : edit.range.start.line ≤ edit.range.stop.line)
  (hok : (cache.applyChanges (buffer.applyEdit edit) [edit]).result = .ok ())
include h hpast hordered hok

/-- The cache is complete if the old last line was read again, or is what it was. -/
theorem Complete.complete_pastEnd
    (hkept : edit.insertedBreaks = 0 ∨ edit.text.splitLines.head? = some []) :
    (cache.applyChanges (buffer.applyEdit edit) [edit]).state.Complete (buffer.applyEdit edit) := by
  have hread := h.reread_pastEnd hpast hordered hok
  have hcount := Buffer.lineCount_applyEdit_pastEnd hpast hordered
  have hlast := buffer.lastLine_add_one
  have hlast' := (buffer.applyEdit edit).lastLine_add_one
  -- all lines above the ones that were read are those of the old text
  have hsame : ∀ index < min (buffer.applyEdit edit).lastLine buffer.lineCount,
      (buffer.applyEdit edit).line index = buffer.line index := by
    intro index hindex
    by_cases hlt : index < buffer.lastLine
    · exact Buffer.line_applyEdit_pastEnd_above hpast hordered hlt
    · obtain rfl : index = buffer.lastLine := by omega
      rcases hkept with hbreaks | hfirst
      · omega
      · obtain ⟨rest, hsplit⟩ := List.head?_eq_some_iff.mp hfirst
        rw [Buffer.line_lastLine_applyEdit_pastEnd hpast hordered hsplit, List.append_nil]
  have hcurrent : cache.CurrentBelow (buffer.applyEdit edit)
      (min (buffer.applyEdit edit).lastLine buffer.lineCount) :=
    (h.current.mono (Nat.min_le_right _ _)).congr (.refl cache) hsame fun _ _ => rfl
  refine ⟨hread.dense, ?_, hread.currentBelow hcurrent⟩
  rw [hread.size, h.size_eq]
  omega

/-- Otherwise the old last line is cached as it was, though the document has another one now. -/
theorem Complete.snapshot?_pastEnd
    (hchanged : ¬ (edit.insertedBreaks = 0 ∨ edit.text.splitLines.head? = some [])) :
    (cache.applyChanges (buffer.applyEdit edit) [edit]).state.snapshot? buffer.lastLine ≠
      some ((buffer.applyEdit edit).line buffer.lastLine) := by
  obtain ⟨hbreaks, hfirst⟩ := not_or.mp hchanged
  have hread := h.reread_pastEnd hpast hordered hok
  have hcount := Buffer.lineCount_applyEdit_pastEnd hpast hordered
  have hlast := buffer.lastLine_add_one
  have hlast' := (buffer.applyEdit edit).lastLine_add_one
  have hkept := (h.current buffer.lastLine (by omega)).snapshot
  obtain ⟨first, rest, hsplit⟩ := List.exists_cons_of_ne_nil edit.text.splitLines_ne_nil
  rw [snapshot?_congr (hread.outside buffer.lastLine (.inl (by omega))), hkept,
    Buffer.line_lastLine_applyEdit_pastEnd hpast hordered hsplit]
  intro hsnapshot
  rw [hsplit, List.head?_cons] at hfirst
  exact hfirst (congrArg some (List.self_eq_append_right.mp (Option.some.inj hsnapshot)))

end Followed

end LineCache

/-! ## Documents -/

/-- A full reading takes every line as it stands in the document. -/
theorem LineCache.snapshot?_build {σ : Type} {buffer : Buffer} {grammar : Grammar σ}
    {maxLineLength index : Nat} (hinside : index < buffer.lineCount)
    (hok : (build buffer (some grammar) maxLineLength).result = .ok ()) :
    (build buffer (some grammar) maxLineLength).state.snapshot? index = some (buffer.line index) :=
  ((complete_refresh rfl hok).current index hinside).snapshot

namespace Document

variable {σ : Type} {document : Document σ} {edit : Edit}

/-- An edit that starts past the last line of a document that is tokenized as a whole, and that the
grammar does not fail on. The cache is then that of a document opened with the new text exactly if
the text put in has no break, or its first line is empty. The lines of an edit are unbounded here;
see `LineCache.wideningStart`. -/
theorem onEdits_pastEnd_iff [BEq σ] [LawfulBEq σ]
    (h : document.cache.Complete document.buffer)
    (hordered : edit.range.start ≤ edit.range.stop)
    (hpast : document.buffer.lineCount ≤ edit.range.start.line)
    (hok : (document.onEdits [edit]).result = .ok ()) :
    let followed := (document.onEdits [edit]).state
    let fresh := LineCache.build followed.buffer document.cache.grammar document.cache.maxLineLength
    (fresh.result = .ok () ∧ followed.cache.lines = fresh.state.lines ∧
        followed.cache.snapshots = fresh.state.snapshots) ↔
      edit.insertedBreaks = 0 ∨ edit.text.splitLines.head? = some [] := by
  intro followed fresh
  have hsingle := onEdits_singleton document edit
  obtain ⟨grammar, hgrammar⟩ := h.exists_grammar
  rw [hsingle] at hok
  have hlines := Position.line_le_of_le hordered
  have hfollowed : followed = { document with
      buffer := document.buffer.applyEdit edit
      cache := (document.cache.applyChanges (document.buffer.applyEdit edit) [edit]).state
      dense := document.dense.applyChanges (document.buffer.applyEdit edit) [edit] } := by
    simp only [followed, hsingle]
    rfl
  have setup := LineCache.setup_applyChanges document.cache (document.buffer.applyEdit edit) [edit]
  constructor
  · rintro ⟨hfresh, -, hsnapshots⟩
    refine Decidable.byContradiction fun hchanged =>
      h.snapshot?_pastEnd hpast hlines hok hchanged ?_
    -- a full reading has the old last line as it is now
    have hlast := document.buffer.lastLine_add_one
    have hcount := Buffer.lineCount_applyEdit_pastEnd hpast hlines
    simp only [fresh, hfollowed, hgrammar] at hfresh hsnapshots
    have hsnapshot := LineCache.snapshot?_build
      (show document.buffer.lastLine < (document.buffer.applyEdit edit).lineCount by omega) hfresh
    rwa [LineCache.snapshot?, ← hsnapshots] at hsnapshot
  · intro hkept
    obtain ⟨hfresh, hread, htexts⟩ := (h.complete_pastEnd hpast hlines hok hkept).build_eq
    rw [← setup.grammar, ← setup.maxLineLength] at hfresh hread htexts
    simp only [fresh, hfollowed]
    exact ⟨hfresh, hread.symm, htexts.symm⟩

/-- A comment is opened behind the last line, by an edit one line below it. The line that follows is
read as if the comment were not there. -/
theorem onEdits_pastEnd_stale :
    let document := (create ['a'] "toy" 1 (some .comments) 20).state
    let edit : Edit := .insert ⟨1, 0⟩ ['<', '\n', 'c']
    let followed := (document.onEdits [edit]).state
    let fresh := LineCache.build followed.buffer document.cache.grammar document.cache.maxLineLength
    let opened := (create followed.buffer.text "toy" 1 (some .comments) 20).state
    (document.onEdits [edit]).result = .ok () ∧ followed.buffer.text = ['a', '<', '\n', 'c'] ∧
      ¬ (fresh.result = .ok () ∧ followed.cache.lines = fresh.state.lines ∧
        followed.cache.snapshots = fresh.state.snapshots) ∧
      (followed.scopeAt ⟨1, 0⟩).result = .ok ⟨⟨⟨1, 0⟩, ⟨1, 1⟩⟩, ['c'], ["code"]⟩ ∧
      (opened.scopeAt ⟨1, 0⟩).result = .ok ⟨⟨⟨1, 0⟩, ⟨1, 1⟩⟩, ['c'], ["comment"]⟩ := by
  intro document edit followed fresh opened
  have hcomplete : document.cache.Complete document.buffer :=
    LineCache.complete_refresh rfl (by decide +kernel)
  have hordered : edit.range.start ≤ edit.range.stop := by decide
  have hpast : document.buffer.lineCount ≤ edit.range.start.line := by decide +kernel
  have hok : (document.onEdits [edit]).result = .ok () := by
    rw [onEdits_singleton]
    decide +kernel
  have hiff := onEdits_pastEnd_iff hcomplete hordered hpast hok
  have hbuffer : followed.buffer = document.buffer.applyEdit edit := by
    simp only [followed, onEdits_singleton]
    rfl
  refine ⟨hok, by rw [hbuffer]; decide +kernel, fun hsame => ?_, ?_, ?_⟩
  · exact absurd (hiff.mp hsame) (by decide +kernel)
  · simp only [followed, onEdits_singleton]
    decide +kernel
  · simp only [opened, hbuffer]
    decide +kernel

end Document

end ScopeTracker
