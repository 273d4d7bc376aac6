import ScopeTracker.Proofs.Cache.Failing

/-!
# Ranges that end above their start

The buffer takes a range that ends on a line above its start for the place it starts at. The cache
takes its word for where the range ends, and looks for the state below the edit there. That line
was not touched, so an insertion without breaks always counts as contained, and the lines below
it keep the tokens they had.

Main statements: the cache of a whole document follows every other edit, and this one if nothing
is put in or there is no line below (`Complete.applyChanges_single`); here it reads a single line
(`Complete.applyChanges_reversed`).
-/

namespace ScopeTracker

namespace LineCache

variable {σ : Type} {cache after reparsed : LineCache σ} {buffer : Buffer} {edit : Edit}
  {first last : Nat}

/-- Reading lines of a complete cache again brings nothing new. -/
theorem Reread.complete (h : Reread cache after buffer first last)
    (hcomplete : cache.Complete buffer) (hfirst : first ≤ buffer.lineCount)
    (hlast : last ≤ buffer.lineCount) : after.Complete buffer := by
  have hread : after.CurrentBelow buffer last :=
    h.currentBelow (hcomplete.current.mono hfirst)
  have hentry : ∀ index < buffer.lineCount, after.entryAt index = cache.entryAt index := by
    intro index _
    by_cases hindex : index < last
    · exact (hcomplete.current.mono hlast).entryAt_eq hread h.setup index hindex
    · exact h.outside index (.inr (by omega))
  refine ⟨h.dense, ?_, hcomplete.current.congr h.setup (fun _ _ => rfl) hentry⟩
  rw [h.size, hcomplete.size_eq]
  omega

/-- A line that is cached bears out its own boundary. -/
theorem isStable_self [BEq σ] [LawfulBEq σ] {index : Nat} (h : cache.IsCurrent buffer index) :
    (cache.boundary index).isStable (cache.boundary index) := by
  obtain ⟨_, line, _, hentry, _⟩ := h
  have hline : cache.line? index = some line := congrArg Prod.fst hentry
  cases line <;> simp [boundary, hline, Boundary.ofLine?, Boundary.isStable]

/-- The boundary that the cache looks at lies above the edit, where nothing changed. -/
theorem isContained_of_reversed [BEq σ] [LawfulBEq σ] {document : Buffer}
    (h : cache.Complete buffer) (hreversed : edit.range.stop.line < edit.range.start.line)
    (hinside : edit.range.start.line < buffer.lineCount) (hbreaks : edit.insertedBreaks = 0)
    (hread : Reread cache reparsed document edit.range.start.line last) :
    isContained cache reparsed edit := by
  have hboundary :
      reparsed.boundary edit.range.stop.line = cache.boundary edit.range.stop.line := by
    simp only [boundary, line?_congr (hread.outside edit.range.stop.line (.inl hreversed))]
  have hremoved : edit.removedBreaks = 0 := by
    rw [Edit.removedBreaks]
    omega
  have hstable := isStable_self (h.current edit.range.stop.line (by omega))
  simp only [isContained, hbreaks, hremoved, hboundary, hstable, beq_self_eq_true, Bool.and_self]

theorem lineCount_applyEdit_reversed (hreversed : edit.range.stop.line < edit.range.start.line)
    (hinside : edit.range.start.line < buffer.lineCount) (hbreaks : edit.insertedBreaks = 0) :
    (buffer.applyEdit edit).lineCount = buffer.lineCount := by
  have hcount := buffer.lineCount_applyEdit edit
  rw [Buffer.clampRange_of_reversed hreversed hinside] at hcount
  simp only [Range.empty] at hcount
  omega

/-- An insertion without breaks at the start of a reversed range has one line read again. -/
theorem Complete.applyChanges_reversed [BEq σ] [LawfulBEq σ] (h : cache.Complete buffer)
    (hreversed : edit.range.stop.line < edit.range.start.line)
    (hinside : edit.range.start.line < buffer.lineCount) (hbreaks : edit.insertedBreaks = 0)
    (hok : (cache.applyChanges (buffer.applyEdit edit) [edit]).result = .ok ()) :
    Reread cache (cache.applyChanges (buffer.applyEdit edit) [edit]).state (buffer.applyEdit edit)
      edit.range.start.line (edit.range.start.line + 1) := by
  obtain ⟨grammar, hgrammar⟩ := h.exists_grammar
  have hcount := lineCount_applyEdit_reversed hreversed hinside hbreaks
  have hlast := (buffer.applyEdit edit).lastLine_add_one
  have hsize := h.size_eq
  have hreads := rereads_reparseEdit hgrammar h.dense (buffer.applyEdit edit) edit
  rw [show min (min edit.range.start.line (buffer.applyEdit edit).lastLine) cache.size =
      edit.range.start.line from by omega,
    show min (edit.range.start.line + edit.insertedBreaks) (buffer.applyEdit edit).lastLine + 1 =
      edit.range.start.line + 1 from by omega] at hreads
  rw [applyChanges_of_descending hgrammar (List.pairwise_singleton _ _), applySorted] at hok ⊢
  have hresult := Outcome.ok_of_andThen hok
  have hread := hreads.reread_of_ok hresult
  have hcontained := isContained_of_reversed h hreversed hinside hbreaks hread
  rw [Outcome.andThen_of_ok hresult, if_pos hcontained]
  exact hread

/-- The cache of a whole document follows an edit unless the edit puts a text without breaks into
a line above the last one and its range ends above its start. -/
theorem Complete.applyChanges_single [BEq σ] [LawfulBEq σ] (h : cache.Complete buffer)
    (hinside : edit.range.start.line < buffer.lineCount)
    (hfollowed : edit.range.start.line ≤ edit.range.stop.line ∨ edit.insertedBreaks ≠ 0 ∨
      edit.range.start.line = buffer.lastLine ∨ edit.text = [])
    (hok : (cache.applyChanges (buffer.applyEdit edit) [edit]).result = .ok ()) :
    (cache.applyChanges (buffer.applyEdit edit) [edit]).state.Complete (buffer.applyEdit edit) := by
  obtain ⟨grammar, hgrammar⟩ := h.exists_grammar
  by_cases hordered : edit.range.start.line ≤ edit.range.stop.line
  · rw [applyChanges_of_descending hgrammar (List.pairwise_singleton _ _)] at hok ⊢
    exact (h.readsBelow_applySorted hordered hinside).2 hok
  · have hreversed : edit.range.stop.line < edit.range.start.line := by omega
    by_cases hbreaks : edit.insertedBreaks = 0
    · have hread := h.applyChanges_reversed hreversed hinside hbreaks hok
      rcases hfollowed with h' | h' | hlastLine | hempty
      · exact absurd h' hordered
      · exact absurd hbreaks h'
      · -- the line that was read is the last one
        have hcount := lineCount_applyEdit_reversed hreversed hinside hbreaks
        have hlast := buffer.lastLine_add_one
        have hsize := h.size_eq
        have habove := (h.follows hinside).above
        have hcurrent := hread.currentBelow (habove.mono (by omega))
        rw [show edit.range.start.line + 1 = (buffer.applyEdit edit).lineCount from by omega]
          at hcurrent
        refine ⟨hread.dense, ?_, hcurrent⟩
        rw [hread.size]
        omega
      · have hsame : buffer.applyEdit edit = buffer :=
          Buffer.applyEdit_of_empty (Buffer.clampRange_of_reversed hreversed hinside) hempty
        rw [hsame] at hread ⊢
        exact hread.complete h (by omega) (by omega)
    · -- a break that was put in always has the document read to its end
      rcases h.applySorted_single hinside with ⟨reparsed, _, _, hcontained⟩ | ⟨_, hcomplete⟩
      · obtain ⟨hbalanced, _⟩ := of_isContained hcontained
        rw [Edit.removedBreaks] at hbalanced
        omega
      · rw [applyChanges_of_descending hgrammar (List.pairwise_singleton _ _)] at hok ⊢
        exact hcomplete hok

end LineCache

end ScopeTracker
