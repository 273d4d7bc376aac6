import ScopeTracker.Proofs.Cache.Reversed

/-!
# Batches that fail only where the new text does

A batch is followed from its lowest edit on, in the line numbers of the old text. The lines that are
read again for an edit are already those of the new text, but the states that they are read from
still are those of the old one: the edits above have not been looked at. So the grammar is shown
lines of the new text below lines of the old one, and it may fail on what stands in neither text.

An edit is consistent if that cannot happen: all that lies above the lines that are read for it is
the same in both texts, or these lines themselves are. An edit that changes the number of lines
ends the batch, so of the edits above such an edit nothing is asked.

Main statement: a consistent batch is followed without a failure if both texts can be tokenized
(`Follows.applySorted_of_consistent`).
-/

namespace ScopeTracker

/-! ## Consistent batches -/

/-- The lines from `first` up to but without `last` are the same in both texts. -/
def Buffer.AgreesOn (buffer document : Buffer) (first last : Nat) : Prop :=
  ∀ index < last, first ≤ index → buffer.lines[index]? = document.lines[index]?

namespace Edit

/-- The first line that is read again for an edit, in the text after the batch. -/
def firstRead (edit : Edit) (document : Buffer) : Nat :=
  min edit.range.start.line document.lastLine

/-- The line below those that are read again for an edit. -/
def endRead (edit : Edit) (document : Buffer) : Nat :=
  min (edit.range.start.line + edit.insertedBreaks) document.lastLine + 1

/-- The lines that are read again for an edit stand below each other in one of the two texts,
together with all lines above them. -/
def Consistent (edit : Edit) (buffer document : Buffer) : Prop :=
  buffer.AgreesOn document 0 (edit.firstRead document) ∨
    buffer.AgreesOn document (edit.firstRead document) (edit.endRead document)

/-- The edits of a batch, from the lowest one to the first that changes the number of lines, are
consistent. -/
def BatchConsistent (buffer document : Buffer) : List Edit → Prop
  | [] => True
  | edit :: later => edit.Consistent buffer document ∧
      (edit.insertedBreaks = edit.removedBreaks → BatchConsistent buffer document later)

end Edit

instance (buffer document : Buffer) (first last : Nat) :
    Decidable (buffer.AgreesOn document first last) :=
  inferInstanceAs (Decidable (∀ index < last, first ≤ index → _ = _))

instance (edit : Edit) (buffer document : Buffer) : Decidable (edit.Consistent buffer document) :=
  inferInstanceAs (Decidable (_ ∨ _))

instance decidableBatchConsistent (buffer document : Buffer) :
    ∀ edits, Decidable (Edit.BatchConsistent buffer document edits)
  | [] => isTrue trivial
  | edit :: later =>
    have := decidableBatchConsistent buffer document later
    inferInstanceAs (Decidable (edit.Consistent buffer document ∧ (_ → _)))

namespace Buffer

variable {buffer document : Buffer} {first last index : Nat}

theorem AgreesOn.line_eq (h : buffer.AgreesOn document first last) (hge : first ≤ index)
    (hlt : index < last) : document.line index = buffer.line index := by
  rw [Buffer.line_eq, Buffer.line_eq, h index hlt hge]

/-- What both texts have in common lies within both. -/
theorem AgreesOn.lt_lineCount (h : buffer.AgreesOn document first last) (hge : first ≤ index)
    (hlt : index < last) (hinside : index < document.lineCount) : index < buffer.lineCount := by
  have hline := h index hlt hge
  rw [List.getElem?_eq_getElem hinside] at hline
  exact (List.getElem?_eq_some_iff.mp hline).1

/-- Texts that do not agree differ on a first line. -/
theorem exists_of_not_agreesOn (h : ¬ buffer.AgreesOn document first last) :
    ∃ index, first ≤ index ∧ index < last ∧ buffer.AgreesOn document first index ∧
      buffer.lines[index]? ≠ document.lines[index]? := by
  induction last with
  | zero => exact absurd (fun _ hlt => absurd hlt (Nat.not_lt_zero _)) h
  | succ last ih =>
    by_cases habove : buffer.AgreesOn document first last
    · refine ⟨last, ?_, Nat.lt_succ_self last, habove, ?_⟩
      · apply Nat.le_of_not_lt
        intro hlt
        exact h fun index _ _ => by omega
      · intro hline
        refine h fun index hlt hge => ?_
        by_cases hlast : index = last
        · exact hlast ▸ hline
        · exact habove index (by omega) hge
    · obtain ⟨index, hge, hlt, hagrees, hline⟩ := ih habove
      exact ⟨index, hge, by omega, hagrees, hline⟩

end Buffer

namespace LineCache

variable {σ : Type} {cache old new after : LineCache σ} {buffer document : Buffer} {edit : Edit}
  {edits later : List Edit} {first last count top : Nat}

/-! ## Lines that both texts have -/

/-- Lines that the texts share are read from the new one as from the old one. -/
theorem Reread.of_agreesOn (h : Reread cache after document first last)
    (hagrees : buffer.AgreesOn document first last) : Reread cache after buffer first last where
  setup := h.setup
  dense := h.dense
  size := h.size
  outside := h.outside
  inside := fun index hge hlt =>
    (h.inside index hge hlt).congr (.refl after) (hagrees.line_eq hge hlt).symm rfl rfl

theorem Rereads.of_agreesOn {outcome : Outcome (LineCache σ) Unit}
    (h : Rereads cache outcome document first last)
    (hagrees : buffer.AgreesOn document first last) : Rereads cache outcome buffer first last := by
  rcases h with ⟨hok, hread⟩ | ⟨failing, error, hge, hlt, herror, hread, hfails⟩
  · exact .inl ⟨hok, hread.of_agreesOn hagrees⟩
  · have habove : buffer.AgreesOn document first failing :=
      fun index hindex => hagrees index (by omega)
    refine .inr ⟨failing, error, hge, hlt, herror, hread.of_agreesOn habove, ?_⟩
    rwa [FailsAt, ← hagrees.line_eq hge hlt]

/-- The grammar does not fail on lines that stand below each other in a text that it has tokenized
as a whole. -/
theorem Rereads.ok_of_complete {outcome : Outcome (LineCache σ) Unit}
    (h : Rereads cache outcome buffer first last) (habove : cache.CurrentBelow buffer first)
    (hlast : last ≤ buffer.lineCount) (hwhole : old.Complete buffer)
    (setup : SameSetup cache old) : outcome.result = .ok () := by
  rcases h with ⟨hok, _⟩ | ⟨failing, error, _, hlt, _, hread, hfails⟩
  · exact hok
  · exact absurd hwhole.current ((hread.currentBelow habove).not_currentBelow hfails
      (hread.setup.symm.trans setup) (by omega))

/-! ## One edit -/

/-- The lines that are read for an edit that starts on a cached line. -/
theorem rereads_edit {grammar : Grammar σ} (hgrammar : cache.grammar = some grammar)
    (hdense : cache.Dense) (hstart : edit.range.start.line ≤ cache.size) :
    Rereads cache (cache.reparseEdit document edit) document (edit.firstRead document)
      (edit.endRead document) := by
  have hreads := rereads_reparseEdit hgrammar hdense document edit
  rwa [show min (min edit.range.start.line document.lastLine) cache.size = edit.firstRead document
    from by rw [Edit.firstRead]; omega] at hreads

theorem firstRead_lt_endRead (edit : Edit) (document : Buffer) :
    edit.firstRead document < edit.endRead document := by
  rw [Edit.firstRead, Edit.endRead]
  omega

theorem endRead_le (edit : Edit) (document : Buffer) :
    edit.endRead document ≤ document.lineCount := by
  have hlast := document.lastLine_add_one
  rw [Edit.endRead]
  omega

/-- Lines that are read again and that both texts have lie within both. -/
theorem endRead_le_of_agreesOn
    (h : buffer.AgreesOn document (edit.firstRead document) (edit.endRead document)) :
    edit.endRead document ≤ buffer.lineCount := by
  have hlast := endRead_le edit document
  have hfirst := firstRead_lt_endRead edit document
  have hinside : edit.endRead document - 1 < buffer.lineCount :=
    h.lt_lineCount (by omega) (by omega) (by omega)
  omega

/-- The grammar does not fail on the lines of a consistent edit if it tokenizes both texts. -/
theorem reparseEdit_of_consistent {grammar : Grammar σ} (hgrammar : cache.grammar = some grammar)
    (hdense : cache.Dense) (hstart : edit.range.start.line ≤ cache.size)
    (habove : cache.CurrentBelow buffer (edit.firstRead document))
    (hold : old.Complete buffer) (holdSetup : SameSetup cache old)
    (hnew : new.Complete document) (hnewSetup : SameSetup cache new)
    (hconsistent : edit.Consistent buffer document) :
    (cache.reparseEdit document edit).result = .ok () := by
  have hreads : Rereads cache (cache.reparseEdit document edit) document _ _ :=
    rereads_edit hgrammar hdense hstart
  rcases hconsistent with hagrees | hagrees
  · have habove' : cache.CurrentBelow document (edit.firstRead document) :=
      habove.congr (.refl cache) (fun _ hlt => hagrees.line_eq (Nat.zero_le _) hlt) fun _ _ => rfl
    exact hreads.ok_of_complete habove' (endRead_le edit document) hnew hnewSetup
  · exact (hreads.of_agreesOn hagrees).ok_of_complete habove (endRead_le_of_agreesOn hagrees) hold
      holdSetup

/-- Lines that both texts have are read again as they were. The edit is contained then. -/
theorem Complete.reparseEdit_of_agreesOn [BEq σ] [LawfulBEq σ] (h : cache.Complete buffer)
    (hstart : edit.range.start.line < buffer.lineCount)
    (hstop : edit.range.stop.line < buffer.lineCount)
    (hbreaks : edit.insertedBreaks = edit.removedBreaks)
    (hagrees : buffer.AgreesOn document (edit.firstRead document) (edit.endRead document)) :
    ∃ after, cache.reparseEdit document edit = .ok after () ∧ SameSetup cache after ∧
      after.Complete buffer ∧ isContained cache after edit := by
  obtain ⟨grammar, hgrammar⟩ := h.exists_grammar
  have hsize := h.size_eq
  have hlast := endRead_le_of_agreesOn hagrees
  have hfirst := firstRead_lt_endRead edit document
  have hreads : Rereads cache (cache.reparseEdit document edit) buffer _ _ :=
    (rereads_edit hgrammar h.dense (by omega)).of_agreesOn hagrees
  have hok := hreads.ok_of_complete (h.current.mono (by omega)) hlast h (.refl cache)
  have hread := hreads.reread_of_ok hok
  have hcomplete := hread.complete h (by omega) hlast
  refine ⟨(cache.reparseEdit document edit).state, ?_, hread.setup, hcomplete, ?_⟩
  · rw [Outcome.ok, ← hok]
  · have hsame : (cache.reparseEdit document edit).state.boundary edit.range.stop.line =
        cache.boundary edit.range.stop.line := by
      rw [boundary, boundary, line?, line?, (h.lists_eq hcomplete hread.setup).1]
    simp only [isContained, hbreaks, hsame, isStable_self (h.current _ hstop), beq_self_eq_true,
      Bool.and_self]

/-! ## Batches -/

/-- Above lines that both texts have every batch is consistent. -/
theorem batchConsistent_of_agreesOn (h : buffer.AgreesOn document 0 count)
    (hstart : ∀ edit ∈ edits, edit.firstRead document ≤ count) :
    Edit.BatchConsistent buffer document edits := by
  induction edits with
  | nil => trivial
  | cons edit later ih =>
    obtain ⟨hedit, hlater⟩ := List.forall_mem_cons.mp hstart
    exact ⟨.inl fun index hindex => h index (by omega), fun _ => ih hlater⟩

/-- What is read for the edits that follow in a batch starts no lower than what is read for the
first. -/
theorem firstRead_le_of_descending (h : Edit.Descending (edit :: later)) :
    ∀ next ∈ later, next.firstRead document ≤ edit.firstRead document := by
  intro next hnext
  have hlines := (List.pairwise_cons.mp h).1 next hnext
  simp only [Edit.notAbove, decide_eq_true_eq] at hlines
  have hhigher := Position.line_le_of_le hlines
  rw [Edit.firstRead, Edit.firstRead]
  omega

/-- A consistent batch is followed without a failure if the grammar tokenizes both texts. -/
theorem Follows.applySorted_of_consistent [BEq σ] [LawfulBEq σ] {grammar : Grammar σ}
    (h : Follows cache document edits count top) (hgrammar : cache.grammar = some grammar)
    (hsize : cache.size = count) (hdescending : Edit.Descending edits)
    (hordered : ∀ edit ∈ edits, edit.range.start.line ≤ edit.range.stop.line)
    (hinside : ∀ edit ∈ edits, edit.range.start.line < count)
    (habove : ∀ edit ∈ edits, cache.CurrentBelow buffer (edit.firstRead document))
    (hold : old.Complete buffer) (holdSetup : SameSetup cache old)
    (hnew : new.Complete document) (hnewSetup : SameSetup cache new)
    (hconsistent : Edit.BatchConsistent buffer document edits) :
    (cache.applySorted document edits).result = .ok () := by
  induction edits generalizing cache with
  | nil => rfl
  | cons edit later ih =>
    obtain ⟨hedit, hlater⟩ := hconsistent
    have hstart := hinside edit List.mem_cons_self
    have hresult : (cache.reparseEdit document edit).result = .ok () :=
      reparseEdit_of_consistent hgrammar h.dense (by omega) (habove edit List.mem_cons_self) hold
        holdSetup hnew hnewSetup hedit
    have hread := (rereads_reparseEdit hgrammar h.dense document edit).reread_of_ok hresult
    have hasks := hread.setup.grammar ▸ hgrammar
    rw [applySorted, Outcome.andThen_of_ok hresult]
    by_cases hcontained : isContained cache (cache.reparseEdit document edit).state edit
    · rw [if_pos hcontained]
      obtain ⟨hnext, hsize'⟩ := h.step (hordered edit List.mem_cons_self) hread hcontained
      refine ih hnext hasks (hsize'.trans hsize) (List.pairwise_cons.mp hdescending).2
        (fun e he => hordered e (List.mem_cons_of_mem _ he))
        (fun e he => hinside e (List.mem_cons_of_mem _ he)) (fun e he => ?_)
        (hread.setup.symm.trans holdSetup) (hread.setup.symm.trans hnewSetup)
        (hlater (of_isContained hcontained).1)
      have hhigher : e.firstRead document ≤ edit.firstRead document :=
        firstRead_le_of_descending hdescending e he
      refine (habove e (List.mem_cons_of_mem _ he)).congr hread.setup (fun _ _ => rfl) ?_
      intro index hindex
      simp only [Edit.firstRead] at hhigher hindex
      exact hread.outside index (by omega)
    · -- the rest of the new text is read, all of it below lines of the new text
      rw [if_neg hcontained]
      have hreads := (h.currentAbove.widen hgrammar hread).1
      have hwhole : ReadsBelow (Outcome.ok new ()) document document.lineCount :=
        .inl ⟨rfl, hnew.current⟩
      have setup := setup_reparseFrom (cache.reparseEdit document edit).state document
        (wideningStart edit later)
      exact hreads.result_eq hwhole
        (setup.symm.trans (hread.setup.symm.trans hnewSetup))

end LineCache

end ScopeTracker
