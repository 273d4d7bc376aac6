import ScopeTracker.Document
import ScopeTracker.Proofs.Cache.Answers
import ScopeTracker.Proofs.Cache.Following

/-!
# Histories of a document

A document is edited, asked, tokenized again and given other grammars, in any order. Full readings
and queries may fail on the way. All of this leaves a correct prefix in the cache; only a failing
batch of edits does not, and the next full reading makes up for it.

Main statement: an answer depends on nothing but the text and the grammar, whatever the history
(`Reached.scopeAt_result`).
-/

namespace ScopeTracker

namespace Document

variable {σ : Type}

/-- The documents that come about while `grammar` and `maxLineLength` are set. A document is
`behind` from the first batch of edits that fails on, until its whole text is read again,
successfully or not. -/
inductive Reached [BEq σ] : Option (Grammar σ) → Nat → Bool → Document σ → Prop where
  | created {text languageId version grammar maxLineLength}
      (hok : (create text languageId version grammar maxLineLength).result = .ok ()) :
      Reached grammar maxLineLength false
        (create text languageId version grammar maxLineLength).state
  | followed {grammar maxLineLength behind document edits}
      (h : Reached grammar maxLineLength behind document)
      (hordered : ∀ edit ∈ edits, edit.range.start ≤ edit.range.stop)
      (hinside : ∀ edit ∈ edits, edit.range.start.line < document.buffer.lineCount)
      (hok : (document.onEdits edits).result = .ok ()) :
      Reached grammar maxLineLength behind (document.onEdits edits).state
  | fellBehind {grammar maxLineLength behind document edits fault}
      (h : Reached grammar maxLineLength behind document)
      (hordered : ∀ edit ∈ edits, edit.range.start ≤ edit.range.stop)
      (hinside : ∀ edit ∈ edits, edit.range.start.line < document.buffer.lineCount)
      (herror : (document.onEdits edits).result = .error fault) :
      Reached grammar maxLineLength true (document.onEdits edits).state
  | replaced {grammar maxLineLength behind document}
      (h : Reached grammar maxLineLength behind document) (text : Text) :
      Reached grammar maxLineLength false (document.replaceText text).state
  | refreshed {grammar maxLineLength behind document}
      (h : Reached grammar maxLineLength behind document) :
      Reached grammar maxLineLength false document.refresh.state
  | regrammared {grammar maxLineLength behind document}
      (h : Reached grammar maxLineLength behind document)
      (grammar' : Option (Grammar σ)) (maxLineLength' : Nat) :
      Reached grammar' maxLineLength' false (document.setGrammar grammar' maxLineLength').state
  | asked {grammar maxLineLength behind document}
      (h : Reached grammar maxLineLength behind document) (position : Position) :
      Reached grammar maxLineLength behind (document.scopeAt position).state

variable {grammar : Option (Grammar σ)} {maxLineLength : Nat} {behind : Bool}
  {document : Document σ} {edits : List Edit}

/-- What a history keeps up: the cache asks the grammar that was set last, and is a correct prefix
of the text unless it is behind. -/
structure InStep (grammar : Option (Grammar σ)) (maxLineLength : Nat) (behind : Bool)
    (document : Document σ) : Prop where
  setup : LineCache.SameSetup (.untokenized grammar maxLineLength) document.cache
  correct : behind = false → document.cache.CorrectPrefix document.buffer

/-! ## One step each -/

/-- A full reading brings the document in step, also if it fails on some line. -/
theorem InStep.refresh (setup : LineCache.SameSetup (.untokenized grammar maxLineLength)
    document.cache) : InStep grammar maxLineLength false document.refresh.state where
  setup := setup.trans (LineCache.setup_refresh document.cache document.buffer)
  correct := fun _ => LineCache.correctPrefix_refresh document.cache document.buffer

theorem inStep_create (text : Text) (languageId : String) (version : Int) :
    InStep grammar maxLineLength false
      (create text languageId version grammar maxLineLength).state where
  setup := LineCache.setup_refresh (.untokenized grammar maxLineLength) (.ofText text)
  correct := fun _ => LineCache.correctPrefix_refresh _ (.ofText text)

theorem onEdits_singleton [BEq σ] (document : Document σ) (edit : Edit) :
    document.onEdits [edit] =
      { document with buffer := document.buffer.applyEdit edit }.withCache
        (document.cache.applyChanges (document.buffer.applyEdit edit) [edit])
        (document.dense.applyChanges (document.buffer.applyEdit edit) [edit]) := by
  simp only [onEdits, Edit.sortDescending_of_descending (List.pairwise_singleton _ _),
    Buffer.applyEdits_singleton]

theorem setup_onEdits [BEq σ] (document : Document σ) (edits : List Edit) :
    LineCache.SameSetup document.cache (document.onEdits edits).state.cache :=
  LineCache.setup_applyChanges document.cache _ _

/-- A batch in any order is sorted first, and the cache follows it if the grammar does not
fail. -/
theorem correctPrefix_onEdits [BEq σ] [LawfulBEq σ]
    (h : document.cache.CorrectPrefix document.buffer)
    (hordered : ∀ edit ∈ edits, edit.range.start ≤ edit.range.stop)
    (hinside : ∀ edit ∈ edits, edit.range.start.line < document.buffer.lineCount)
    (hok : (document.onEdits edits).result = .ok ()) :
    (document.onEdits edits).state.cache.CorrectPrefix (document.onEdits edits).state.buffer := by
  have hsorted := Edit.descending_sortDescending edits
  have hlines : ∀ edit ∈ Edit.sortDescending edits, edit.range.start.line ≤ edit.range.stop.line :=
    fun edit he => Position.line_le_of_le (hordered edit (Edit.mem_sortDescending.mp he))
  have hstarts : ∀ edit ∈ Edit.sortDescending edits,
      edit.range.start.line < document.buffer.lineCount :=
    fun edit he => hinside edit (Edit.mem_sortDescending.mp he)
  exact (h.applyChanges hsorted hlines hstarts hok).1

theorem InStep.scopeAt (h : InStep grammar maxLineLength behind document) (position : Position) :
    InStep grammar maxLineLength behind (document.scopeAt position).state where
  setup := h.setup.trans (LineCache.setup_scopeAt document.cache document.buffer position)
  correct := fun hbehind => (h.correct hbehind).scopeAt position

/-! ## Whole histories -/

theorem Reached.inStep [BEq σ] [LawfulBEq σ] (h : Reached grammar maxLineLength behind document) :
    InStep grammar maxLineLength behind document := by
  induction h with
  | created hok => exact inStep_create _ _ _
  | followed _ hordered hinside hok ih =>
    exact ⟨ih.setup.trans (setup_onEdits _ _),
      fun hbehind => correctPrefix_onEdits (ih.correct hbehind) hordered hinside hok⟩
  | fellBehind _ _ _ _ ih =>
    exact ⟨ih.setup.trans (setup_onEdits _ _), fun hbehind => by cases hbehind⟩
  | replaced _ text ih => exact InStep.refresh ih.setup
  | refreshed _ ih => exact InStep.refresh ih.setup
  | regrammared _ grammar' maxLineLength' _ => exact InStep.refresh (.refl _)
  | asked _ position ih => exact ih.scopeAt position

/-- Whatever was done to a document, as long as it is not behind, a query answers as it would
with nothing cached: with the same token, or with the same fault. -/
theorem Reached.scopeAt_result [BEq σ] [LawfulBEq σ]
    (h : Reached grammar maxLineLength false document) (position : Position) :
    (document.scopeAt position).result =
      ((LineCache.untokenized grammar maxLineLength).scopeAt document.buffer position).result := by
  obtain ⟨setup, hcorrect⟩ := h.inStep
  have hcurrent := (hcorrect rfl).current
  refine LineCache.scopeAt_result_eq setup.symm document.dense (LineCache.dense_untokenized _ _)
    (hcurrent.mono (Nat.min_le_right _ _)) ?_
  -- the empty cache has no line that could be wrong
  intro index hindex
  simp only [LineCache.untokenized, LineCache.size, List.length_nil] at hindex
  omega

/-- A text is replaced, and neither reading the new one nor a query about its last line succeeds.
Then a comment is opened above the line in the way, and the last line can be asked about. -/
theorem scopeAt_result_opened :
    let document := (create ['a'] "toy" 1 (some .comments) 20).state
    let replaced := (document.replaceText ['a', '\n', '!', '\n', 'b']).state
    let asked := (replaced.scopeAt ⟨2, 0⟩).state
    let opened := (asked.onEdits [.insert ⟨0, 1⟩ ['<']]).state
    (document.replaceText ['a', '\n', '!', '\n', 'b']).result =
        .error (.grammar (.tokenize "stray mark")) ∧
      (replaced.scopeAt ⟨2, 0⟩).result = .error (.grammar (.tokenize "stray mark")) ∧
      (opened.scopeAt ⟨2, 0⟩).result = .ok ⟨⟨⟨2, 0⟩, ⟨2, 1⟩⟩, ['b'], ["comment"]⟩ ∧
      (opened.scopeAt ⟨2, 0⟩).result =
        ((LineCache.untokenized (some .comments) 20).scopeAt opened.buffer ⟨2, 0⟩).result := by
  intro document replaced asked opened
  have hcreated : Reached (some Grammar.comments) 20 false document :=
    .created (by decide +kernel)
  have hasked : Reached (some .comments) 20 false asked := (hcreated.replaced _).asked ⟨2, 0⟩
  have hopened : Reached (some .comments) 20 false opened := by
    refine hasked.followed ?_ ?_ ?_
    · decide
    · decide +kernel
    · rw [onEdits_singleton]
      decide +kernel
  have hanswer : (opened.scopeAt ⟨2, 0⟩).result =
      .ok ⟨⟨⟨2, 0⟩, ⟨2, 1⟩⟩, ['b'], ["comment"]⟩ := by
    show ((asked.onEdits [_]).state.scopeAt ⟨2, 0⟩).result = _
    rw [onEdits_singleton]
    decide +kernel
  exact ⟨by decide +kernel, by decide +kernel, hanswer, hopened.scopeAt_result ⟨2, 0⟩⟩

end Document

end ScopeTracker
