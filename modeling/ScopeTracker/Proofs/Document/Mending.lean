import ScopeTracker.Proofs.Cache.Mending
import ScopeTracker.Proofs.Document.RawText

/-!
# Documents that queries can mend

A batch on which the grammar fails leaves the cache behind. What it leaves can be mended by queries
if the batch is a single edit that changes nothing below the line it starts on, as typing within a
line is. It does not matter how often this happens, what is asked in between, or which batches are
followed in between.

Main statements: as soon as the text of such a document can be tokenized, the document answers as
one that is opened with its text (`Tended.answers`), and the changes of an editor that fit keep it
such a document (`Tended.applyContentChange`). An edit over two lines can leave an answer wrong for
good (`stale_after_two_lines`).
-/

namespace ScopeTracker

namespace Document

variable {σ : Type}

/-- The documents in which no batch fails from the last full reading on, apart from single edits
that change nothing below the line they start on. -/
inductive Tended [BEq σ] (grammar : Option (Grammar σ)) (maxLineLength : Nat) :
    Document σ → Prop where
  | inStep {document} (h : Reached grammar maxLineLength false document) :
      Tended grammar maxLineLength document
  | followed {document edits} (h : Tended grammar maxLineLength document)
      (hordered : ∀ edit ∈ edits, edit.range.start ≤ edit.range.stop)
      (hinside : ∀ edit ∈ edits, edit.range.start.line < document.buffer.lineCount)
      (hok : (document.onEdits edits).result = .ok ()) :
      Tended grammar maxLineLength (document.onEdits edits).state
  | edited {document edit} (h : Tended grammar maxLineLength document)
      (hordered : edit.range.start ≤ edit.range.stop)
      (hinside : edit.range.start.line < document.buffer.lineCount)
      (hkeeps : document.buffer.KeepsBelow edit) :
      Tended grammar maxLineLength (document.onEdits [edit]).state
  | asked {document} (h : Tended grammar maxLineLength document) (position : Position) :
      Tended grammar maxLineLength (document.scopeAt position).state

variable {grammar : Option (Grammar σ)} {maxLineLength : Nat} {document : Document σ}
  {edits : List Edit} {edit : Edit}

/-- What is tended is reached by a history, so that a full reading brings it in step. -/
theorem Tended.reached [BEq σ] (h : Tended grammar maxLineLength document) :
    ∃ behind, Reached grammar maxLineLength behind document := by
  induction h with
  | inStep h => exact ⟨false, h⟩
  | followed _ hordered hinside hok ih =>
    obtain ⟨behind, h⟩ := ih
    exact ⟨behind, h.followed hordered hinside hok⟩
  | @edited document edit _ hordered hinside _ ih =>
    obtain ⟨behind, h⟩ := ih
    cases hresult : (document.onEdits [edit]).result with
    | ok _ => exact ⟨behind, h.followed (by simpa using hordered) (by simpa using hinside) hresult⟩
    | error _ =>
      exact ⟨true, h.fellBehind (by simpa using hordered) (by simpa using hinside) hresult⟩
  | asked _ position ih =>
    obtain ⟨behind, h⟩ := ih
    exact ⟨behind, h.asked position⟩

/-- A change that an editor reports keeps a document tended unless the grammar fails on it and it
changes lines below the one it starts on. -/
theorem Tended.applyContentChange [BEq σ] (h : Tended grammar maxLineLength document)
    {change : ContentChange} (hordered : ∀ range, change.range = some range → range.Ordered)
    (hkeeps : ∀ range, change.range = some range →
      (document.applyContentChange change.range change.text).result = .ok () ∨
        document.buffer.KeepsBelow ⟨document.buffer.rangeOfUtf16 range, change.text⟩) :
    Tended grammar maxLineLength
      (document.applyContentChange change.range change.text).state := by
  obtain ⟨range, text⟩ := change
  cases range with
  | none =>
    obtain ⟨_, hreached⟩ := h.reached
    exact .inStep (hreached.replaced text)
  | some range =>
    have hordered := document.buffer.rangeOfUtf16_ordered (hordered range rfl)
    have hinside := document.buffer.rangeOfUtf16_inside range
    rcases hkeeps range rfl with hok | hkeeps
    · exact h.followed (by simpa using hordered) (by simpa using hinside) hok
    · exact h.edited hordered hinside hkeeps

/-! ## One step each -/

/-- A batch in any order is sorted first. If it is followed to its end, queries can mend what they
could mend before. -/
theorem mends_onEdits [BEq σ] [LawfulBEq σ] (h : document.cache.Mends document.buffer)
    (hordered : ∀ edit ∈ edits, edit.range.start ≤ edit.range.stop)
    (hinside : ∀ edit ∈ edits, edit.range.start.line < document.buffer.lineCount)
    (hok : (document.onEdits edits).result = .ok ()) :
    (document.onEdits edits).state.cache.Mends (document.onEdits edits).state.buffer := by
  refine h.applyChanges (Edit.descending_sortDescending edits) ?_ ?_ hok
  · simpa using fun edit he => Position.line_le_of_le (hordered edit he)
  · simpa using hinside

/-- An edit that changes nothing below its first line may also fail. -/
theorem mends_onEdits_of_keepsBelow [BEq σ] [LawfulBEq σ]
    (h : document.cache.Mends document.buffer) (hordered : edit.range.start ≤ edit.range.stop)
    (hinside : edit.range.start.line < document.buffer.lineCount)
    (hkeeps : document.buffer.KeepsBelow edit) :
    (document.onEdits [edit]).state.cache.Mends (document.onEdits [edit]).state.buffer := by
  cases hresult : (document.onEdits [edit]).result with
  | ok _ => exact mends_onEdits h (by simpa using hordered) (by simpa using hinside) hresult
  | error fault =>
    rw [onEdits_singleton] at hresult ⊢
    exact h.applyChanges_of_error hinside hkeeps hresult

/-! ## Whole histories -/

theorem Tended.mends [BEq σ] [LawfulBEq σ] (h : Tended grammar maxLineLength document) :
    LineCache.SameSetup (.untokenized grammar maxLineLength) document.cache ∧
      document.cache.Mends document.buffer := by
  induction h with
  | inStep h => exact ⟨h.inStep.setup, (h.inStep.correct rfl).mends⟩
  | followed _ hordered hinside hok ih =>
    exact ⟨ih.1.trans (setup_onEdits _ _), mends_onEdits ih.2 hordered hinside hok⟩
  | edited _ hordered hinside hkeeps ih =>
    exact ⟨ih.1.trans (setup_onEdits _ _), mends_onEdits_of_keepsBelow ih.2 hordered hinside hkeeps⟩
  | asked _ position ih =>
    exact ⟨ih.1.trans (LineCache.setup_scopeAt _ _ position), ih.2.scopeAt position⟩

/-- Whenever the text as a whole can be tokenized, every query answers as it does in a document
opened with that text, whatever failed and whatever was asked before. -/
theorem Tended.answers [BEq σ] [LawfulBEq σ] (h : Tended grammar maxLineLength document)
    (languageId : String) (version : Int)
    (hok : (create document.buffer.text languageId version grammar maxLineLength).result = .ok ())
    (position : Position) :
    ∃ info, (document.scopeAt position).result = .ok info ∧
      ((create document.buffer.text languageId version grammar
        maxLineLength).state.scopeAt position).result = .ok info := by
  obtain ⟨setup, hmends⟩ := h.mends
  simp only [create, Buffer.ofText_text, withCache, scopeAt] at hok ⊢
  exact hmends.scopeAt_build setup hok position

/-- The grammar fails on a line, an answer below is asked for meanwhile, and then a comment is
opened above the line in the way. -/
theorem answers_after_failure :
    let document := (create ['a', '\n', 'x', '\n', 'b'] "toy" 1 (some .comments) 20).state
    let failed := document.onEdits [.insert ⟨1, 1⟩ ['!']]
    let asked := (failed.state.scopeAt ⟨2, 0⟩).state
    let opened := (asked.onEdits [.insert ⟨0, 1⟩ ['<']]).state
    failed.result = .error (.grammar (.tokenize "stray mark")) ∧
      (opened.scopeAt ⟨2, 0⟩).result = .ok ⟨⟨⟨2, 0⟩, ⟨2, 1⟩⟩, ['b'], ["comment"]⟩ ∧
      ∃ info, (opened.scopeAt ⟨2, 0⟩).result = .ok info ∧
        ((create opened.buffer.text "toy" 1 (some .comments) 20).state.scopeAt ⟨2, 0⟩).result =
          .ok info := by
  intro document failed asked opened
  have hcreated : Tended (some Grammar.comments) 20 document :=
    .inStep (.created (by decide +kernel))
  have hinside : 1 < document.buffer.lineCount := by decide +kernel
  have hfailed : Tended (some .comments) 20 failed.state :=
    hcreated.edited (by decide) hinside
      (Buffer.keepsBelow_of_within hinside rfl (by decide +kernel))
  have htop : 0 < asked.buffer.lineCount := Buffer.lineCount_pos _
  have hopened : Tended (some .comments) 20 opened :=
    (hfailed.asked ⟨2, 0⟩).edited (by decide) htop
      (Buffer.keepsBelow_of_within htop rfl (by decide +kernel))
  have hfails : failed.result = .error (.grammar (.tokenize "stray mark")) := by
    simp only [failed, onEdits_singleton]
    decide +kernel
  have hanswer : (opened.scopeAt ⟨2, 0⟩).result =
      .ok ⟨⟨⟨2, 0⟩, ⟨2, 1⟩⟩, ['b'], ["comment"]⟩ := by
    simp only [opened, asked, failed, onEdits_singleton]
    decide +kernel
  have hok : (create opened.buffer.text "toy" 1 (some .comments) 20).result = .ok () := by
    simp only [opened, asked, failed, onEdits_singleton]
    decide +kernel
  exact ⟨hfails, hanswer, hopened.answers "toy" 1 hok ⟨2, 0⟩⟩

/-- Two lines are replaced and the grammar fails on the first of them. The second one opens a
comment, and when the first one is put right, nothing tells the cache that the last line was
read with another line above it. The answer there is that of the text before. -/
theorem stale_after_two_lines :
    let document := (create ['b', '\n', 'x', '\n', 'c'] "toy" 1 (some .comments) 20).state
    let failed := document.onEdits [⟨⟨⟨0, 0⟩, ⟨1, 1⟩⟩, ['!', '\n', '<']⟩]
    let repaired := failed.state.onEdits [⟨⟨⟨0, 0⟩, ⟨0, 1⟩⟩, ['b']⟩]
    let opened := create repaired.state.buffer.text "toy" 1 (some .comments) 20
    failed.result = .error (.grammar (.tokenize "stray mark")) ∧ repaired.result = .ok () ∧
      opened.result = .ok () ∧
      (repaired.state.scopeAt ⟨2, 0⟩).result = .ok ⟨⟨⟨2, 0⟩, ⟨2, 1⟩⟩, ['c'], ["code"]⟩ ∧
      (opened.state.scopeAt ⟨2, 0⟩).result = .ok ⟨⟨⟨2, 0⟩, ⟨2, 1⟩⟩, ['c'], ["comment"]⟩ := by
  simp only [onEdits_singleton]
  decide +kernel

end Document

end ScopeTracker
