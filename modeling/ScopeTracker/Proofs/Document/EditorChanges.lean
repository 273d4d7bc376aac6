import ScopeTracker.Proofs.Cache.Reversed
import ScopeTracker.Proofs.Document.Histories
import ScopeTracker.Server.Params.Document

/-!
# Changes that an editor reports

An editor may send any range: past the end, inside a surrogate pair, or with its end before its
start. Both ends are converted and neither is moved to the other. If the end lies on a line above
the start, the buffer inserts at the start, and the cache looks for the end of the edit on a line
that the edit does not touch.

Such a change slips through if it puts a text without breaks into a line above the last one.

Main statements: changes that do not slip leave every line tokenized (`Whole.applyContentChanges`),
and then a document answers as one does that is opened with its text (`Whole.answersAsOpened`).
-/

namespace ScopeTracker

/-! ## The text -/

namespace Buffer

variable {buffer : Buffer} {range : Utf16Range}

/-- The buffer after a change. -/
def applyContentChange (buffer : Buffer) (change : ContentChange) : Buffer :=
  match change.range with
  | some range => buffer.applyEdit ⟨buffer.rangeOfUtf16 range, change.text⟩
  | none => .ofText change.text

/-- A change that the cache takes for contained though it changes the line it starts on: its
range ends on a line above, the text has no break, and there are lines below. -/
def Slips (buffer : Buffer) (change : ContentChange) : Prop :=
  ∃ range, change.range = some range ∧ range.stop.line < range.start.line ∧
    range.start.line < buffer.lastLine ∧ change.text ≠ [] ∧ change.text.countLineBreaks = 0

theorem line_positionOfUtf16 (buffer : Buffer) (position : Utf16Position) :
    (buffer.positionOfUtf16 position).line = min position.line buffer.lastLine := by
  unfold positionOfUtf16
  split
  · simp only [endPosition]
    omega
  · simp only
    omega

theorem rangeOfUtf16_inside (buffer : Buffer) (range : Utf16Range) :
    (buffer.rangeOfUtf16 range).start.line < buffer.lineCount := by
  have hlast := buffer.lastLine_add_one
  simp only [rangeOfUtf16, line_positionOfUtf16]
  omega

theorem rangeOfUtf16_reversed (hreversed : range.stop.line < range.start.line)
    (habove : range.start.line < buffer.lastLine) :
    (buffer.rangeOfUtf16 range).stop.line < (buffer.rangeOfUtf16 range).start.line ∧
      (buffer.rangeOfUtf16 range).start.line = range.start.line := by
  simp only [rangeOfUtf16, line_positionOfUtf16]
  omega

/-- Of a change that does not slip, one of four things can be said. -/
theorem followed_of_not_slips {text : Text} (h : ¬ buffer.Slips ⟨some range, text⟩) :
    (buffer.rangeOfUtf16 range).start.line ≤ (buffer.rangeOfUtf16 range).stop.line ∨
      (⟨buffer.rangeOfUtf16 range, text⟩ : Edit).insertedBreaks ≠ 0 ∨
      (buffer.rangeOfUtf16 range).start.line = buffer.lastLine ∨ text = [] := by
  simp only [rangeOfUtf16, line_positionOfUtf16, Edit.insertedBreaks]
  by_cases htext : text = []
  · exact .inr (.inr (.inr htext))
  by_cases hbreaks : text.countLineBreaks = 0
  · by_cases hreversed : range.stop.line < range.start.line
    · by_cases habove : range.start.line < buffer.lastLine
      · exact absurd ⟨range, rfl, hreversed, habove, htext, hbreaks⟩ h
      · exact .inr (.inr (.inl (by omega)))
    · exact .inl (by omega)
  · exact .inr (.inl hbreaks)

end Buffer

namespace Document

variable {σ : Type} {grammar : Grammar σ} {maxLineLength : Nat} {document : Document σ}
  {changes : List ContentChange} {change : ContentChange}

/-- Carries out changes one after the other, up to the first that fails. -/
def applyContentChanges [BEq σ] (document : Document σ) :
    List ContentChange → Outcome (Document σ) Unit
  | [] => .ok document ()
  | change :: later =>
    (document.applyContentChange change.range change.text).andThen fun document _ =>
      document.applyContentChanges later

theorem applyContentChanges_singleton [BEq σ] (document : Document σ) (change : ContentChange) :
    document.applyContentChanges [change] =
      document.applyContentChange change.range change.text := by
  rcases h : document.applyContentChange change.range change.text with ⟨state, result⟩
  cases result <;> simp only [applyContentChanges, h, Outcome.andThen, Outcome.ok, Outcome.fail]

theorem applyContentChanges_append [BEq σ] (document : Document σ)
    (earlier later : List ContentChange) :
    document.applyContentChanges (earlier ++ later) =
      (document.applyContentChanges earlier).andThen fun document _ =>
        document.applyContentChanges later := by
  induction earlier generalizing document with
  | nil => rfl
  | cons change rest ih =>
    rw [List.cons_append, applyContentChanges, applyContentChanges, Outcome.andThen_assoc]
    simp only [ih]

/-- If all changes succeed, the first ones do. -/
theorem applyContentChanges_ok_of_append [BEq σ] {earlier later : List ContentChange}
    (hok : (document.applyContentChanges (earlier ++ later)).result = .ok ()) :
    (document.applyContentChanges earlier).result = .ok () := by
  rw [applyContentChanges_append] at hok
  exact Outcome.ok_of_andThen hok

/-- The text follows a change whether the grammar fails or not. -/
theorem buffer_applyContentChange [BEq σ] (document : Document σ) (change : ContentChange) :
    (document.applyContentChange change.range change.text).state.buffer =
      document.buffer.applyContentChange change := by
  obtain ⟨range, text⟩ := change
  cases range with
  | none => rfl
  | some range =>
    simp only [applyContentChange, Buffer.applyContentChange, onEdits_singleton]
    rfl

theorem buffer_applyContentChanges [BEq σ]
    (hok : (document.applyContentChanges changes).result = .ok ()) :
    (document.applyContentChanges changes).state.buffer =
      changes.foldl Buffer.applyContentChange document.buffer := by
  induction changes generalizing document with
  | nil => rfl
  | cons change later ih =>
    rw [applyContentChanges] at hok ⊢
    have hfirst := Outcome.ok_of_andThen hok
    rw [Outcome.andThen_of_ok hfirst] at hok ⊢
    rw [ih hok, buffer_applyContentChange, List.foldl_cons]

/-! ## Changes that are followed -/

/-- Every line is tokenized, by the grammar that the document was given. -/
structure Whole (grammar : Grammar σ) (maxLineLength : Nat) (document : Document σ) : Prop where
  setup : LineCache.SameSetup (.untokenized (some grammar) maxLineLength) document.cache
  complete : document.cache.Complete document.buffer

/-- The document answers, everywhere, as one does that is opened with its text. -/
def AnswersAsOpened (grammar : Grammar σ) (maxLineLength : Nat) (languageId : String)
    (version : Int) (document : Document σ) : Prop :=
  let opened := create document.buffer.text languageId version (some grammar) maxLineLength
  opened.result = .ok () ∧
    ∀ position, ∃ info, (document.scopeAt position).result = .ok info ∧
      (opened.state.scopeAt position).result = .ok info

theorem whole_create {text : Text} {languageId : String} {version : Int}
    (hok : (create text languageId version (some grammar) maxLineLength).result = .ok ()) :
    Whole grammar maxLineLength
      (create text languageId version (some grammar) maxLineLength).state where
  setup := LineCache.setup_refresh (.untokenized (some grammar) maxLineLength) (.ofText text)
  complete := LineCache.complete_refresh rfl hok

theorem Whole.asks (h : Whole grammar maxLineLength document) :
    document.cache.grammar = some grammar :=
  h.setup.grammar.symm

/-- A change that does not slip leaves every line tokenized, unless the grammar fails. -/
theorem Whole.applyContentChange [BEq σ] [LawfulBEq σ] (h : Whole grammar maxLineLength document)
    (hslips : ¬ document.buffer.Slips change)
    (hok : (document.applyContentChange change.range change.text).result = .ok ()) :
    Whole grammar maxLineLength
      (document.applyContentChange change.range change.text).state := by
  obtain ⟨range, text⟩ := change
  cases range with
  | none =>
    exact ⟨h.setup.trans (LineCache.setup_refresh document.cache (.ofText text)),
      LineCache.complete_refresh h.asks hok⟩
  | some range =>
    simp only [Document.applyContentChange, onEdits_singleton] at hok ⊢
    exact ⟨h.setup.trans (LineCache.setup_applyChanges document.cache _ _),
      h.complete.applyChanges_single (document.buffer.rangeOfUtf16_inside range)
        (Buffer.followed_of_not_slips hslips) hok⟩

/-- No change slips, each seen on the text that the changes before it leave. -/
theorem Whole.applyContentChanges [BEq σ] [LawfulBEq σ] (h : Whole grammar maxLineLength document)
    (hslips : ∀ earlier change later, changes = earlier ++ change :: later →
      ¬ (earlier.foldl Buffer.applyContentChange document.buffer).Slips change)
    (hok : (document.applyContentChanges changes).result = .ok ()) :
    Whole grammar maxLineLength (document.applyContentChanges changes).state := by
  induction changes generalizing document with
  | nil => exact h
  | cons change later ih =>
    have hfirst : ¬ document.buffer.Slips change := hslips [] change later rfl
    rw [Document.applyContentChanges] at hok ⊢
    have hresult := Outcome.ok_of_andThen hok
    rw [Outcome.andThen_of_ok hresult] at hok ⊢
    refine ih (h.applyContentChange hfirst hresult) ?_ hok
    intro earlier next rest hsplit
    rw [buffer_applyContentChange]
    exact hslips (change :: earlier) next rest (by rw [hsplit, List.cons_append])

/-- A document with all its lines tokenized answers as if it had just been opened. -/
theorem Whole.answersAsOpened (h : Whole grammar maxLineLength document) (languageId : String)
    (version : Int) : AnswersAsOpened grammar maxLineLength languageId version document := by
  have hbuffer := document.buffer.ofText_text
  obtain ⟨hbuild, -⟩ := h.complete.build_eq
  rw [← h.setup.grammar, ← h.setup.maxLineLength] at hbuild
  have hopened :
      (create document.buffer.text languageId version (some grammar) maxLineLength).result =
        .ok () := by
    simp only [create, hbuffer]
    exact hbuild
  have hwhole := whole_create hopened
  refine ⟨hopened, fun position => ?_⟩
  -- both caches are complete for one buffer
  have hsame : (document.scopeAt position).result =
      ((create document.buffer.text languageId version (some grammar)
        maxLineLength).state.scopeAt position).result := by
    have hcurrent := hwhole.complete.correctPrefix.current
    simp only [create, hbuffer, scopeAt, withCache] at hcurrent ⊢
    exact LineCache.scopeAt_result_eq (h.setup.symm.trans (LineCache.setup_refresh _ _))
      document.dense (LineCache.dense_refresh _ _)
      (h.complete.correctPrefix.current.mono (Nat.min_le_right _ _))
      (hcurrent.mono (Nat.min_le_right _ _))
  have hanswer : (document.scopeAt position).result =
      .ok (document.cache.tokenAt document.buffer (document.buffer.clamp position)) :=
    congrArg Outcome.result (h.complete.scopeAt_eq position)
  exact ⟨_, hanswer, hsame ▸ hanswer⟩

end Document

end ScopeTracker
