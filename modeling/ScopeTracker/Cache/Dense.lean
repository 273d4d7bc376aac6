import ScopeTracker.Cache.Query
import ScopeTracker.Cache.Update

/-!
# Dense caches

The lines of a cache and their texts stand in two lists, of which first one is written and then the
other. A cache is dense if both are of one length, so that each line has a text.

All that operations do to the two lists is to read a line and to cut them off. What these two keep
is kept by every operation, also by one that fails (`Kept`). What the reading of a line can come to
is said once (`ReadsLine`).

Main statement: that a cache is dense is kept (`kept_dense`).
-/

namespace ScopeTracker

namespace LineCache

variable {σ : Type} {cache : LineCache σ} {index : Nat}

/-- Each cached line has a text, and there are no other texts. -/
def Dense (cache : LineCache σ) : Prop := cache.lines.length = cache.snapshots.length

instance (cache : LineCache σ) : Decidable cache.Dense := inferInstanceAs (Decidable (_ = _))

/-- What the two lists hold for a line. -/
def entryAt (cache : LineCache σ) (index : Nat) : Option (CachedLine σ) × Option Text :=
  (cache.line? index, cache.snapshot? index)

/-! ## What reading and cutting keep -/

/-- A property of caches that stays true when any line of any document is read and when the cache
is cut off. -/
structure Kept (motive : LineCache σ → Prop) : Prop where
  reparseLine : ∀ cache buffer index, motive cache → motive (cache.reparseLine buffer index).state
  truncate : ∀ cache count, motive cache → motive (cache.truncate count)

namespace Kept

variable {motive : LineCache σ → Prop} (kept : Kept motive)
include kept

theorem reparseLines (h : motive cache) (buffer : Buffer) (first count : Nat) :
    motive (cache.reparseLines buffer first count).state := by
  induction count generalizing cache first with
  | zero => exact h
  | succ count ih =>
    have hline := kept.reparseLine cache buffer first h
    exact Outcome.state_andThen hline fun _ _ => ih hline (first + 1)

theorem reparseRange (h : motive cache) (buffer : Buffer) (range : Range) :
    motive (cache.reparseRange buffer range).state := by
  unfold LineCache.reparseRange
  split
  · exact h
  · exact kept.reparseLines h buffer _ _

/-- Clearing a cache cuts off all of it. -/
theorem refresh (h : motive cache) (buffer : Buffer) : motive (cache.refresh buffer).state :=
  kept.reparseRange (kept.truncate cache 0 h) buffer _

theorem reparseFrom (h : motive cache) (buffer : Buffer) (first : Nat) :
    motive (cache.reparseFrom buffer first).state := by
  unfold LineCache.reparseFrom
  dsimp only
  split
  · have hwidened := kept.reparseRange h buffer (.lines first buffer.lastLine)
    exact Outcome.state_andThen hwidened fun _ _ => kept.truncate _ _ hwidened
  · exact kept.truncate cache _ h

theorem applySorted [BEq σ] (h : motive cache) (buffer : Buffer) (edits : List Edit) :
    motive (cache.applySorted buffer edits).state := by
  induction edits generalizing cache with
  | nil => exact h
  | cons edit later ih =>
    have hread : motive (cache.reparseEdit buffer edit).state := kept.reparseRange h buffer _
    rw [LineCache.applySorted]
    refine Outcome.state_andThen hread fun _ _ => ?_
    split
    · exact ih hread
    · exact kept.reparseFrom hread buffer _

theorem applyChanges [BEq σ] (h : motive cache) (buffer : Buffer) (edits : List Edit) :
    motive (cache.applyChanges buffer edits).state := by
  unfold LineCache.applyChanges
  split
  · exact h
  · split
    · exact kept.applySorted h buffer edits
    · exact h

theorem ensureLine (h : motive cache) (buffer : Buffer) (index : Nat) :
    motive (cache.ensureLine buffer index).state := by
  unfold LineCache.ensureLine
  split
  · exact h
  · exact kept.reparseRange h buffer _

theorem scopeAt (h : motive cache) (buffer : Buffer) (position : Position) :
    motive (cache.scopeAt buffer position).state := by
  unfold LineCache.scopeAt
  split
  · exact h
  · have hensured := kept.ensureLine h buffer (buffer.clamp position).line
    exact Outcome.state_andThen hensured fun _ _ => hensured

end Kept

/-! ## How a line is read -/

/-- The cache with one more call of the grammar, which counts if it is answered with tokens. -/
def called (cache : LineCache σ) (grammar : Grammar σ) (call : GrammarCall σ) : LineCache σ :=
  { cache with
    journal := call :: cache.journal
    tokenizedLines := cache.tokenizedLines +
      if (grammar.tokenizeLine call.text call.prior).isOk then 1 else 0 }

/-- What the reading of a line can come to: nothing is done without a grammar, a line that is too
long is stored without a call, and otherwise the call is made, and its answer is stored if it has
one. -/
inductive ReadsLine (cache : LineCache σ) (buffer : Buffer) (index : Nat) :
    Outcome (LineCache σ) Unit → Prop where
  | without (hnone : cache.grammar = none) : ReadsLine cache buffer index (.ok cache ())
  | skipped {grammar} (hgrammar : cache.grammar = some grammar)
      (hlong : cache.maxLineLength < (buffer.line index).byteLength) :
      ReadsLine cache buffer index (cache.store index (buffer.line index) .skipped)
  | failed {grammar error} (hgrammar : cache.grammar = some grammar)
      (hshort : (buffer.line index).byteLength ≤ cache.maxLineLength)
      (hanswer : grammar.tokenizeLine (buffer.line index) (cache.stateBefore index) =
        .error error) :
      ReadsLine cache buffer index
        (.fail (cache.called grammar ⟨buffer.line index, cache.stateBefore index⟩)
          (.grammar error))
  | tokenized {grammar line} (hgrammar : cache.grammar = some grammar)
      (hshort : (buffer.line index).byteLength ≤ cache.maxLineLength)
      (hanswer : grammar.tokenizeLine (buffer.line index) (cache.stateBefore index) = .ok line) :
      ReadsLine cache buffer index
        ((cache.called grammar ⟨buffer.line index, cache.stateBefore index⟩).store index
          (buffer.line index) (.tokenized line))

theorem readsLine (cache : LineCache σ) (buffer : Buffer) (index : Nat) :
    ReadsLine cache buffer index (cache.reparseLine buffer index) := by
  unfold LineCache.reparseLine
  split
  · rename_i hnone
    exact .without hnone
  · rename_i grammar hgrammar
    dsimp only
    split
    · rename_i hlong
      exact .skipped hgrammar hlong
    · rename_i hshort
      split
      · rename_i error hanswer
        have hfailed := ReadsLine.failed hgrammar (Nat.le_of_not_lt hshort) hanswer
        simpa only [called, hanswer, Except.isOk, Except.toBool, Bool.false_eq_true, if_false,
          Nat.add_zero] using hfailed
      · rename_i line hanswer
        have hread := ReadsLine.tokenized hgrammar (Nat.le_of_not_lt hshort) hanswer
        simpa only [called, hanswer, Except.isOk, Except.toBool, if_true] using hread

/-! ## Two lists of one length -/

theorem dense_untokenized (grammar : Option (Grammar σ)) (maxLineLength : Nat) :
    (untokenized grammar maxLineLength).Dense := rfl

theorem dense_clear (cache : LineCache σ) : cache.clear.Dense := rfl

theorem Dense.forgetCalls (h : cache.Dense) : cache.forgetCalls.Dense := h

/-- A line is written into both lists, or is put at the end of both. -/
theorem Dense.store (h : cache.Dense) (index : Nat) (text : Text) (line : CachedLine σ) :
    (cache.store index text line).state.Dense := by
  have hlength : cache.lines.length = cache.snapshots.length := h
  unfold LineCache.store Dense
  split
  · dsimp only
    split
    · simpa only [Outcome.ok, List.length_set] using hlength
    · simpa only [Outcome.fail, List.length_set] using hlength
  · split
    · simpa only [Outcome.ok, List.length_append, List.length_singleton, Nat.add_right_cancel_iff]
        using hlength
    · exact hlength

theorem ReadsLine.dense {buffer : Buffer} {outcome : Outcome (LineCache σ) Unit}
    (hread : ReadsLine cache buffer index outcome) (h : cache.Dense) : outcome.state.Dense := by
  cases hread with
  | without => exact h
  | skipped => exact h.store index _ _
  | failed => exact h
  | tokenized =>
    refine Dense.store ?_ index _ _
    exact h

theorem Dense.truncate (h : cache.Dense) (count : Nat) : (cache.truncate count).Dense := by
  have hlength : cache.lines.length = cache.snapshots.length := h
  simp only [Dense, LineCache.truncate, List.length_take, hlength]

theorem kept_dense : Kept (σ := σ) Dense where
  reparseLine := fun cache buffer index h => (cache.readsLine buffer index).dense h
  truncate := fun _ count h => h.truncate count

/-- Whatever the two lists were, both are cleared first. -/
theorem dense_refresh (cache : LineCache σ) (buffer : Buffer) :
    (cache.refresh buffer).state.Dense :=
  kept_dense.reparseRange cache.dense_clear buffer _

theorem Dense.applyChanges [BEq σ] (h : cache.Dense) (buffer : Buffer) (edits : List Edit) :
    (cache.applyChanges buffer edits).state.Dense :=
  kept_dense.applyChanges h buffer edits

theorem Dense.scopeAt (h : cache.Dense) (buffer : Buffer) (position : Position) :
    (cache.scopeAt buffer position).state.Dense :=
  kept_dense.scopeAt h buffer position

/-- A text is that of a cached line. -/
theorem Dense.exists_line (h : cache.Dense) {text : Text}
    (hsnapshot : cache.snapshot? index = some text) : ∃ line, cache.line? index = some line := by
  have hlength : cache.lines.length = cache.snapshots.length := h
  have hindex : index < cache.snapshots.length := (List.getElem?_eq_some_iff.mp hsnapshot).1
  exact ⟨_, List.getElem?_eq_getElem (hlength ▸ hindex)⟩

theorem Dense.lt_size (h : cache.Dense) {text : Text}
    (hsnapshot : cache.snapshot? index = some text) :
    index < cache.size := by
  obtain ⟨_, hline⟩ := h.exists_line hsnapshot
  exact (List.getElem?_eq_some_iff.mp hline).1

end LineCache

end ScopeTracker
