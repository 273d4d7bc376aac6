import ScopeTracker.Proofs.Cache.Queries
import ScopeTracker.Proofs.Document.Histories

/-!
# Lines above all edits

The edits of a batch are followed from the lowest one on, in the line numbers of the text before the
batch, while the document may already be shorter than that. So the lines that are read for an edit
may lie above it. Still they never lie above all edits of the batch: on the way from the lowest edit
to the highest, and in a widening, nothing above the highest one is read, whether the cache was
right about these lines or stale, and whether the grammar fails on a line below or not.

Main statement: a batch leaves the lines above it as they were, in the text, in the cache and in the
answers to queries (`onEdits_above`).
-/

namespace ScopeTracker

namespace LineCache

variable {σ : Type} {before middle after cache : LineCache σ} {buffer : Buffer} {edits : List Edit}
  {outcome : Outcome (LineCache σ) Unit} {first last top : Nat}

/-- What was cached of the lines above `top` is cached as it was. Lines that were missing may have
been filled in. -/
def KeepsAbove (before after : LineCache σ) (top : Nat) : Prop :=
  ∀ index < top, index < before.size → after.entryAt index = before.entryAt index

theorem KeepsAbove.refl (cache : LineCache σ) (top : Nat) : KeepsAbove cache cache top :=
  fun _ _ _ => rfl

theorem KeepsAbove.trans (h : KeepsAbove before middle top) (h' : KeepsAbove middle after top) :
    KeepsAbove before after top := by
  intro index hindex hsize
  have hentry := h index hindex hsize
  have hcached : index < middle.size := by
    have hline : middle.line? index = some _ :=
      (line?_congr hentry).trans (List.getElem?_eq_getElem hsize)
    exact (List.getElem?_eq_some_iff.mp hline).1
  exact (h' index hindex hcached).trans hentry

/-- A pass over lines from `top` on keeps what is cached above, also if it fails. -/
theorem keepsAbove_lines (hdense : cache.Dense) (hle : first ≤ last) (hfirst : top ≤ first)
    (htop : top < buffer.lineCount) :
    KeepsAbove cache (cache.reparseRange buffer (.lines first last)).state top := by
  cases hgrammar : cache.grammar with
  | none =>
    rw [reparseRange_of_none hgrammar]
    exact .refl cache top
  | some grammar =>
    have hlast := buffer.lastLine_add_one
    intro index hindex hsize
    exact (rereads_lines hgrammar hdense buffer hle).outside (.inl (by omega))

theorem keepsAbove_reparseFrom (hdense : cache.Dense) (hfirst : top ≤ first)
    (htop : top < buffer.lineCount) :
    KeepsAbove cache (cache.reparseFrom buffer first).state top := by
  have hwidened : KeepsAbove cache (cache.widenedFrom buffer first).state top := by
    have hlast := buffer.lastLine_add_one
    unfold widenedFrom
    split
    · exact keepsAbove_lines hdense (by omega) hfirst htop
    · exact .refl cache top
  rw [reparseFrom_eq]
  refine Outcome.state_andThen (motive := (KeepsAbove cache · top)) hwidened fun _ _ =>
    hwidened.trans ?_
  -- the cache is cut to the length of the document, which lies below
  intro index hindex _
  exact entryAt_truncate _ (by omega)

/-- One edit after the other keeps what is cached above all of them. -/
theorem keepsAbove_applySorted [BEq σ] (hdense : cache.Dense)
    (hstart : ∀ edit ∈ edits, top ≤ edit.range.start.line) (htop : top < buffer.lineCount) :
    KeepsAbove cache (cache.applySorted buffer edits).state top := by
  induction edits generalizing cache with
  | nil => exact .refl cache top
  | cons edit later ih =>
    have hkept : (cache.reparseEdit buffer edit).state.Dense :=
      kept_dense.reparseRange hdense buffer _
    have hread : KeepsAbove cache (cache.reparseEdit buffer edit).state top :=
      keepsAbove_lines hdense (Nat.le_add_right _ _) (hstart edit List.mem_cons_self) htop
    rw [applySorted]
    refine Outcome.state_andThen (motive := (KeepsAbove cache · top)) hread fun _ _ => ?_
    split
    · exact hread.trans (ih hkept fun e he => hstart e (List.mem_cons_of_mem _ he))
    · exact hread.trans (keepsAbove_reparseFrom hkept (le_wideningStart hstart) htop)

theorem keepsAbove_applyChanges [BEq σ] (hdense : cache.Dense)
    (hstart : ∀ edit ∈ edits, top ≤ edit.range.start.line) (htop : top < buffer.lineCount) :
    KeepsAbove cache (cache.applyChanges buffer edits).state top := by
  unfold applyChanges
  split
  · exact .refl cache top
  · split
    · exact keepsAbove_applySorted hdense hstart htop
    · exact .refl cache top

/-- A line that is cached with its text is answered alike from two caches that hold the same entry
for it, each with a document of its own, if it is the same line in both. -/
theorem scopeAt_of_same_line {a b : LineCache σ} {document : Buffer} (setup : SameSetup a b)
    (position : Position) (hinside : position.line < buffer.lineCount)
    (hinside' : position.line < document.lineCount)
    (hline : document.line position.line = buffer.line position.line)
    (hentry : b.entryAt position.line = a.entryAt position.line)
    (hsettled : a.Settled buffer position.line) :
    ∃ info, a.scopeAt buffer position = .ok a info ∧ b.scopeAt document position = .ok b info := by
  have hclamp := buffer.clamp_of_lt hinside
  have hclamp' := document.clamp_of_lt hinside'
  cases hgrammar : a.grammar with
  | none =>
    have hgrammar' : b.grammar = none := setup.grammar ▸ hgrammar
    exact ⟨_, scopeAt_of_none hgrammar buffer position, scopeAt_of_none hgrammar' document position⟩
  | some grammar =>
    have hgrammar' : b.grammar = some grammar := setup.grammar ▸ hgrammar
    have hsettled' : b.Settled document position.line := by
      rw [Settled, hline]
      exact hsettled.congr hentry
    have hanswer : a.scopeAt buffer position = .ok a (a.tokenAt buffer (buffer.clamp position)) :=
      scopeAt_of_snapshot hgrammar (by rwa [hclamp])
    have hanswer' : b.scopeAt document position =
        .ok b (b.tokenAt document (document.clamp position)) :=
      scopeAt_of_snapshot hgrammar' (by rwa [hclamp'])
    refine ⟨_, hanswer, ?_⟩
    -- the token is looked up in the same entry, at the same place of the same text
    rw [hanswer']
    simp only [tokenAt, hclamp, hclamp', hline, line?_congr hentry]

end LineCache

namespace Document

variable {σ : Type} {edits : List Edit} {top : Nat}

/-- A batch none of whose edits starts above line `top`, be it the highest line on which one does
or a line above that. Whether the batch fails or not, and whatever the cache held, the lines above
`top` stay as they are, and so does what is cached of them; and a query about one that is cached
with its text is answered as it was before the batch. -/
theorem onEdits_above [BEq σ] (document : Document σ)
    (hstart : ∀ edit ∈ edits, top ≤ edit.range.start.line)
    (hinside : top < document.buffer.lineCount) :
    let after := (document.onEdits edits).state
    after.buffer.lines.take top = document.buffer.lines.take top ∧
      (∀ index < top, index < document.cache.size →
        after.cache.line? index = document.cache.line? index ∧
          after.cache.snapshot? index = document.cache.snapshot? index) ∧
      ∀ position, (document.buffer.clamp position).line < top →
        document.cache.Settled document.buffer (document.buffer.clamp position).line →
          ∃ info, (document.scopeAt position).result = .ok info ∧
            (after.scopeAt position).result = .ok info := by
  intro after
  have hstart' := Edit.forall_mem_sortDescending.mpr hstart
  have hinside' : top < after.buffer.lineCount := Buffer.lt_lineCount_applyEdits hstart' hinside
  have hkept : LineCache.KeepsAbove document.cache after.cache top :=
    LineCache.keepsAbove_applyChanges document.dense hstart' hinside'
  refine ⟨Buffer.take_lines_applyEdits_above hstart' hinside, ?_, ?_⟩
  · intro index hindex hsize
    have hentry := hkept index hindex hsize
    exact ⟨LineCache.line?_congr hentry, LineCache.snapshot?_congr hentry⟩
  · intro position hposition hsettled
    -- what is asked about lies above the last line, so the position was not moved there
    have hclamp := document.buffer.line_clamp position
    have hlast := document.buffer.lastLine_add_one
    have hline : (document.buffer.clamp position).line = position.line := by omega
    rw [hline] at hposition hsettled
    obtain ⟨info, hanswer, hanswer'⟩ := LineCache.scopeAt_of_same_line
      (setup_onEdits document edits) position (Nat.lt_trans hposition hinside)
      (Nat.lt_trans hposition hinside') (Buffer.line_applyEdits_above hstart' hinside hposition)
      (hkept _ hposition (hsettled.lt_size document.dense)) hsettled
    refine ⟨info, ?_, ?_⟩
    · exact congrArg Outcome.result hanswer
    · exact congrArg Outcome.result hanswer'

/-- The lower edit takes a line out and so does the higher one, so that the lower edit is read where
the last line now is. It is not contained, and the grammar fails on what the higher one put in. The
first line is cached and answered as before. -/
theorem onEdits_above_failing :
    let document := (create ['a', '\n', '<', '\n', '!', '\n', '>', '\n', 'b'] "toy" 1
      (some .comments) 20).state
    let edits : List Edit := [⟨⟨⟨3, 0⟩, ⟨4, 1⟩⟩, []⟩, ⟨⟨⟨1, 0⟩, ⟨2, 1⟩⟩, ['!']⟩]
    let after := (document.onEdits edits).state
    let info : TokenInfo := ⟨⟨⟨0, 0⟩, ⟨0, 1⟩⟩, ['a'], ["code"]⟩
    (document.onEdits edits).result = .error (.grammar (.tokenize "stray mark")) ∧
      after.buffer.lines = [['a'], ['!'], []] ∧
      after.cache.line? 0 = document.cache.line? 0 ∧
      (document.scopeAt ⟨0, 7⟩).result = .ok info ∧ (after.scopeAt ⟨0, 7⟩).result = .ok info := by
  intro document edits after info
  have hsorted : Edit.Descending edits := by decide
  have hfollowed : document.onEdits edits =
      { document with buffer := edits.foldl Buffer.applyEdit document.buffer }.withCache
        (document.cache.applyChanges (edits.foldl Buffer.applyEdit document.buffer) edits)
        (document.dense.applyChanges (edits.foldl Buffer.applyEdit document.buffer) edits) := by
    simp only [onEdits, Edit.sortDescending_of_descending hsorted,
      Buffer.applyEdits_of_descending hsorted]
  have hstart : ∀ edit ∈ edits, 1 ≤ edit.range.start.line := by decide
  have hinside : 1 < document.buffer.lineCount := by decide +kernel
  obtain ⟨_, hcached, hanswers⟩ := onEdits_above document hstart hinside
  obtain ⟨answer, hanswer, hanswer'⟩ := hanswers ⟨0, 7⟩ (by decide +kernel) (by decide +kernel)
  have hinfo : (document.scopeAt ⟨0, 7⟩).result = .ok info := by decide +kernel
  obtain rfl : answer = info := Except.ok.inj (hanswer.symm.trans hinfo)
  refine ⟨?_, ?_, (hcached 0 (by decide) (by decide +kernel)).1, hanswer, hanswer'⟩
  · rw [hfollowed]
    decide +kernel
  · simp only [after, hfollowed]
    decide +kernel

end Document

end ScopeTracker
