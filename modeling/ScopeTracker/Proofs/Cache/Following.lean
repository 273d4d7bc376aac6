import ScopeTracker.Cache.Update
import ScopeTracker.Proofs.Cache.Reparse

/-!
# Following edits

A batch of edits is followed from the lowest edit to the highest, while the document already is
the one after the whole batch. An edit is contained if it puts in as many breaks as it takes out
and leaves the state at the end of its last line as it was. As long as all edits are contained,
no line has moved, and every line that no edit still to come touches is current (`Follows`). The
first edit that is not contained ends the batch with a reading of all that is left, for which only
the lines above the batch have to be current (`CurrentAbove`).

Main statement: a batch leaves a correct prefix correct, and what was the cache of the whole
document before it is the cache of the whole document after it (`applyChanges_eq_build`).
-/

namespace ScopeTracker

namespace LineCache

variable {σ : Type} {before after reparsed cache : LineCache σ} {buffer : Buffer}
  {edit : Edit} {edits later : List Edit} {count top : Nat}

/-! ## Contained edits -/

theorem isStable_boundary [BEq σ] [LawfulBEq σ] {index : Nat}
    (h : (before.boundary index).isStable (after.boundary index)) :
    index < before.size ∧ after.stateBefore (index + 1) = before.stateBefore (index + 1) := by
  simp only [boundary, stateBefore] at h ⊢
  cases hbefore : before.line? index with
  | none => simp [hbefore, Boundary.ofLine?, Boundary.isStable] at h
  | some line =>
    have hsize : index < before.size := (List.getElem?_eq_some_iff.mp hbefore).1
    refine ⟨hsize, ?_⟩
    rw [hbefore] at h
    cases hafter : after.line? index with
    | none => cases line <;> simp [hafter, Boundary.ofLine?, Boundary.isStable] at h
    | some line' =>
      rw [hafter] at h
      cases line with
      | skipped =>
        cases line' with
        | skipped => rfl
        | tokenized _ => simp [Boundary.ofLine?, Boundary.isStable] at h
      | tokenized tokens =>
        cases line' with
        | skipped => simp [Boundary.ofLine?, Boundary.isStable] at h
        | tokenized tokens' =>
          have hstate : tokens.endState = tokens'.endState := by
            simpa [Boundary.ofLine?, Boundary.isStable] using h
          simp [CachedLine.endState?, hstate]

/-- A contained edit keeps the line count, its last line was cached, and the line below that is
read from the same state as before. -/
theorem of_isContained [BEq σ] [LawfulBEq σ] (h : isContained before after edit) :
    edit.insertedBreaks = edit.removedBreaks ∧ edit.range.stop.line < before.size ∧
      after.stateBefore (edit.range.stop.line + 1) =
        before.stateBefore (edit.range.stop.line + 1) := by
  simp only [isContained, Bool.and_eq_true, beq_iff_eq] at h
  exact ⟨h.1, isStable_boundary h.2⟩

/-! ## Widening -/

private theorem foldl_min_le (edits : List Edit) (first : Nat) :
    edits.foldl (fun first edit => min first edit.range.start.line) first ≤ first ∧
      ∀ edit ∈ edits,
        edits.foldl (fun first edit => min first edit.range.start.line) first ≤
          edit.range.start.line := by
  induction edits generalizing first with
  | nil => simp
  | cons edit later ih =>
    obtain ⟨hfirst, hlater⟩ := ih (min first edit.range.start.line)
    simp only [List.foldl_cons, List.mem_cons]
    refine ⟨by omega, ?_⟩
    rintro e (rfl | he)
    · omega
    · exact hlater e he

theorem wideningStart_le (he : edit ∈ later) (first : Edit) :
    wideningStart first later ≤ edit.range.start.line :=
  (foldl_min_le later _).2 edit he

/-- A widening starts no higher than the highest of the edits that are left. -/
theorem le_wideningStart (hstart : ∀ e ∈ edit :: later, top ≤ e.range.start.line) :
    top ≤ wideningStart edit later := by
  have hfirst := hstart edit List.mem_cons_self
  have hlow : top ≤ edit.range.start.line + edit.insertedBreaks + 1 := by omega
  unfold wideningStart
  generalize edit.range.start.line + edit.insertedBreaks + 1 = low at hlow
  induction later generalizing low with
  | nil => exact hlow
  | cons next rest ih =>
    simp only [List.forall_mem_cons] at hstart
    exact ih (by simpa using ⟨hstart.1, hstart.2.2⟩) (min low next.range.start.line) (by omega)

/-- The reading that a widening does, before the cache is cut to the length of the document. -/
def widenedFrom (cache : LineCache σ) (buffer : Buffer) (first : Nat) :
    Outcome (LineCache σ) Unit :=
  if first < buffer.lineCount then cache.reparseRange buffer (.lines first buffer.lastLine)
  else .ok cache ()

theorem reparseFrom_eq (cache : LineCache σ) (buffer : Buffer) (first : Nat) :
    cache.reparseFrom buffer first =
      (cache.widenedFrom buffer first).andThen fun cache _ =>
        .ok (cache.truncate buffer.lineCount) () := rfl

theorem rereads_widenedFrom {grammar : Grammar σ} (hgrammar : cache.grammar = some grammar)
    (hdense : cache.Dense) {first : Nat} (hfirst : first < buffer.lineCount) :
    Rereads cache (cache.widenedFrom buffer first) buffer (min first cache.size)
      buffer.lineCount := by
  have hlast := buffer.lastLine_add_one
  have hreads := rereads_lines hgrammar hdense buffer (show first ≤ buffer.lastLine by omega)
  rw [show min buffer.lastLine buffer.lastLine + 1 = buffer.lineCount from by omega,
    show min first buffer.lastLine = first from by omega] at hreads
  rwa [widenedFrom, if_pos hfirst]

theorem readsBelow_widenedFrom {grammar : Grammar σ} (hgrammar : cache.grammar = some grammar)
    (hdense : cache.Dense) {first : Nat}
    (habove : cache.CurrentBelow buffer (min (min first buffer.lineCount) cache.size))
    (hcovers : buffer.lineCount ≤ first → buffer.lineCount ≤ cache.size) :
    ReadsBelow (cache.widenedFrom buffer first) buffer buffer.lineCount := by
  by_cases hfirst : first < buffer.lineCount
  · exact (rereads_widenedFrom hgrammar hdense hfirst).readsBelow (habove.mono (by omega))
  · -- nothing is left to read, so the cache has to cover the document already
    have hsize := hcovers (by omega)
    rw [widenedFrom, if_neg hfirst]
    exact .inl ⟨rfl, habove.mono (by omega)⟩

/-- Reading from a line on gives the whole document if the lines above are current. -/
theorem readsBelow_reparseFrom {grammar : Grammar σ} (hgrammar : cache.grammar = some grammar)
    (hdense : cache.Dense) {first : Nat}
    (habove : cache.CurrentBelow buffer (min (min first buffer.lineCount) cache.size))
    (hcovers : buffer.lineCount ≤ first → buffer.lineCount ≤ cache.size) :
    ReadsBelow (cache.reparseFrom buffer first) buffer buffer.lineCount ∧
      ((cache.reparseFrom buffer first).result = .ok () →
        (cache.reparseFrom buffer first).state.Complete buffer) := by
  have hwhole := kept_dense.reparseFrom hdense buffer first
  rw [reparseFrom_eq] at hwhole ⊢
  rcases readsBelow_widenedFrom hgrammar hdense habove hcovers with
    ⟨hok, hcurrent⟩ | ⟨failing, error, hlt, herror, hcurrent, hfails⟩
  · rw [Outcome.andThen_of_ok hok] at hwhole ⊢
    -- cutting the cache keeps the lines of the document
    have hcut : ((cache.widenedFrom buffer first).state.truncate buffer.lineCount).CurrentBelow
        buffer buffer.lineCount :=
      hcurrent.congr (show SameSetup _ (truncate _ _) from ⟨rfl, rfl⟩)
        (fun _ _ => rfl) fun _ hindex => entryAt_truncate _ hindex
    refine ⟨.inl ⟨rfl, hcut⟩, fun _ => ⟨hwhole, ?_, hcut⟩⟩
    have hsize := hcurrent.le_size
    simp only [Outcome.ok, size_truncate]
    omega
  · rw [Outcome.andThen_of_error herror]
    exact ⟨.inr ⟨failing, error, hlt, rfl, hcurrent, hfails⟩, fun hok => by cases hok⟩

/-! ## What a widening relies on -/

theorem rereads_reparseEdit {grammar : Grammar σ} (hgrammar : cache.grammar = some grammar)
    (hdense : cache.Dense) (buffer : Buffer) (edit : Edit) :
    Rereads cache (cache.reparseEdit buffer edit) buffer
      (min (min edit.range.start.line buffer.lastLine) cache.size)
      (min (edit.range.start.line + edit.insertedBreaks) buffer.lastLine + 1) :=
  rereads_lines hgrammar hdense buffer (Nat.le_add_right _ _)

/-- While the edits `edits` of a batch are still to be followed, `top` is the line on which the
highest of them starts, and what is cached of the lines above it is current. Of the other lines
nothing is known: they may be stale, missing, or none of the document's. -/
structure CurrentAbove (cache : LineCache σ) (buffer : Buffer) (edits : List Edit) (top : Nat) :
    Prop where
  start_ge : ∀ edit ∈ edits, top ≤ edit.range.start.line
  last_start : ∀ edit, edits.getLast? = some edit → edit.range.start.line = top
  current : cache.CurrentBelow buffer (min (min top buffer.lineCount) cache.size)

/-- Reading the lines of an edit leaves the lines above the batch current, and makes those current
that it fills in on the way down. -/
theorem CurrentAbove.reread (h : CurrentAbove cache buffer (edit :: later) top)
    (hread : Reread cache reparsed buffer
      (min (min edit.range.start.line buffer.lastLine) cache.size)
      (min (edit.range.start.line + edit.insertedBreaks) buffer.lastLine + 1)) :
    CurrentAbove reparsed buffer later top where
  start_ge := fun e he => h.start_ge e (List.mem_cons_of_mem _ he)
  last_start := by
    intro e he
    apply h.last_start
    cases later with
    | nil => simp at he
    | cons next rest => simpa using he
  current := by
    have hstart := h.start_ge edit List.mem_cons_self
    have hlast := buffer.lastLine_add_one
    intro index hindex
    by_cases hkept : index < min (min edit.range.start.line buffer.lastLine) cache.size
    · refine (h.current index (by omega)).congr hread.setup rfl
        (hread.outside index (.inl hkept)) ?_
      exact stateBefore_congr fun above habove => hread.outside above (by omega)
    · exact hread.inside index (by omega) (by omega)

/-- The reading that an edit starts that is not contained makes up for all that was wrong before,
whatever that was. -/
theorem CurrentAbove.widen {grammar : Grammar σ}
    (h : CurrentAbove cache buffer (edit :: later) top) (hgrammar : cache.grammar = some grammar)
    (hread : Reread cache reparsed buffer
      (min (min edit.range.start.line buffer.lastLine) cache.size)
      (min (edit.range.start.line + edit.insertedBreaks) buffer.lastLine + 1)) :
    ReadsBelow (reparsed.reparseFrom buffer (wideningStart edit later)) buffer buffer.lineCount ∧
      ((reparsed.reparseFrom buffer (wideningStart edit later)).result = .ok () →
        (reparsed.reparseFrom buffer (wideningStart edit later)).state.Complete buffer) := by
  have hlast := buffer.lastLine_add_one
  have hsize := hread.size
  have hasks : reparsed.grammar = some grammar := hread.setup.grammar ▸ hgrammar
  have hnext := h.reread hread
  cases hlater : later with
  | nil =>
    -- the edit is the highest one: what lies above the widening was read just now
    have hhighest : edit.range.start.line = top := h.last_start edit (by simp [hlater])
    have hfirst : wideningStart edit [] = edit.range.start.line + edit.insertedBreaks + 1 := rfl
    have habove : reparsed.CurrentBelow buffer
        (min (edit.range.start.line + edit.insertedBreaks) buffer.lastLine + 1) :=
      hread.currentBelow (h.current.mono (by omega))
    exact readsBelow_reparseFrom hasks hread.dense (habove.mono (by omega)) fun hcovers => by omega
  | cons next rest =>
    -- an edit is still to come, and the widening starts no lower than the highest one
    obtain ⟨highest, hhighest⟩ : ∃ highest, (next :: rest).getLast? = some highest :=
      ⟨_, List.getLast?_eq_some_getLast (by simp)⟩
    have hlow := wideningStart_le (List.mem_of_getLast? hhighest) edit
    have hstart := h.start_ge edit List.mem_cons_self
    rw [hnext.last_start highest (hlater ▸ hhighest)] at hlow
    exact readsBelow_reparseFrom hasks hread.dense (hnext.current.mono (by omega))
      fun hcovers => by omega

/-! ## The rest of a batch -/

/-- What holds while the edits `edits` of a batch are still to be followed. The batch made
`buffer` out of a document of `count` lines; `top` is the line its highest edit starts on. -/
structure Follows (cache : LineCache σ) (buffer : Buffer) (edits : List Edit) (count top : Nat) :
    Prop where
  dense : cache.Dense
  size_le : cache.size ≤ count
  top_lt : top < buffer.lineCount
  start_ge : ∀ edit ∈ edits, top ≤ edit.range.start.line
  last_start : ∀ edit, edits.getLast? = some edit → edit.range.start.line = top
  above : cache.CurrentBelow buffer (min top cache.size)
  apart : (∀ edit ∈ edits, edit.Balanced count) → buffer.lineCount = count ∧
    ∀ index < cache.size, (∀ edit ∈ edits, ¬ edit.Touches index) → cache.IsCurrent buffer index

/-- A correct prefix is ready for any batch that starts within the document. -/
theorem CorrectPrefix.follows (h : cache.CorrectPrefix buffer) (htop : top < buffer.lineCount)
    (hstart : ∀ edit ∈ edits, top ≤ edit.range.start.line)
    (hlast : ∀ edit, edits.getLast? = some edit → edit.range.start.line = top) :
    Follows cache (buffer.applyEdits edits) edits buffer.lineCount top where
  dense := h.dense
  size_le := h.size_le
  top_lt := Buffer.lt_lineCount_applyEdits hstart htop
  start_ge := hstart
  last_start := hlast
  above := by
    have habove : cache.CurrentBelow buffer (min top cache.size) :=
      h.current.mono (Nat.min_le_right _ _)
    exact habove.congr (.refl cache)
      (fun index hindex => Buffer.line_applyEdits_above hstart htop (by omega)) fun _ _ => rfl
  apart := by
    intro hbalanced
    refine ⟨Buffer.lineCount_applyEdits_of_balanced hbalanced, fun index hindex hapart => ?_⟩
    exact (h.current index hindex).congr (.refl cache)
      (Buffer.line_applyEdits_of_balanced hbalanced hapart) rfl rfl

/-- When no edit is left, the cache is a correct prefix of a document of as many lines. -/
theorem Follows.correctPrefix (h : Follows cache buffer [] count top) :
    buffer.lineCount = count ∧ cache.CorrectPrefix buffer := by
  obtain ⟨hcount, hcurrent⟩ := h.apart (by simp)
  exact ⟨hcount, h.dense, hcount ▸ h.size_le, fun index hindex => hcurrent index hindex (by simp)⟩

/-- What a widening relies on is part of that. -/
theorem Follows.currentAbove (h : Follows cache buffer edits count top) :
    CurrentAbove cache buffer edits top where
  start_ge := h.start_ge
  last_start := h.last_start
  current := h.above.mono (by omega)

/-- A contained edit leaves the cache ready for the rest of the batch. -/
theorem Follows.step [BEq σ] [LawfulBEq σ] (h : Follows cache buffer (edit :: later) count top)
    (hordered : edit.range.start.line ≤ edit.range.stop.line)
    (hread : Reread cache reparsed buffer
      (min (min edit.range.start.line buffer.lastLine) cache.size)
      (min (edit.range.start.line + edit.insertedBreaks) buffer.lastLine + 1))
    (hcontained : isContained cache reparsed edit) :
    Follows reparsed buffer later count top ∧ reparsed.size = cache.size := by
  obtain ⟨hbreaks, hstop, hstate⟩ := of_isContained hcontained
  obtain ⟨hstarts, hhighest, habove⟩ := h.currentAbove.reread hread
  have hlast := buffer.lastLine_add_one
  have hstart := h.start_ge edit (by simp)
  have htop := h.top_lt
  have hcount := h.size_le
  have hspan : edit.range.start.line + edit.insertedBreaks = edit.range.stop.line := by
    rw [hbreaks, Edit.removedBreaks]
    omega
  rw [hspan] at hread
  have hsize : reparsed.size = cache.size := by
    rw [hread.size]
    omega
  refine ⟨⟨hread.dense, by omega, htop, hstarts, hhighest, habove.mono (by omega), ?_⟩, hsize⟩
  intro hbalanced
  have hthis : edit.Balanced count := ⟨hordered, by omega, hbreaks⟩
  obtain ⟨hlines, hcurrent⟩ := h.apart (by simpa [hthis] using hbalanced)
  refine ⟨hlines, fun index hindex hapart => ?_⟩
  -- a line of this edit was read just now, every other one is as it was
  by_cases htouches : edit.Touches index
  · exact hread.inside index (by have := htouches.1; omega) (by have := htouches.2; omega)
  · have hbefore := hcurrent index (by omega) (by simpa [htouches] using hapart)
    have hside : index < edit.range.start.line ∨ edit.range.stop.line < index := by
      unfold Edit.Touches at htouches
      omega
    refine hbefore.congr hread.setup rfl (hread.outside index (by omega)) ?_
    -- the line right below the edit is where the state at the end of the edit counts
    by_cases hbelow : index = edit.range.stop.line + 1
    · rw [hbelow, hstate]
    · exact stateBefore_congr fun above habove => hread.outside above (by omega)

/-! ## Batches -/

theorem setup_reparseFrom (cache : LineCache σ) (buffer : Buffer) (first : Nat) :
    SameSetup cache (cache.reparseFrom buffer first).state :=
  (kept_setup cache).reparseFrom (.refl cache) buffer first

theorem setup_applyChanges [BEq σ] (cache : LineCache σ) (buffer : Buffer) (edits : List Edit) :
    SameSetup cache (cache.applyChanges buffer edits).state :=
  (kept_setup cache).applyChanges (.refl cache) buffer edits

/-- Following the rest of a batch ends with the cache of the whole document, or, if no line has
moved, with a correct prefix as long as the one before. -/
theorem Follows.applySorted_ok [BEq σ] [LawfulBEq σ] {grammar : Grammar σ}
    (h : Follows cache buffer edits count top) (hgrammar : cache.grammar = some grammar)
    (hordered : ∀ edit ∈ edits, edit.range.start.line ≤ edit.range.stop.line)
    (hok : (cache.applySorted buffer edits).result = .ok ()) :
    (cache.applySorted buffer edits).state.Complete buffer ∨
      buffer.lineCount = count ∧ (cache.applySorted buffer edits).state.CorrectPrefix buffer ∧
        (cache.applySorted buffer edits).state.size = cache.size := by
  induction edits generalizing cache with
  | nil => exact .inr ⟨h.correctPrefix.1, h.correctPrefix.2, rfl⟩
  | cons edit later ih =>
    have hreads := rereads_reparseEdit hgrammar h.dense buffer edit
    rw [applySorted] at hok ⊢
    have hresult := Outcome.ok_of_andThen hok
    have hread := hreads.reread_of_ok hresult
    rw [Outcome.andThen_of_ok hresult] at hok ⊢
    by_cases hcontained : isContained cache (cache.reparseEdit buffer edit).state edit
    · rw [if_pos hcontained] at hok ⊢
      obtain ⟨hnext, hsize⟩ := h.step (hordered edit (by simp)) hread hcontained
      have hasks := hread.setup.grammar ▸ hgrammar
      rw [← hsize]
      exact ih hnext hasks (fun e he => hordered e (by simp [he])) hok
    · -- the rest of the batch is read along with the rest of the document
      rw [if_neg hcontained] at hok ⊢
      exact .inl ((h.currentAbove.widen hgrammar hread).2 hok)

theorem CorrectPrefix.size_eq_zero (h : cache.CorrectPrefix buffer)
    (hgrammar : cache.grammar = none) : cache.size = 0 := by
  apply Nat.eq_zero_of_not_pos
  intro hpos
  obtain ⟨grammar, _, hsome, _⟩ := h.current 0 hpos
  rw [hgrammar] at hsome
  cases hsome

/-- The lines on which the edits of a batch start, bounded by that of its highest edit. -/
theorem exists_top (hsorted : Edit.Descending edits)
    (hinside : ∀ edit ∈ edits, edit.range.start.line < buffer.lineCount) :
    ∃ top < buffer.lineCount, (∀ edit ∈ edits, top ≤ edit.range.start.line) ∧
      ∀ edit, edits.getLast? = some edit → edit.range.start.line = top := by
  cases hlast : edits.getLast? with
  | none =>
    rw [List.getLast?_eq_none_iff.mp hlast]
    exact ⟨0, buffer.lineCount_pos, by simp, by simp⟩
  | some highest =>
    refine ⟨highest.range.start.line, hinside highest (List.mem_of_getLast? hlast),
      Edit.line_last_le hsorted hlast, ?_⟩
    intro edit hedit
    rw [Option.some.inj hedit]

theorem applyChanges_of_descending [BEq σ] {grammar : Grammar σ}
    (hgrammar : cache.grammar = some grammar) (hsorted : Edit.Descending edits) :
    cache.applyChanges buffer edits = cache.applySorted buffer edits := by
  rw [applyChanges, if_neg (by simp [hgrammar]), if_pos hsorted]

/-- The cache follows a batch: what it holds is read from the new document, and it is the whole
reading if it was that before. -/
theorem CorrectPrefix.applyChanges [BEq σ] [LawfulBEq σ] (h : cache.CorrectPrefix buffer)
    (hsorted : Edit.Descending edits)
    (hordered : ∀ edit ∈ edits, edit.range.start.line ≤ edit.range.stop.line)
    (hinside : ∀ edit ∈ edits, edit.range.start.line < buffer.lineCount)
    (hok : (cache.applyChanges (buffer.applyEdits edits) edits).result = .ok ()) :
    (cache.applyChanges (buffer.applyEdits edits) edits).state.CorrectPrefix
        (buffer.applyEdits edits) ∧
      (cache.size = buffer.lineCount →
        (cache.applyChanges (buffer.applyEdits edits) edits).state.Complete
          (buffer.applyEdits edits)) := by
  cases hgrammar : cache.grammar with
  | none =>
    have hsize := h.size_eq_zero hgrammar
    have hpos := buffer.lineCount_pos
    rw [LineCache.applyChanges, if_pos (by simp [hgrammar])]
    -- without a grammar nothing is cached, before or after
    refine ⟨⟨h.dense, ?_, ?_⟩, fun hcovers => by omega⟩
    · show cache.size ≤ _
      omega
    · intro index hindex
      change index < cache.size at hindex
      omega
  | some grammar =>
    rw [applyChanges_of_descending hgrammar hsorted] at hok ⊢
    obtain ⟨top, htop, hstart, hlast⟩ := exists_top hsorted hinside
    have hfollows := h.follows htop hstart hlast
    rcases hfollows.applySorted_ok hgrammar hordered hok with
      hcomplete | ⟨hcount, hcorrect, hsize⟩
    · exact ⟨hcomplete.correctPrefix, fun _ => hcomplete⟩
    · exact ⟨hcorrect, fun hcovers => hcorrect.complete (by omega)⟩

/-- Following a batch gives what tokenizing the new document gives. The edits may overlap, share
lines and reach past the end of the document. -/
theorem applyChanges_eq_build [BEq σ] [LawfulBEq σ] (h : cache.CorrectPrefix buffer)
    (hsorted : Edit.Descending edits)
    (hordered : ∀ edit ∈ edits, edit.range.start ≤ edit.range.stop)
    (hinside : ∀ edit ∈ edits, edit.range.start.line < buffer.lineCount)
    (hok : (cache.applyChanges (buffer.applyEdits edits) edits).result = .ok ()) :
    let document := buffer.applyEdits edits
    let followed := (cache.applyChanges document edits).state
    let fresh := build document cache.grammar cache.maxLineLength
    followed.CorrectPrefix document ∧
      (cache.size = buffer.lineCount →
        fresh.result = .ok () ∧ followed.lines = fresh.state.lines ∧
          followed.snapshots = fresh.state.snapshots) := by
  intro document followed fresh
  have hlines : ∀ edit ∈ edits, edit.range.start.line ≤ edit.range.stop.line :=
    fun edit he => Position.line_le_of_le (hordered edit he)
  obtain ⟨hcorrect, hcovers⟩ := h.applyChanges hsorted hlines hinside hok
  refine ⟨hcorrect, fun hsize => ?_⟩
  have hcomplete : followed.Complete document := hcovers hsize
  have setup : SameSetup cache followed := setup_applyChanges cache document edits
  obtain ⟨hfresh, hread, htexts⟩ := hcomplete.build_eq
  rw [← setup.grammar, ← setup.maxLineLength] at hfresh hread htexts
  exact ⟨hfresh, hread.symm, htexts.symm⟩

/-- Two edits that overlap: the lower one takes the comment's end along, the higher one puts the
comment's start one line down, and the last line grows too long. -/
theorem applyChanges_overlapping :
    let buffer := Buffer.ofText ['a', '\n', '<', '\n', '>', '\n', 'b']
    let cache := (build buffer (some .comments) 3).state
    let edits : List Edit :=
      [⟨⟨⟨2, 0⟩, ⟨3, 1⟩⟩, ['>', '\n', 'd', 'e', 'f', 'g']⟩, ⟨⟨⟨1, 0⟩, ⟨2, 1⟩⟩, ['x', '\n', '<']⟩]
    let document := buffer.applyEdits edits
    let followed := (cache.applyChanges document edits).state
    followed.CorrectPrefix document ∧
      followed.lines = (build document (some .comments) 3).state.lines ∧
      followed.snapshots = [['a'], ['x'], ['<'], ['d', 'e', 'f', 'g']] := by
  intro buffer cache edits document followed
  have hprefix : cache.CorrectPrefix buffer := correctPrefix_refresh _ _
  have hsorted : Edit.Descending edits := by decide
  have hinside : ∀ edit ∈ edits, edit.range.start.line < buffer.lineCount := by decide +kernel
  have hsize : cache.size = buffer.lineCount := by decide +kernel
  have happlied : document = edits.foldl Buffer.applyEdit buffer :=
    Buffer.applyEdits_of_descending hsorted
  have hok : (cache.applyChanges document edits).result = .ok () := by
    rw [happlied]
    decide +kernel
  have hsnapshots : followed.snapshots = [['a'], ['x'], ['<'], ['d', 'e', 'f', 'g']] := by
    show (cache.applyChanges document edits).state.snapshots = _
    rw [happlied]
    decide +kernel
  have setup : SameSetup (untokenized (some .comments) 3) cache := setup_refresh _ _
  have hgrammar : some Grammar.comments = cache.grammar := setup.grammar
  have hlimit : 3 = cache.maxLineLength := setup.maxLineLength
  obtain ⟨hcorrect, hwhole⟩ := applyChanges_eq_build hprefix hsorted (by decide) hinside hok
  obtain ⟨_, hlines, _⟩ := hwhole hsize
  rw [← hgrammar, ← hlimit] at hlines
  refine ⟨hcorrect, ?_, hsnapshots⟩
  simp only [followed, document, hlines]

end LineCache

end ScopeTracker
