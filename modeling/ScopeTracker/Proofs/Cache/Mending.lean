import ScopeTracker.Proofs.Cache.Answers
import ScopeTracker.Proofs.Cache.Following

/-!
# What queries can mend

When the grammar fails in the middle of a batch, the cache keeps lines that it read before the
batch. A query reads a line again if its text is another one, but it trusts the line above. So
queries mend a cache in which every line is right, or is one that the grammar fails on after what is
cached for the line above: once the document can be tokenized, no line can be of the second kind.

Main statements: such a cache stays one when a batch is followed to its end (`Mends.applyChanges`),
when the grammar fails on an edit that changes nothing below its first line
(`Mends.applyChanges_of_error`), and under queries (`Mends.scopeAt`); once the document can be
tokenized, it is answered for as if it had just been (`Mends.scopeAt_build`).
-/

namespace ScopeTracker

namespace Buffer

variable {buffer : Buffer} {edit : Edit}

/-- An edit takes no line out of the document, and below the line it starts on it changes none. -/
structure KeepsBelow (buffer : Buffer) (edit : Edit) : Prop where
  lineCount_le : buffer.lineCount ≤ (buffer.applyEdit edit).lineCount
  line_below : ∀ index, edit.range.start.line < index → index < buffer.lineCount →
    (buffer.applyEdit edit).line index = buffer.line index

/-- An edit within one line changes nothing below that line. -/
theorem keepsBelow_of_within (hinside : edit.range.start.line < buffer.lineCount)
    (hwithin : edit.range.stop.line = edit.range.start.line) (hbreaks : edit.insertedBreaks = 0) :
    buffer.KeepsBelow edit := by
  have hbalanced : edit.Balanced buffer.lineCount :=
    ⟨Nat.le_of_eq hwithin.symm, by omega,
      by rw [hbreaks, Edit.removedBreaks, hwithin, Nat.sub_self]⟩
  refine ⟨Nat.le_of_eq (lineCount_applyEdit_of_balanced hbalanced).symm, fun index hbelow _ => ?_⟩
  exact line_applyEdit_of_balanced hbalanced fun htouches => by
    have := htouches.2
    omega

end Buffer

namespace LineCache

variable {σ : Type} {before after reparsed cache fresh : LineCache σ} {buffer document : Buffer}
  {edit : Edit} {edits : List Edit} {first last index count top : Nat}
  {outcome : Outcome (LineCache σ) Unit}

/-- If line `index` is cached, it is current or the grammar fails on it after what is cached for the
line above. -/
def Mendable (cache : LineCache σ) (buffer : Buffer) (index : Nat) : Prop :=
  index < cache.size → cache.IsCurrent buffer index ∨ ∃ error, cache.FailsAt buffer index error

/-- The cached lines are lines of the document, and queries can mend all of them. -/
structure Mends (cache : LineCache σ) (buffer : Buffer) : Prop where
  dense : cache.Dense
  size_le : cache.size ≤ buffer.lineCount
  mendable : ∀ index, cache.Mendable buffer index

/-- A line is cached as before, and so is the state before it. -/
structure AsBefore (before after : LineCache σ) (index : Nat) : Prop where
  entry : after.entryAt index = before.entryAt index
  stateBefore : after.stateBefore index = before.stateBefore index

theorem AsBefore.trans (h : AsBefore before reparsed index) (h' : AsBefore reparsed after index) :
    AsBefore before after index :=
  ⟨h'.entry.trans h.entry, h'.stateBefore.trans h.stateBefore⟩

theorem AsBefore.isCurrent (h : AsBefore before after index) (setup : SameSetup before after)
    (hcurrent : before.IsCurrent buffer index) : after.IsCurrent buffer index :=
  hcurrent.congr setup rfl h.entry h.stateBefore

theorem Mendable.congr (h : before.Mendable buffer index) (setup : SameSetup before after)
    (hline : document.line index = buffer.line index) (hkept : AsBefore before after index) :
    after.Mendable document index := by
  intro hindex
  have hbefore : index < before.size := by
    have hline : before.line? index = some _ :=
      (line?_congr hkept.entry).symm.trans (List.getElem?_eq_getElem hindex)
    exact (List.getElem?_eq_some_iff.mp hline).1
  rcases h hbefore with hcurrent | ⟨error, grammar, hgrammar, hread⟩
  · exact .inl (hcurrent.congr setup hline hkept.entry hkept.stateBefore)
  · refine .inr ⟨error, grammar, setup.grammar ▸ hgrammar, ?_⟩
    rw [← setup.maxLineLength, hline, hkept.stateBefore, hread]

theorem CorrectPrefix.mends (h : cache.CorrectPrefix buffer) : cache.Mends buffer :=
  ⟨h.dense, h.size_le, fun index hindex => .inl (h.current index hindex)⟩

theorem Mends.size_eq_zero (h : cache.Mends buffer) (hgrammar : cache.grammar = none) :
    cache.size = 0 := by
  apply Nat.eq_zero_of_not_pos
  intro hpos
  rcases h.mendable 0 hpos with ⟨grammar, _, hsome, _⟩ | ⟨_, grammar, hsome, _⟩ <;>
    simp [hgrammar] at hsome

/-- If the whole document can be tokenized, there is nothing that the grammar fails on, so all
lines are right. -/
theorem Mends.correctPrefix (h : cache.Mends buffer)
    (hfresh : fresh.CurrentBelow buffer buffer.lineCount) (setup : SameSetup cache fresh) :
    cache.CorrectPrefix buffer := by
  refine ⟨h.dense, h.size_le, fun index => ?_⟩
  induction index using Nat.strongRecOn with
  | ind index ih =>
    intro hindex
    rcases h.mendable index hindex with hcurrent | ⟨error, hfails⟩
    · exact hcurrent
    · have habove : cache.CurrentBelow buffer index :=
        fun above habove => ih above habove (by omega)
      have hinside : index < buffer.lineCount := Nat.lt_of_lt_of_le hindex h.size_le
      exact absurd hfresh (habove.not_currentBelow hfails setup hinside)

/-- As soon as the document can be tokenized, it is answered for as if it had just been. -/
theorem Mends.scopeAt_build {grammar : Option (Grammar σ)} {maxLineLength : Nat}
    (h : cache.Mends buffer)
    (setup : SameSetup (untokenized grammar maxLineLength) cache)
    (hok : (build buffer grammar maxLineLength).result = .ok ()) (position : Position) :
    ∃ info, (cache.scopeAt buffer position).result = .ok info ∧
      ((build buffer grammar maxLineLength).state.scopeAt buffer position).result = .ok info := by
  have setup' : SameSetup _ (build buffer grammar maxLineLength).state := setup_refresh _ buffer
  cases grammar with
  | none =>
    rw [scopeAt_of_none setup.grammar.symm, scopeAt_of_none setup'.grammar.symm]
    exact ⟨.empty position, rfl, rfl⟩
  | some grammar =>
    have hcomplete : (build buffer (some grammar) maxLineLength).state.Complete buffer :=
      complete_refresh rfl hok
    have hsame := setup.symm.trans setup'
    have hcorrect := h.correctPrefix hcomplete.current hsame
    rw [scopeAt_result_eq hsame hcorrect.dense hcomplete.dense
      (hcorrect.current.mono (Nat.min_le_right _ _))
      (hcomplete.correctPrefix.current.mono (Nat.min_le_right _ _)), hcomplete.scopeAt_eq]
    exact ⟨_, rfl, rfl⟩

/-! ## Passes -/

/-- Lines apart from those read, and from the one right below them, are kept. -/
theorem Reread.asBefore (h : Reread before after buffer first last)
    (hindex : index < first ∨ last < index) : AsBefore before after index where
  entry := h.outside index (by omega)
  stateBefore := stateBefore_congr fun above habove => h.outside above (by omega)

/-- A pass that fails does so on a line that can be mended, and leaves the line below as it was. -/
theorem Rereads.mendable_of_error (h : Rereads before outcome buffer first last) {fault : Fault}
    (herror : outcome.result = .error fault)
    (hbefore : index ≠ first → before.Mendable buffer index) :
    outcome.state.Mendable buffer index := by
  rcases h with ⟨hok, _⟩ | ⟨failing, error, hge, _, _, hread, hfails⟩
  · rw [hok] at herror
    cases herror
  · rcases Nat.lt_trichotomy index failing with hlt | rfl | hgt
    · by_cases hfirst : index < first
      · exact (hbefore (by omega)).congr hread.setup rfl (hread.asBefore (.inl hfirst))
      · exact fun _ => .inl (hread.inside index (by omega) hlt)
    · exact fun _ => .inr ⟨error, hfails⟩
    · exact (hbefore (by omega)).congr hread.setup rfl (hread.asBefore (.inr hgt))

/-- A pass leaves its lines current and those above it as they were. -/
theorem Reread.current_or_asBefore (h : Reread before after buffer first last)
    (hindex : index < last) :
    after.IsCurrent buffer index ∨ index < first ∧ AsBefore before after index := by
  by_cases hfirst : index < first
  · exact .inr ⟨hfirst, h.asBefore (.inl hfirst)⟩
  · exact .inl (h.inside index (by omega) hindex)

/-! ## Queries -/

theorem Mends.ensureLine (h : cache.Mends buffer) (hindex : index ≤ buffer.lastLine) :
    (cache.ensureLine buffer index).state.Mends buffer := by
  have hlast := buffer.lastLine_add_one
  have hsize := h.size_le
  by_cases hsnapshot : cache.snapshot? index = some (buffer.line index)
  · rw [ensureLine_of_snapshot hsnapshot]
    exact h
  cases hgrammar : cache.grammar with
  | none =>
    rw [LineCache.ensureLine, if_neg hsnapshot, reparseRange_of_none hgrammar]
    exact h
  | some grammar =>
    have hreads := rereads_ensureLine hgrammar h.dense hindex hsnapshot
    refine ⟨hreads.dense, ?_, fun i => ?_⟩
    · rcases hreads with ⟨_, hread⟩ | ⟨_, _, _, _, _, hread, _⟩ <;>
        rw [hread.size] <;> omega
    · cases hresult : (cache.ensureLine buffer index).result with
      | error fault => exact hreads.mendable_of_error hresult fun _ => h.mendable i
      | ok _ =>
        have hread := hreads.reread_of_ok hresult
        rcases Nat.lt_trichotomy i (index + 1) with hlt | rfl | hgt
        · rcases hread.current_or_asBefore hlt with hcurrent | ⟨_, hkept⟩
          · exact fun _ => .inl hcurrent
          · exact (h.mendable i).congr hread.setup rfl hkept
        · -- the grammar failed on the line read, so it cannot have succeeded now
          intro hbelow
          have hcached : index < cache.size := by
            have := hread.size
            omega
          have hcurrent := hread.inside index (by omega) (Nat.lt_succ_self index)
          have hstate : (cache.ensureLine buffer index).state.stateBefore index =
              cache.stateBefore index :=
            stateBefore_congr fun above habove => hread.outside above (.inl (by omega))
          rcases h.mendable index hcached with hbefore | ⟨error, hfails⟩
          · exact absurd hbefore.snapshot hsnapshot
          · exact absurd hcurrent (hfails.not_isCurrent hread.setup hstate)
        · exact (h.mendable i).congr hread.setup rfl (hread.asBefore (.inr hgt))

theorem Mends.scopeAt (h : cache.Mends buffer) (position : Position) :
    (cache.scopeAt buffer position).state.Mends buffer := by
  cases hgrammar : cache.grammar with
  | none =>
    rw [scopeAt_of_none hgrammar]
    exact h
  | some grammar =>
    rw [state_scopeAt hgrammar]
    exact h.ensureLine (line_clamp_le_lastLine buffer position)

/-! ## Batches that are followed to their end -/

theorem wideningStart_cases (hstart : ∀ e ∈ edit :: edits, top ≤ e.range.start.line)
    (hhighest : ∀ e, (edit :: edits).getLast? = some e → e.range.start.line = top) :
    wideningStart edit edits ≤ top ∨
      edit.range.start.line = top ∧
        wideningStart edit edits = edit.range.start.line + edit.insertedBreaks + 1 := by
  cases edits with
  | nil => exact .inr ⟨hhighest edit rfl, rfl⟩
  | cons next rest =>
    obtain ⟨highest, hlast⟩ : ∃ highest, (next :: rest).getLast? = some highest :=
      ⟨_, List.getLast?_eq_some_getLast (by simp)⟩
    have hlow := wideningStart_le (List.mem_of_getLast? hlast) edit
    rw [hhighest highest (by simpa using hlast)] at hlow
    exact .inl hlow

theorem reread_widenedFrom {grammar : Grammar σ} (hgrammar : cache.grammar = some grammar)
    (hdense : cache.Dense) (hcovers : buffer.lineCount ≤ first → buffer.lineCount ≤ cache.size)
    (hok : (cache.widenedFrom buffer first).result = .ok ()) :
    Reread cache (cache.widenedFrom buffer first).state buffer
      (min (min first buffer.lineCount) cache.size) buffer.lineCount := by
  by_cases hfirst : first < buffer.lineCount
  · rw [Nat.min_eq_left (Nat.le_of_lt hfirst)]
    exact (rereads_widenedFrom hgrammar hdense hfirst).reread_of_ok hok
  · -- nothing is left to read, so the cache has to cover the document already
    have hfirst := Nat.le_of_not_lt hfirst
    rw [Nat.min_eq_right hfirst, Nat.min_eq_left (hcovers hfirst), widenedFrom,
      if_neg (Nat.not_lt.mpr hfirst)]
    exact .refl hdense buffer (hcovers hfirst)

theorem asBefore_truncate (cache : LineCache σ) (h : index < count) :
    AsBefore cache (cache.truncate count) index where
  entry := cache.entryAt_truncate h
  stateBefore := stateBefore_congr fun above habove => cache.entryAt_truncate (by omega)

/-- An edit that is not contained ends with every line read, or kept above all edits. -/
theorem Reread.reparseFrom {grammar : Grammar σ} (hgrammar : cache.grammar = some grammar)
    (htop : top < buffer.lineCount) (hstart : top ≤ edit.range.start.line)
    (hread : Reread cache reparsed buffer
      (min (min edit.range.start.line buffer.lastLine) cache.size)
      (min (edit.range.start.line + edit.insertedBreaks) buffer.lastLine + 1))
    (hfirst : first ≤ top ∨ edit.range.start.line = top ∧
      first = edit.range.start.line + edit.insertedBreaks + 1)
    (hok : (reparsed.reparseFrom buffer first).result = .ok ()) :
    let widened := (reparsed.reparseFrom buffer first).state
    SameSetup cache widened ∧ widened.size ≤ buffer.lineCount ∧ ∀ index < widened.size,
      widened.IsCurrent buffer index ∨ index < top ∧ AsBefore cache widened index := by
  have hlast := buffer.lastLine_add_one
  have hsize := hread.size
  rw [reparseFrom_eq] at hok ⊢
  have hwidened := Outcome.ok_of_andThen hok
  rw [Outcome.andThen_of_ok hwidened]
  have hrest := reread_widenedFrom (hread.setup.grammar ▸ hgrammar) hread.dense (by omega) hwidened
  generalize (reparsed.widenedFrom buffer first).state = widened at hrest
  have setup : SameSetup widened (widened.truncate buffer.lineCount) := ⟨rfl, rfl⟩
  have hcut := widened.size_truncate buffer.lineCount
  refine ⟨hread.setup.trans (hrest.setup.trans setup), ?_, fun index hindex => ?_⟩
  · show (widened.truncate buffer.lineCount).size ≤ _
    omega
  · change index < (widened.truncate buffer.lineCount).size at hindex
    have hinside : index < buffer.lineCount := by omega
    have hcut := widened.asBefore_truncate hinside
    rcases hrest.current_or_asBefore hinside with hcurrent | ⟨habove, hkept⟩
    · exact .inl (hcut.isCurrent setup hcurrent)
    · -- what the widening does not read was read for the edit, or lies above it
      rcases hread.current_or_asBefore (show index < _ by omega) with hcurrent | ⟨habove', hkept'⟩
      · exact .inl (hcut.isCurrent setup (hkept.isCurrent hrest.setup hcurrent))
      · exact .inr ⟨by omega, hkept'.trans (hkept.trans hcut)⟩

/-- A contained edit leaves each line current that it touches, and keeps the others. -/
theorem Reread.of_isContained [BEq σ] [LawfulBEq σ]
    (hread : Reread cache reparsed buffer
      (min (min edit.range.start.line buffer.lastLine) cache.size)
      (min (edit.range.start.line + edit.insertedBreaks) buffer.lastLine + 1))
    (hcontained : isContained cache reparsed edit) (hbalanced : edit.Balanced buffer.lineCount)
    (index : Nat) :
    reparsed.IsCurrent buffer index ∨ ¬ edit.Touches index ∧ AsBefore cache reparsed index := by
  have hlast := buffer.lastLine_add_one
  obtain ⟨hbreaks, hstop, hstate⟩ := LineCache.of_isContained hcontained
  obtain ⟨hordered, hinside, _⟩ := hbalanced
  rw [Edit.removedBreaks] at hbreaks
  by_cases htouches : edit.Touches index
  · exact .inl (hread.inside index (by have := htouches.1; omega) (by have := htouches.2; omega))
  · refine .inr ⟨htouches, ?_⟩
    unfold Edit.Touches at htouches
    -- the line right below the edit is where the state at the end of the edit counts
    by_cases hbelow : index = edit.range.stop.line + 1
    · exact ⟨hread.outside index (by omega), hbelow ▸ hstate⟩
    · exact hread.asBefore (by omega)

/-- What a batch leaves behind when it is followed to its end. Either all lines from the highest
edit on were read, or each edit was contained, and the lines that no edit touches are kept. -/
theorem applySorted_ok [BEq σ] [LawfulBEq σ] {grammar : Grammar σ}
    (hgrammar : cache.grammar = some grammar) (hdense : cache.Dense)
    (hsize : cache.size ≤ count) (htop : top < buffer.lineCount)
    (hcount : (∀ edit ∈ edits, edit.Balanced count) → buffer.lineCount = count)
    (hstart : ∀ edit ∈ edits, top ≤ edit.range.start.line)
    (hhighest : ∀ edit, edits.getLast? = some edit → edit.range.start.line = top)
    (hordered : ∀ edit ∈ edits, edit.range.start.line ≤ edit.range.stop.line)
    (hok : (cache.applySorted buffer edits).result = .ok ()) :
    let followed := (cache.applySorted buffer edits).state
    followed.size ≤ buffer.lineCount ∧
      ((∀ index < followed.size, followed.IsCurrent buffer index ∨
          index < top ∧ AsBefore cache followed index) ∨
        (∀ edit ∈ edits, edit.Balanced count) ∧ ∀ index < followed.size,
          followed.IsCurrent buffer index ∨
            (∀ edit ∈ edits, ¬ edit.Touches index) ∧ AsBefore cache followed index) := by
  have hlast := buffer.lastLine_add_one
  induction edits generalizing cache with
  | nil =>
    have hlines := hcount (by simp)
    exact ⟨by simpa [applySorted, Outcome.ok, hlines] using hsize,
      .inr ⟨by simp, fun index _ => .inr ⟨by simp, rfl, rfl⟩⟩⟩
  | cons edit later ih =>
    have hreads := rereads_reparseEdit hgrammar hdense buffer edit
    rw [applySorted] at hok ⊢
    have hresult := Outcome.ok_of_andThen hok
    have hread := hreads.reread_of_ok hresult
    rw [Outcome.andThen_of_ok hresult] at hok ⊢
    by_cases hcontained : isContained cache (cache.reparseEdit buffer edit).state edit
    · rw [if_pos hcontained] at hok ⊢
      obtain ⟨hbreaks, hstop, _⟩ := of_isContained hcontained
      generalize (cache.reparseEdit buffer edit).state = reparsed at *
      have hthis : edit.Balanced count := ⟨hordered edit (by simp), by omega, hbreaks⟩
      have hsize' : reparsed.size = cache.size := by
        have := hthis.ordered
        rw [hread.size, hbreaks, Edit.removedBreaks]
        omega
      have hhighest' : ∀ e, later.getLast? = some e → e.range.start.line = top := by
        intro e he
        apply hhighest
        rw [List.getLast?_cons, he]
        rfl
      have setup : SameSetup reparsed (reparsed.applySorted buffer later).state :=
        (kept_setup reparsed).applySorted (.refl reparsed) buffer later
      obtain ⟨hcut, hlines⟩ := ih (hread.setup.grammar ▸ hgrammar) hread.dense (by omega)
        (fun hlater => hcount (by simpa [hthis] using hlater))
        (fun e he => hstart e (by simp [he])) hhighest'
        (fun e he => hordered e (by simp [he])) hok
      refine ⟨hcut, hlines.imp ?_ ?_⟩
      · intro hlines index hindex
        refine (hlines index hindex).imp_right fun hlater => ?_
        obtain ⟨habove, hkept⟩ := hlater
        have hthere := hstart edit (by simp)
        have := hthis.ordered
        exact ⟨habove, (hread.asBefore (by omega)).trans hkept⟩
      · rintro ⟨hlater, hlines⟩
        have hall : ∀ e ∈ edit :: later, e.Balanced count := by simpa [hthis] using hlater
        refine ⟨hall, fun index hindex => ?_⟩
        rcases hlines index hindex with hcurrent | ⟨hapart, hkept⟩
        · exact .inl hcurrent
        rcases hread.of_isContained hcontained (hcount hall ▸ hthis) index with
          hcurrent | ⟨hapart', hkept'⟩
        · exact .inl (hkept.isCurrent setup hcurrent)
        · exact .inr ⟨by simpa using ⟨hapart', hapart⟩, hkept'.trans hkept⟩
    · -- the rest of the batch is read along with the rest of the document
      rw [if_neg hcontained] at hok ⊢
      obtain ⟨_, hcut, hlines⟩ := hread.reparseFrom hgrammar htop (hstart edit (by simp))
        (wideningStart_cases hstart hhighest) hok
      exact ⟨hcut, .inl hlines⟩

/-- A batch that is followed to its end leaves nothing that queries cannot mend. -/
theorem Mends.applyChanges [BEq σ] [LawfulBEq σ] (h : cache.Mends buffer)
    (hsorted : Edit.Descending edits)
    (hordered : ∀ edit ∈ edits, edit.range.start.line ≤ edit.range.stop.line)
    (hinside : ∀ edit ∈ edits, edit.range.start.line < buffer.lineCount)
    (hok : (cache.applyChanges (buffer.applyEdits edits) edits).result = .ok ()) :
    (cache.applyChanges (buffer.applyEdits edits) edits).state.Mends
      (buffer.applyEdits edits) := by
  cases hgrammar : cache.grammar with
  | none =>
    have hempty := h.size_eq_zero hgrammar
    rw [LineCache.applyChanges, if_pos (by simp [hgrammar])]
    refine ⟨h.dense, hempty ▸ Nat.zero_le _, fun index hindex => ?_⟩
    change index < cache.size at hindex
    omega
  | some grammar =>
    obtain ⟨top, htop, hstart, hlast⟩ := exists_top hsorted hinside
    have setup := setup_applyChanges cache (buffer.applyEdits edits) edits
    have hdense := h.dense.applyChanges (buffer.applyEdits edits) edits
    rw [applyChanges_of_descending hgrammar hsorted] at hok setup hdense ⊢
    have htop' := Buffer.lt_lineCount_applyEdits hstart htop
    obtain ⟨hsize, hlines⟩ := applySorted_ok hgrammar h.dense h.size_le htop'
      Buffer.lineCount_applyEdits_of_balanced hstart hlast hordered hok
    refine ⟨hdense, hsize, fun index hindex => ?_⟩
    rcases hlines with hlines | ⟨hbalanced, hlines⟩
    · rcases hlines index hindex with hcurrent | ⟨habove, hkept⟩
      · exact .inl hcurrent
      · have hline := Buffer.line_applyEdits_above hstart htop habove
        exact (h.mendable index).congr setup hline hkept hindex
    · rcases hlines index hindex with hcurrent | ⟨hapart, hkept⟩
      · exact .inl hcurrent
      · have hline := Buffer.line_applyEdits_of_balanced hbalanced hapart
        exact (h.mendable index).congr setup hline hkept hindex

/-! ## An edit that the grammar fails on -/

theorem rereads_reparseFrom_of_error {grammar : Grammar σ} (hgrammar : cache.grammar = some grammar)
    (hdense : cache.Dense) {fault : Fault}
    (herror : (cache.reparseFrom buffer first).result = .error fault) :
    first < buffer.lineCount ∧ Rereads cache (cache.reparseFrom buffer first) buffer
      (min first cache.size) buffer.lineCount := by
  rw [reparseFrom_eq] at herror ⊢
  by_cases hfirst : first < buffer.lineCount
  · refine ⟨hfirst, ?_⟩
    rcases rereads_widenedFrom hgrammar hdense hfirst with
      ⟨hok, _⟩ | ⟨failing, error, hge, hlt, herror', hread, hfails⟩
    · rw [Outcome.andThen_of_ok hok] at herror
      cases herror
    · rw [Outcome.andThen_of_error herror']
      exact .inr ⟨failing, error, hge, hlt, rfl, hread, hfails⟩
  · rw [widenedFrom, if_neg hfirst] at herror
    cases herror

/-- A single edit that the grammar fails on is a pass from the line it starts on. -/
theorem rereads_applySorted_of_error [BEq σ] {grammar : Grammar σ}
    (hgrammar : cache.grammar = some grammar) (hdense : cache.Dense)
    (hinside : edit.range.start.line < buffer.lineCount) {fault : Fault}
    (herror : (cache.applySorted buffer [edit]).result = .error fault) :
    Rereads cache (cache.applySorted buffer [edit]) buffer (min edit.range.start.line cache.size)
      buffer.lineCount := by
  have hlast := buffer.lastLine_add_one
  have hreads := rereads_reparseEdit hgrammar hdense buffer edit
  rw [Nat.min_eq_left (show edit.range.start.line ≤ buffer.lastLine by omega)] at hreads
  rw [applySorted] at herror ⊢
  rcases hreads with ⟨hok, hread⟩ | ⟨failing, error, hge, hlt, herror', hread, hfails⟩
  · rw [Outcome.andThen_of_ok hok] at herror ⊢
    split at herror
    · cases herror
    · rename_i hcontained
      rw [if_neg hcontained]
      have hasks := hread.setup.grammar ▸ hgrammar
      obtain ⟨hfirst, hrest⟩ := rereads_reparseFrom_of_error hasks hread.dense herror
      -- the widening goes on right below the lines that were read for the edit
      have hfirst' : edit.range.start.line + edit.insertedBreaks + 1 < buffer.lineCount := hfirst
      have hsize := hread.size
      refine hread.rereads ?_ (by omega) (by omega)
      rwa [show min (wideningStart edit []) (cache.reparseEdit buffer edit).state.size =
        min (edit.range.start.line + edit.insertedBreaks) buffer.lastLine + 1 from by
          simp only [wideningStart, List.foldl_nil]
          omega] at hrest
  · rw [Outcome.andThen_of_error herror']
    exact .inr ⟨failing, error, hge, by omega, rfl, hread, hfails⟩

/-- What the grammar fails on can be mended if the edit changes nothing below its first line. -/
theorem Mends.applyChanges_of_error [BEq σ] (h : cache.Mends buffer)
    (hinside : edit.range.start.line < buffer.lineCount) (hkeeps : buffer.KeepsBelow edit)
    {fault : Fault}
    (herror : (cache.applyChanges (buffer.applyEdit edit) [edit]).result = .error fault) :
    (cache.applyChanges (buffer.applyEdit edit) [edit]).state.Mends (buffer.applyEdit edit) := by
  cases hgrammar : cache.grammar with
  | none =>
    rw [LineCache.applyChanges, if_pos (by simp [hgrammar])] at herror
    cases herror
  | some grammar =>
    rw [applyChanges_of_descending hgrammar (List.pairwise_singleton _ _)] at herror ⊢
    have hinside' := buffer.lt_lineCount_applyEdit (Nat.le_refl _) hinside
    have hreads := rereads_applySorted_of_error hgrammar h.dense hinside' herror
    have hsize := h.size_le
    have hgrows := hkeeps.lineCount_le
    refine ⟨hreads.dense, ?_, fun index => hreads.mendable_of_error herror fun hne => ?_⟩
    · rcases hreads with ⟨hok, _⟩ | ⟨failing, _, _, hlt, _, hread, _⟩
      · rw [hok] at herror
        cases herror
      · rw [hread.size]
        omega
    · -- only the first line of the edit has another text, and that line is read first
      intro hindex
      have hline : (buffer.applyEdit edit).line index = buffer.line index := by
        by_cases habove : index < edit.range.start.line
        · exact buffer.line_applyEdit_of_lt (Nat.le_refl _) hinside habove
        · exact hkeeps.line_below index (by omega) (by omega)
      exact (h.mendable index).congr (.refl cache) hline ⟨rfl, rfl⟩ hindex

end LineCache

end ScopeTracker
