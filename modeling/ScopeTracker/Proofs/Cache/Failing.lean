import ScopeTracker.Proofs.Cache.Answers
import ScopeTracker.Proofs.Cache.Following

/-!
# A single edit and the grammar's failures

A batch may read lines from states that a later edit is about to change. A single edit never
does: every line it has read is read from the state that the whole document gives. So it fails
where the whole document fails, and nowhere else.

Main statements: one edit fails exactly if the new document does, and up to the failing line the
cache is right (`applyChanges_single_iff`); with a grammar that never fails no batch does
(`applySorted_of_total`).
-/

namespace ScopeTracker

/-- A grammar that has tokens for every line. -/
def Grammar.Total {σ : Type} (grammar : Grammar σ) : Prop :=
  ∀ text prior, ∃ line, grammar.tokenizeLine text prior = .ok line

namespace LineCache

variable {σ : Type} {cache : LineCache σ} {buffer : Buffer} {edit : Edit}

/-- The cache of a whole document is ready for any edit that starts within the document. -/
theorem Complete.follows (h : cache.Complete buffer)
    (hinside : edit.range.start.line < buffer.lineCount) :
    Follows cache (buffer.applyEdit edit) [edit] buffer.lineCount edit.range.start.line := by
  have hfollows := h.correctPrefix.follows hinside (show ∀ e ∈ [edit], _ by simp)
    (show ∀ e, [edit].getLast? = some e → e.range.start.line = edit.range.start.line by simp)
  rwa [Buffer.applyEdits_singleton] at hfollows

/-- Following one edit either stops at once because the edit is contained, or reads the document
to its end. -/
theorem Complete.applySorted_single [BEq σ] (h : cache.Complete buffer)
    (hinside : edit.range.start.line < buffer.lineCount) :
    (∃ reparsed, cache.applySorted (buffer.applyEdit edit) [edit] = .ok reparsed () ∧
        Reread cache reparsed (buffer.applyEdit edit)
          (min (min edit.range.start.line (buffer.applyEdit edit).lastLine) cache.size)
          (min (edit.range.start.line + edit.insertedBreaks) (buffer.applyEdit edit).lastLine + 1) ∧
        isContained cache reparsed edit) ∨
      ReadsBelow (cache.applySorted (buffer.applyEdit edit) [edit]) (buffer.applyEdit edit)
          (buffer.applyEdit edit).lineCount ∧
        ((cache.applySorted (buffer.applyEdit edit) [edit]).result = .ok () →
          (cache.applySorted (buffer.applyEdit edit) [edit]).state.Complete
            (buffer.applyEdit edit)) := by
  obtain ⟨grammar, hgrammar⟩ := h.exists_grammar
  have hfollows := h.follows hinside
  have htop := hfollows.top_lt
  have hlast := (buffer.applyEdit edit).lastLine_add_one
  have hsize := h.size_eq
  have habove : cache.CurrentBelow (buffer.applyEdit edit) edit.range.start.line :=
    hfollows.above.mono (by omega)
  have hreads := rereads_reparseEdit hgrammar h.dense (buffer.applyEdit edit) edit
  rw [applySorted]
  cases hresult : (cache.reparseEdit (buffer.applyEdit edit) edit).result with
  | error fault =>
    rw [Outcome.andThen_of_error hresult]
    obtain ⟨failing, error, hlt, rfl, hcurrent, hfails⟩ :=
      (hreads.readsBelow (habove.mono (by omega))).failsAt_of_error hresult
    exact .inr ⟨.inr ⟨failing, error, by omega, rfl, hcurrent, hfails⟩, fun hok => by cases hok⟩
  | ok _ =>
    have hread := hreads.reread_of_ok hresult
    rw [Outcome.andThen_of_ok hresult]
    by_cases hcontained :
        isContained cache (cache.reparseEdit (buffer.applyEdit edit) edit).state edit
    · rw [if_pos hcontained]
      exact .inl ⟨_, rfl, hread, hcontained⟩
    · rw [if_neg hcontained]
      exact .inr (hfollows.currentAbove.widen hgrammar hread)

/-- The cache of a whole document follows one edit as if it read the new document from its first
line on. -/
theorem Complete.readsBelow_applySorted [BEq σ] [LawfulBEq σ] (h : cache.Complete buffer)
    (hordered : edit.range.start.line ≤ edit.range.stop.line)
    (hinside : edit.range.start.line < buffer.lineCount) :
    ReadsBelow (cache.applySorted (buffer.applyEdit edit) [edit]) (buffer.applyEdit edit)
        (buffer.applyEdit edit).lineCount ∧
      ((cache.applySorted (buffer.applyEdit edit) [edit]).result = .ok () →
        (cache.applySorted (buffer.applyEdit edit) [edit]).state.Complete
          (buffer.applyEdit edit)) := by
  rcases h.applySorted_single hinside with ⟨reparsed, heq, hread, hcontained⟩ | hreads
  · have hfollows := h.follows hinside
    have hsize := h.size_eq
    obtain ⟨hnext, hsize'⟩ := hfollows.step hordered hread hcontained
    obtain ⟨hcount, hcorrect⟩ := hnext.correctPrefix
    have hcomplete := hcorrect.complete (by omega)
    rw [heq]
    exact ⟨.inl ⟨rfl, hcomplete.current⟩, fun _ => hcomplete⟩
  · exact hreads

/-- One edit to a document that is tokenized as a whole. The cache follows it exactly if the new
document can be tokenized. Otherwise the fault is that of the first line, `failing`, on which a
full reading stops; it does not lie above the edit, the lines above it are cached as the full
reading has them, and there queries answer as an empty cache does, whatever was asked before. -/
theorem applyChanges_single_iff [BEq σ] [LawfulBEq σ] (h : cache.Complete buffer)
    (hordered : edit.range.start ≤ edit.range.stop)
    (hinside : edit.range.start.line < buffer.lineCount) :
    let document := buffer.applyEdit edit
    let followed := cache.applyChanges document [edit]
    let fresh := build document cache.grammar cache.maxLineLength
    (followed.result = .ok () ↔ fresh.result = .ok ()) ∧
      ∀ fault, followed.result = .error fault →
        ∃ failing error, fault = .grammar error ∧ fresh.result = .error fault ∧
          fresh.state.size = failing ∧ fresh.state.CurrentBelow document failing ∧
          fresh.state.FailsAt document failing error ∧
          edit.range.start.line ≤ failing ∧ failing < document.lineCount ∧
          followed.state.lines.take failing = fresh.state.lines ∧
          followed.state.snapshots.take failing = fresh.state.snapshots ∧
          ∀ queries position, (document.clamp position).line < failing →
            ((followed.state.queried document queries).scopeAt document position).result =
              ((untokenized cache.grammar cache.maxLineLength).scopeAt document
                position).result := by
  intro document followed fresh
  obtain ⟨grammar, hgrammar⟩ := h.exists_grammar
  have hsingle : followed = cache.applySorted document [edit] :=
    applyChanges_of_descending hgrammar (List.pairwise_singleton _ _)
  have hreads : ReadsBelow followed document document.lineCount :=
    hsingle ▸ (h.readsBelow_applySorted (Position.line_le_of_le hordered) hinside).1
  have hasks : (untokenized cache.grammar cache.maxLineLength).grammar = some grammar := hgrammar
  have hfresh : ReadsBelow fresh document document.lineCount := readsBelow_refresh hasks document
  have setup : SameSetup cache followed.state := setup_applyChanges cache document [edit]
  have setup' : SameSetup cache fresh.state := by
    have hempty : SameSetup cache (untokenized cache.grammar cache.maxLineLength) := ⟨rfl, rfl⟩
    exact hempty.trans (setup_refresh _ document)
  have hsame : followed.result = fresh.result :=
    hreads.result_eq hfresh (setup.symm.trans setup')
  refine ⟨by rw [hsame], fun fault hfault => ?_⟩
  obtain ⟨failing', error', _, hfault', hcurrent, hfails'⟩ := hreads.failsAt_of_error hfault
  obtain ⟨failing, error, hlt, rfl, hsize, hread, hfails⟩ :=
    refresh_of_error hasks (show fresh.result = .error fault from hsame ▸ hfault)
  -- both stop on the same line, so the lines above it are read alike
  obtain ⟨rfl, -⟩ := hcurrent.failing_eq hfails' hread hfails (setup.symm.trans setup')
  have hdense : followed.state.Dense := h.dense.applyChanges document [edit]
  obtain ⟨hlines, hsnapshots⟩ := hcurrent.truncate_eq hdense hread (dense_refresh _ document)
    (setup.symm.trans setup') hsize
  -- the lines above the edit can be read, since they were read before it
  have hstart : edit.range.start.line ≤ failing' := by
    apply Nat.le_of_not_lt
    intro habove
    have hkept := (h.follows hinside).above
    have hcovers := h.size_eq
    exact hread.not_currentBelow hfails setup'.symm habove (hkept.mono (by omega))
  refine ⟨failing', error, rfl, hsame ▸ hfault, hsize, hread, hfails, hstart, hlt, hlines,
    hsnapshots, fun queries position hposition => ?_⟩
  have hqueried := hcurrent.queried hdense queries
  refine scopeAt_result_eq ?_ (hdense.queried document queries) (dense_untokenized _ _)
    (hqueried.mono (by omega)) fun _ hindex => ?_
  · have hsetup := setup.trans (setup_queried followed.state document queries)
    exact ⟨hsetup.1.symm, hsetup.2.symm⟩
  · simp only [untokenized, size, List.length_nil] at hindex
    omega

/-- A comment loses its start, so that the line below is read again and the grammar fails there.
The cache keeps four lines, and the first two of them are right. -/
theorem applyChanges_single_unclosed :
    let buffer := Buffer.ofText ['a', '\n', '<', '\n', '!', '\n', '>']
    let cache := (build buffer (some .comments) 3).state
    let edit : Edit := ⟨⟨⟨1, 0⟩, ⟨1, 1⟩⟩, ['b']⟩
    let document := buffer.applyEdit edit
    let followed := cache.applyChanges document [edit]
    let fresh := build document cache.grammar cache.maxLineLength
    let fault := Fault.grammar (.tokenize "stray mark")
    followed.result = .error fault ∧ fresh.result = .error fault ∧ followed.state.size = 4 ∧
      followed.state.lines.take 2 = fresh.state.lines ∧
      followed.state.snapshots.take 2 = fresh.state.snapshots := by
  intro buffer cache edit document followed fresh fault
  have hcomplete : cache.Complete buffer := complete_refresh rfl (by decide +kernel)
  have hordered : edit.range.start ≤ edit.range.stop := by decide
  have hinside : edit.range.start.line < buffer.lineCount := by decide +kernel
  have hfault : followed.result = .error fault := by decide +kernel
  have hfailing : fresh.state.size = 2 := by decide +kernel
  obtain ⟨_, hstops⟩ := applyChanges_single_iff hcomplete hordered hinside
  obtain ⟨failing, _, _, hfresh, hsize, _, _, _, _, hlines, hsnapshots, _⟩ := hstops fault hfault
  obtain rfl : failing = 2 := hsize.symm.trans hfailing
  refine ⟨hfault, hfresh, by decide +kernel, ?_, ?_⟩
  · simp only [followed, fresh, document, hlines]
  · simp only [followed, fresh, document, hsnapshots]

/-! ## Grammars that never fail -/

section Total

variable {grammar : Grammar σ} (hgrammar : cache.grammar = some grammar) (htotal : grammar.Total)
include hgrammar htotal

theorem Rereads.ok_of_total {outcome : Outcome (LineCache σ) Unit} {first last : Nat}
    (h : Rereads cache outcome buffer first last) : outcome.result = .ok () := by
  rcases h with ⟨hok, _⟩ | ⟨failing, error, _, _, _, hread, asked, hasked, hfails⟩
  · exact hok
  · obtain rfl : asked = grammar :=
      Option.some.inj (hasked.symm.trans (hread.setup.grammar.symm.trans hgrammar))
    rw [Grammar.readLine] at hfails
    split at hfails
    · cases hfails
    · obtain ⟨line, hline⟩ := htotal (buffer.line failing) (outcome.state.stateBefore failing)
      rw [hline] at hfails
      cases hfails

theorem refresh_of_total (buffer : Buffer) : (cache.refresh buffer).result = .ok () := by
  have hasks : cache.clear.grammar = some grammar := hgrammar
  exact (rereads_refresh hgrammar buffer).ok_of_total hasks htotal

theorem reparseFrom_of_total (hdense : cache.Dense) (buffer : Buffer) (first : Nat) :
    (cache.reparseFrom buffer first).result = .ok () := by
  have hwidened : (cache.widenedFrom buffer first).result = .ok () := by
    unfold widenedFrom
    split
    · exact (rereads_reparseRange hgrammar hdense buffer _).ok_of_total hgrammar htotal
    · rfl
  rw [reparseFrom_eq, Outcome.andThen_of_ok hwidened]
  rfl

theorem applySorted_of_total [BEq σ] (hdense : cache.Dense) (buffer : Buffer)
    (edits : List Edit) :
    (cache.applySorted buffer edits).result = .ok () := by
  induction edits generalizing cache with
  | nil => rfl
  | cons edit later ih =>
    have hreads := rereads_reparseEdit hgrammar hdense buffer edit
    have hasks := hreads.setup.grammar ▸ hgrammar
    rw [applySorted, Outcome.andThen_of_ok (hreads.ok_of_total hgrammar htotal)]
    split
    · exact ih hasks hreads.dense
    · exact reparseFrom_of_total hasks htotal hreads.dense buffer _

end Total

end LineCache

end ScopeTracker
