import ScopeTracker.Proofs.Cache.Following

/-!
# Widening over a stale cache

A cache may have lost track of its document altogether: its lines may be stale, some may be missing,
and there may be more of them than the document has. Following a batch of edits puts all of that
right once it comes to an edit that is not contained, provided that the lines above the batch are
right. The edits before it, which were contained, may have been read from any state.

Main statement: a batch that comes to an edit that is not contained ends like a reading of the whole
document, with the same cache or with the same fault (`applyChanges_of_widens`).
-/

namespace ScopeTracker

/-- `top` is the highest line on which an edit of the batch starts. -/
structure Edit.Top (edits : List Edit) (top : Nat) : Prop where
  le : ∀ edit ∈ edits, top ≤ edit.range.start.line
  attained : ∃ edit ∈ edits, edit.range.start.line = top

/-- The last edit of a sorted batch starts on the line on which the highest one starts. -/
theorem Edit.Top.currentAbove {σ : Type} {cache : LineCache σ} {buffer : Buffer}
    {edits : List Edit} {top : Nat} (htop : Edit.Top edits top) (hsorted : Edit.Descending edits)
    (habove : cache.CurrentBelow buffer (min (min top buffer.lineCount) cache.size)) :
    LineCache.CurrentAbove cache buffer edits top where
  start_ge := htop.le
  last_start := by
    intro last hlast
    obtain ⟨highest, hmem, hline⟩ := htop.attained
    have hlow := Edit.line_last_le hsorted hlast highest hmem
    have hhigh := htop.le last (List.mem_of_getLast? hlast)
    omega
  current := habove

namespace LineCache

variable {σ : Type} {cache : LineCache σ} {buffer : Buffer} {edits : List Edit} {top : Nat}

/-- Following the edits comes to one that is not contained. The edits before it are contained, and
the lines of all of them could be read. -/
inductive Widens [BEq σ] (buffer : Buffer) : LineCache σ → List Edit → Prop where
  | here {cache edit later} (hread : (cache.reparseEdit buffer edit).result = .ok ())
      (h : ¬ isContained cache (cache.reparseEdit buffer edit).state edit) :
      Widens buffer cache (edit :: later)
  | later {cache edit later} (hread : (cache.reparseEdit buffer edit).result = .ok ())
      (hcontained : isContained cache (cache.reparseEdit buffer edit).state edit)
      (h : Widens buffer (cache.reparseEdit buffer edit).state later) :
      Widens buffer cache (edit :: later)

/-- Contained edits leave the lines above the batch alone, and the first other edit has everything
below these read. -/
theorem CurrentAbove.applySorted_of_widens [BEq σ] {grammar : Grammar σ}
    (h : CurrentAbove cache buffer edits top) (hgrammar : cache.grammar = some grammar)
    (hdense : cache.Dense) (hwidens : Widens buffer cache edits) :
    ReadsBelow (cache.applySorted buffer edits) buffer buffer.lineCount ∧
      ((cache.applySorted buffer edits).result = .ok () →
        (cache.applySorted buffer edits).state.Complete buffer) := by
  induction hwidens with
  | here hresult hcontained =>
    have hread := (rereads_reparseEdit hgrammar hdense buffer _).reread_of_ok hresult
    rw [applySorted, Outcome.andThen_of_ok hresult, if_neg hcontained]
    exact h.widen hgrammar hread
  | later hresult hcontained _ ih =>
    have hread := (rereads_reparseEdit hgrammar hdense buffer _).reread_of_ok hresult
    rw [applySorted, Outcome.andThen_of_ok hresult, if_pos hcontained]
    exact ih (h.reread hread) (hread.setup.grammar ▸ hgrammar) hread.dense

/-- A sorted batch that comes to an edit that is not contained, on a cache of which nothing is known
but that it is right above the batch. Then the batch fails exactly if the document cannot be
tokenized, with the same fault; otherwise the cache covers the lines of the document and nothing
else, and it holds what tokenizing the document gives. -/
theorem applyChanges_of_widens [BEq σ] {grammar : Grammar σ}
    (hgrammar : cache.grammar = some grammar) (hdense : cache.Dense)
    (hsorted : Edit.Descending edits) (htop : Edit.Top edits top)
    (habove : ∀ index < top, index < cache.size → index < buffer.lineCount →
      cache.IsCurrent buffer index)
    (hwidens : Widens buffer cache edits) :
    let followed := cache.applyChanges buffer edits
    let fresh := build buffer cache.grammar cache.maxLineLength
    followed.result = fresh.result ∧
      (followed.result = .ok () →
        followed.state.size = buffer.lineCount ∧ followed.state.lines = fresh.state.lines ∧
          followed.state.snapshots = fresh.state.snapshots) := by
  intro followed fresh
  have hfollowed : followed = cache.applySorted buffer edits :=
    applyChanges_of_descending hgrammar hsorted
  have hcurrent : CurrentAbove cache buffer edits top :=
    htop.currentAbove hsorted fun index hindex => habove index (by omega) (by omega) (by omega)
  obtain ⟨hreads, hwhole⟩ := hcurrent.applySorted_of_widens hgrammar hdense hwidens
  rw [← hfollowed] at hreads hwhole
  have hasks : (untokenized cache.grammar cache.maxLineLength).grammar = some grammar := hgrammar
  have setup : SameSetup cache followed.state := setup_applyChanges cache buffer edits
  refine ⟨hreads.result_eq (readsBelow_refresh hasks buffer)
    (setup.symm.trans (cache.sameSetup_build buffer)), fun hok => ?_⟩
  have hcomplete := hwhole hok
  obtain ⟨_, hlines, hsnapshots⟩ := hcomplete.build_eq
  rw [← setup.grammar, ← setup.maxLineLength] at hlines hsnapshots
  exact ⟨hcomplete.size_eq, hlines.symm, hsnapshots.symm⟩

/-- The cache is that of a longer text, and only the first line is the document's. The lower edit is
contained, though what it reads belongs to a comment of the old text; the higher one opens the
comment of the new text. -/
theorem applyChanges_of_widens_stale :
    let cache := (build (.ofText ['a', '\n', 'b', '\n', '<', '\n', 'c', '\n', 'd', '\n', 'e'])
      (some .comments) 20).state
    let buffer := Buffer.ofText ['a', '\n', '<', '\n', '!', '\n', 'x']
    let edits : List Edit := [⟨⟨⟨3, 0⟩, ⟨3, 1⟩⟩, ['x']⟩, ⟨⟨⟨1, 0⟩, ⟨1, 1⟩⟩, ['<']⟩]
    let followed := cache.applyChanges buffer edits
    cache.size = 6 ∧ isContained cache (cache.reparseEdit buffer edits[0]).state edits[0] ∧
      followed.result = .ok () ∧ followed.state.size = 4 ∧
      followed.state.lines = (build buffer (some .comments) 20).state.lines ∧
      followed.state.snapshots = [['a'], ['<'], ['!'], ['x']] := by
  intro cache buffer edits followed
  have hgrammar : cache.grammar = some .comments := (setup_refresh _ _).grammar.symm
  have hlimit : cache.maxLineLength = 20 := (setup_refresh _ _).maxLineLength.symm
  have hdense : cache.Dense := dense_refresh _ _
  have hsorted : Edit.Descending edits := by decide
  have htop : Edit.Top edits 1 := ⟨by decide, by decide⟩
  have habove : ∀ index < 1, index < cache.size → index < buffer.lineCount →
      cache.IsCurrent buffer index := by
    intro index hindex _ _
    obtain rfl : index = 0 := by omega
    exact ⟨.comments, _, hgrammar, rfl, rfl⟩
  have hcontained : isContained cache (cache.reparseEdit buffer edits[0]).state edits[0] := by
    decide +kernel
  have hwidens : Widens buffer cache edits :=
    .later (by decide +kernel) hcontained (.here (by decide +kernel) (by decide +kernel))
  have hok : followed.result = .ok () := by decide +kernel
  obtain ⟨_, hwhole⟩ := applyChanges_of_widens hgrammar hdense hsorted htop habove hwidens
  obtain ⟨hsize, hlines, hsnapshots⟩ := hwhole hok
  rw [hgrammar, hlimit] at hlines
  refine ⟨by decide +kernel, hcontained, hok, hsize, ?_, by decide +kernel⟩
  simp only [followed, hlines]

end LineCache

end ScopeTracker
