import ScopeTracker.Proofs.Cache.Following
import ScopeTracker.Proofs.Cache.Queries

/-!
# What following an edit costs

A pass that ends well has asked the grammar about each of its lines that is not too long, once and
from the first to the last. Nothing that it does later changes what it has read, so each call can be
told from the cache in the end: it was made with the text of its line and with the state that is
cached above this line (`Asks`).

Main statement: following one edit asks about the lines that the edit put in, about the rest of the
document only if the edit is not contained, and about no line twice (`applyChanges_asks`).
-/

namespace ScopeTracker

namespace Buffer

/-- The lines from `first` up to but without `last` that have no more than `limit` bytes. -/
def shortLines (buffer : Buffer) (limit first last : Nat) : List Nat :=
  (List.range' first (last - first)).filter fun index => (buffer.line index).byteLength ≤ limit

theorem shortLines_self (buffer : Buffer) (limit first : Nat) :
    buffer.shortLines limit first first = [] := by
  simp [shortLines]

theorem shortLines_succ (buffer : Buffer) (limit index : Nat) :
    buffer.shortLines limit index (index + 1) =
      if limit < (buffer.line index).byteLength then [] else [index] := by
  rw [shortLines, Nat.add_sub_cancel_left, List.range'_one]
  split
  · rename_i hlong
    exact List.filter_cons_of_neg (by simpa using hlong)
  · rename_i hshort
    exact List.filter_cons_of_pos (by simpa using hshort)

theorem shortLines_append (buffer : Buffer) (limit : Nat) {first mid last : Nat}
    (hfirst : first ≤ mid) (hlast : mid ≤ last) :
    buffer.shortLines limit first mid ++ buffer.shortLines limit mid last =
      buffer.shortLines limit first last := by
  have happend : List.range' first (mid - first) ++ List.range' mid (last - mid) =
      List.range' first (last - first) := by
    rw [show last - first = mid - first + (last - mid) by omega, ← List.range'_append_1,
      show first + (mid - first) = mid by omega]
  rw [shortLines, shortLines, shortLines, ← List.filter_append, happend]

theorem lt_of_mem_shortLines {buffer : Buffer} {limit first last index : Nat}
    (h : index ∈ buffer.shortLines limit first last) : index < last := by
  rw [shortLines, List.mem_filter, List.mem_range'_1] at h
  omega

end Buffer

namespace LineCache

variable {σ : Type} {before middle after cache : LineCache σ} {grammar : Grammar σ}
  {buffer : Buffer} {edit : Edit} {first mid last index : Nat}

/-! ## The calls of a pass -/

/-- Operations that led from `before` to `after` have asked the grammar about each line from `first`
up to `last` that is not too long, once and in this order, and about no other line. All calls were
answered, and each of them handed over what is cached in the end of the line above. The lines above
`first` are cached as before. -/
structure Asks (before after : LineCache σ) (buffer : Buffer) (first last : Nat) : Prop where
  setup : SameSetup before after
  above : ∀ index < first, after.entryAt index = before.entryAt index
  calls : after.calls = before.calls ++
    (buffer.shortLines before.maxLineLength first last).map fun index =>
      ⟨buffer.line index, after.stateBefore index⟩
  tokenizedLines : after.tokenizedLines =
    before.tokenizedLines + (buffer.shortLines before.maxLineLength first last).length

theorem Asks.refl (cache : LineCache σ) (buffer : Buffer) (first : Nat) :
    Asks cache cache buffer first first where
  setup := .refl cache
  above := fun _ _ => rfl
  calls := by rw [Buffer.shortLines_self, List.map_nil, List.append_nil]
  tokenizedLines := by rw [Buffer.shortLines_self, List.length_nil, Nat.add_zero]

/-- Later operations do not change what a pass has asked, if they leave its lines alone. -/
theorem Asks.calls_congr (h : Asks before middle buffer first last)
    (hkept : ∀ index < last, after.entryAt index = middle.entryAt index) :
    middle.calls = before.calls ++
      (buffer.shortLines before.maxLineLength first last).map fun index =>
        ⟨buffer.line index, after.stateBefore index⟩ := by
  rw [h.calls]
  congr 1
  refine List.map_congr_left fun index hindex => ?_
  have hlt := Buffer.lt_of_mem_shortLines hindex
  rw [stateBefore_congr fun above habove => hkept above (by omega)]

theorem Asks.trans (h : Asks before middle buffer first mid)
    (h' : Asks middle after buffer mid last) (hfirst : first ≤ mid) (hlast : mid ≤ last) :
    Asks before after buffer first last where
  setup := h.setup.trans h'.setup
  above := fun index hindex => (h'.above index (by omega)).trans (h.above index hindex)
  calls := by
    rw [h'.calls, h.calls_congr h'.above, ← h.setup.maxLineLength,
      ← buffer.shortLines_append before.maxLineLength hfirst hlast, List.map_append,
      List.append_assoc]
  tokenizedLines := by
    rw [h'.tokenizedLines, h.tokenizedLines, ← h.setup.maxLineLength,
      ← buffer.shortLines_append before.maxLineLength hfirst hlast, List.length_append,
      Nat.add_assoc]

/-- A line that is current and not too long was answered for. -/
theorem IsCurrent.answered (h : cache.IsCurrent buffer index)
    (hshort : ¬ cache.maxLineLength < (buffer.line index).byteLength) :
    cache.answers ⟨buffer.line index, cache.stateBefore index⟩ = true := by
  obtain ⟨grammar, line, hgrammar, _, hread⟩ := h
  rw [Grammar.readLine, if_neg hshort] at hread
  simp only [answers, hgrammar]
  cases htokens : grammar.tokenizeLine (buffer.line index) (cache.stateBefore index) with
  | ok _ => rfl
  | error _ =>
    rw [htokens] at hread
    cases hread

theorem asks_reparseLine (hgrammar : cache.grammar = some grammar) (hdense : cache.Dense)
    (hindex : index ≤ cache.size)
    (hok : (cache.reparseLine buffer index).result = .ok ()) :
    Asks cache (cache.reparseLine buffer index).state buffer index (index + 1) := by
  have hread := (rereads_reparseLine hgrammar hdense buffer hindex).reread_of_ok hok
  have hpays := pays_reparseLine hgrammar buffer index
  generalize (cache.reparseLine buffer index).state = after at hread hpays
  have hstate : after.stateBefore index = cache.stateBefore index :=
    stateBefore_congr fun above habove => hread.outside above (.inl (by omega))
  refine ⟨hread.setup, fun above habove => hread.outside above (.inl habove), ?_, ?_⟩
  · rw [hpays.calls, Buffer.shortLines_succ, lineCalls, ← hstate]
    split <;> rfl
  · rw [hpays.counted, Buffer.shortLines_succ, lineCalls]
    split
    · rfl
    · rename_i hshort
      have hcurrent := hread.inside index (Nat.le_refl _) (Nat.lt_succ_self _)
      have hanswered := hcurrent.answered (hread.setup.maxLineLength ▸ hshort)
      rw [hstate] at hanswered
      rw [← hread.setup.tokenizedBy_eq]
      simp only [tokenizedBy, List.filter_cons, hanswered, if_true, List.filter_nil, List.map_cons,
        List.map_nil]

theorem asks_reparseLines (hgrammar : cache.grammar = some grammar) (hdense : cache.Dense)
    (hfirst : first ≤ cache.size) (count : Nat)
    (hok : (cache.reparseLines buffer first count).result = .ok ()) :
    Asks cache (cache.reparseLines buffer first count).state buffer first (first + count) := by
  induction count generalizing cache first with
  | zero => exact .refl cache buffer first
  | succ count ih =>
    rw [reparseLines] at hok ⊢
    have hresult := Outcome.ok_of_andThen hok
    have hread := (rereads_reparseLine hgrammar hdense buffer hfirst).reread_of_ok hresult
    have hline := asks_reparseLine hgrammar hdense hfirst hresult
    rw [Outcome.andThen_of_ok hresult] at hok ⊢
    generalize (cache.reparseLine buffer first).state = next at hok hread hline
    have hnext : first + 1 ≤ next.size := by
      rw [hread.size]
      omega
    have hrest := ih (hread.setup.grammar ▸ hgrammar) hread.dense hnext hok
    rw [show first + 1 + count = first + (count + 1) by omega] at hrest
    exact hline.trans hrest (by omega) (by omega)

theorem asks_lines (hgrammar : cache.grammar = some grammar) (hdense : cache.Dense)
    (hle : first ≤ last) (hok : (cache.reparseRange buffer (.lines first last)).result = .ok ()) :
    Asks cache (cache.reparseRange buffer (.lines first last)).state buffer
      (min (min first buffer.lastLine) cache.size) (min last buffer.lastLine + 1) := by
  rw [reparseRange_lines hgrammar buffer hle] at hok ⊢
  have hasks := asks_reparseLines hgrammar hdense (Nat.min_le_right _ _) _ hok
  rwa [show min (min first buffer.lastLine) cache.size +
    (min last buffer.lastLine + 1 - min (min first buffer.lastLine) cache.size) =
    min last buffer.lastLine + 1 by omega] at hasks

/-! ## The calls of a widening -/

theorem Asks.truncate (h : Asks before after buffer first last) (hle : first ≤ last) :
    Asks before (after.truncate last) buffer first last where
  setup := h.setup.trans ⟨rfl, rfl⟩
  above := fun index hindex =>
    (after.entryAt_truncate (by omega)).trans (h.above index hindex)
  calls := h.calls_congr fun _ hindex => after.entryAt_truncate hindex
  tokenizedLines := h.tokenizedLines

theorem asks_widenedFrom (hgrammar : cache.grammar = some grammar) (hdense : cache.Dense)
    (hsize : first ≤ cache.size)
    (hfirst : first ≤ buffer.lineCount) (hok : (cache.widenedFrom buffer first).result = .ok ()) :
    Asks cache (cache.widenedFrom buffer first).state buffer first buffer.lineCount := by
  have hlast := buffer.lastLine_add_one
  unfold widenedFrom at hok ⊢
  split at hok
  · rename_i hlt
    rw [if_pos hlt]
    have hasks := asks_lines hgrammar hdense (show first ≤ buffer.lastLine by omega) hok
    rwa [show min (min first buffer.lastLine) cache.size = first by omega,
      show min buffer.lastLine buffer.lastLine + 1 = buffer.lineCount by omega] at hasks
  · -- the lines above are the whole document
    rename_i hend
    obtain rfl : first = buffer.lineCount := by omega
    rw [if_neg hend]
    exact .refl cache buffer _

/-- A widening that starts right below the cached lines or above asks about the rest of the
document. -/
theorem asks_reparseFrom (hgrammar : cache.grammar = some grammar) (hdense : cache.Dense)
    (hsize : first ≤ cache.size)
    (hfirst : first ≤ buffer.lineCount) (hok : (cache.reparseFrom buffer first).result = .ok ()) :
    Asks cache (cache.reparseFrom buffer first).state buffer first buffer.lineCount := by
  rw [reparseFrom_eq] at hok ⊢
  have hresult := Outcome.ok_of_andThen hok
  rw [Outcome.andThen_of_ok hresult]
  exact (asks_widenedFrom hgrammar hdense hsize hfirst hresult).truncate hfirst

/-! ## One edit -/

theorem isContained_iff [BEq σ] (hlines : edit.range.start.line ≤ edit.range.stop.line) :
    isContained before after edit ↔ edit.insertedBreaks = edit.removedBreaks ∧
      (before.boundary (edit.range.start.line + edit.insertedBreaks)).isStable
        (after.boundary (edit.range.start.line + edit.insertedBreaks)) := by
  rw [isContained, Bool.and_eq_true, beq_iff_eq]
  refine and_congr_right fun hbreaks => ?_
  -- an edit that keeps the line count ends on the same line in both documents
  rw [hbreaks, Edit.removedBreaks, Nat.add_sub_cancel' hlines]

/-- The lines of an edit that starts within the cached lines and ends within the document. -/
theorem asks_reparseEdit (hgrammar : cache.grammar = some grammar) (hdense : cache.Dense)
    (hstart : edit.range.start.line ≤ cache.size)
    (hstop : edit.range.start.line + edit.insertedBreaks < buffer.lineCount)
    (hok : (cache.reparseEdit buffer edit).result = .ok ()) :
    Reread cache (cache.reparseEdit buffer edit).state buffer edit.range.start.line
        (edit.range.start.line + edit.insertedBreaks + 1) ∧
      Asks cache (cache.reparseEdit buffer edit).state buffer edit.range.start.line
        (edit.range.start.line + edit.insertedBreaks + 1) := by
  have hlast := buffer.lastLine_add_one
  have hread := (rereads_reparseEdit hgrammar hdense buffer edit).reread_of_ok hok
  have hasks := asks_lines hgrammar hdense (Nat.le_add_right edit.range.start.line _) hok
  rw [show min (min edit.range.start.line buffer.lastLine) cache.size = edit.range.start.line by
      omega,
    show min (edit.range.start.line + edit.insertedBreaks) buffer.lastLine =
      edit.range.start.line + edit.insertedBreaks by omega] at hread hasks
  exact ⟨hread, hasks⟩

/-- Following one edit reads its lines, and ends there or goes on below them. -/
theorem applySorted_single_of_ok [BEq σ] (hok : (cache.applySorted buffer [edit]).result = .ok ()) :
    (cache.reparseEdit buffer edit).result = .ok () ∧
      cache.applySorted buffer [edit] =
        if isContained cache (cache.reparseEdit buffer edit).state edit then
          .ok (cache.reparseEdit buffer edit).state ()
        else
          (cache.reparseEdit buffer edit).state.reparseFrom buffer
            (edit.range.start.line + edit.insertedBreaks + 1) := by
  have hresult := Outcome.ok_of_andThen hok
  exact ⟨hresult, by rw [applySorted, Outcome.andThen_of_ok hresult]; rfl⟩

/-- One edit to a document that is tokenized as a whole, and the calls that following it makes. They
are for the lines that the edit put in, in order, and if the edit keeps the line count and the state
at its last line, for no others; all other lines are cached as before. Otherwise they go on through
the rest of the document. -/
theorem applyChanges_asks [BEq σ] (h : cache.Complete buffer)
    (hordered : edit.range.start ≤ edit.range.stop)
    (hinside : edit.range.stop.line < buffer.lineCount)
    (hok : (cache.applyChanges (buffer.applyEdit edit) [edit]).result = .ok ()) :
    let document := buffer.applyEdit edit
    let followed := (cache.applyChanges document [edit]).state
    let first := edit.range.start.line
    let last := first + edit.insertedBreaks
    let contained := edit.insertedBreaks = edit.removedBreaks ∧
      (cache.boundary last).isStable (followed.boundary last)
    last < document.lineCount ∧
      (contained → Asks cache followed document first (last + 1) ∧
        ∀ index, index < first ∨ last < index →
          followed.entryAt index = cache.entryAt index) ∧
      (¬ contained → Asks cache followed document first document.lineCount) := by
  intro document followed first last contained
  obtain ⟨grammar, hgrammar⟩ := h.exists_grammar
  have hlines : first ≤ edit.range.stop.line := Position.line_le_of_le hordered
  have hsize := h.size_eq
  have hlast := document.lastLine_add_one
  have hcount : last < document.lineCount := by
    have hcounts := buffer.lineCount_applyEdit edit
    have hstart := buffer.line_start_clampRange edit.range
    have hstop := buffer.line_stop_clampRange edit.range
    have := buffer.lastLine_add_one
    simp only [document, last]
    omega
  have hsingle : cache.applyChanges document [edit] = cache.applySorted document [edit] :=
    applyChanges_of_descending hgrammar (List.pairwise_singleton _ _)
  rw [hsingle] at hok
  obtain ⟨hresult, hends⟩ := applySorted_single_of_ok hok
  obtain ⟨hread, hasks⟩ := asks_reparseEdit hgrammar h.dense (by omega) hcount hresult
  generalize (cache.reparseEdit document edit).state = reparsed at hends hread hasks
  -- what is read below the edit has no part in whether the edit is contained
  have hiff : followed.boundary last = reparsed.boundary last →
      (contained ↔ isContained cache reparsed edit) := by
    intro hboundary
    rw [isContained_iff hlines, ← hboundary]
  refine ⟨hcount, ?_⟩
  by_cases hcontained : isContained cache reparsed edit
  · rw [if_pos hcontained, ← hsingle] at hends
    have hfollowed : followed = reparsed := congrArg Outcome.state hends
    have hstops : contained := (hiff (by rw [hfollowed])).mpr hcontained
    refine ⟨fun _ => ?_, fun hwidens => absurd hstops hwidens⟩
    rw [hfollowed]
    exact ⟨hasks, fun index hindex => hread.outside index (by omega)⟩
  · rw [if_neg hcontained] at hends
    have hrest : Asks reparsed followed document (last + 1) document.lineCount := by
      have hsize' := hread.size
      have hfollowed : followed = (reparsed.reparseFrom document (last + 1)).state :=
        congrArg Outcome.state (hsingle.trans hends)
      rw [hfollowed]
      exact asks_reparseFrom (hread.setup.grammar ▸ hgrammar) hread.dense (by omega) hcount
        (hends ▸ hok)
    have hboundary : followed.boundary last = reparsed.boundary last := by
      rw [boundary, boundary, line?_congr (hrest.above last (Nat.lt_succ_self last))]
    have hwidens : ¬ contained := mt (hiff hboundary).mp hcontained
    exact ⟨fun hstops => absurd hstops hwidens, fun _ => hasks.trans hrest (by omega) hcount⟩

/-- A line is split in two, and the second half opens a comment. So the rest is asked about as well,
but for the line that is too long; the line below it starts afresh. -/
theorem applyChanges_asks_split :
    let buffer := Buffer.ofText ['a', '\n', 'b', '\n', 'c', 'c', 'c', 'c', '\n', 'd']
    let cache := (build buffer (some .comments) 3).state
    let edit : Edit := ⟨⟨⟨0, 0⟩, ⟨0, 1⟩⟩, ['x', '\n', '<']⟩
    let document := buffer.applyEdit edit
    let followed := (cache.applyChanges document [edit]).state
    followed.calls =
        cache.calls ++ [⟨['x'], none⟩, ⟨['<'], some false⟩, ⟨['b'], some true⟩, ⟨['d'], none⟩] ∧
      followed.tokenizedLines = cache.tokenizedLines + 4 := by
  intro buffer cache edit document followed
  have hcomplete : cache.Complete buffer := complete_refresh rfl (by decide +kernel)
  have hinside : edit.range.stop.line < buffer.lineCount := by decide +kernel
  have hok : (cache.applyChanges document [edit]).result = .ok () := by decide +kernel
  have hgrown : ¬ edit.insertedBreaks = edit.removedBreaks := by decide +kernel
  obtain ⟨_, _, hwidens⟩ := applyChanges_asks hcomplete (by decide) hinside hok
  have hasks : Asks cache followed document 0 document.lineCount :=
    hwidens fun hcontained => hgrown hcontained.1
  have hlines : document.shortLines cache.maxLineLength 0 document.lineCount = [0, 1, 2, 4] := by
    decide +kernel
  obtain ⟨_, _, hcalls, hcounted⟩ := hasks
  rw [hlines] at hcalls hcounted
  have hmade : [0, 1, 2, 4].map
        (fun index => (⟨document.line index, followed.stateBefore index⟩ : GrammarCall Bool)) =
      [⟨['x'], none⟩, ⟨['<'], some false⟩, ⟨['b'], some true⟩, ⟨['d'], none⟩] := by
    decide +kernel
  exact ⟨hmade ▸ hcalls, hcounted⟩

end LineCache

end ScopeTracker
