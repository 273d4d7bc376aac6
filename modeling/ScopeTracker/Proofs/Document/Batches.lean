import Mathlib.Algebra.Order.Group.Nat
import Mathlib.Algebra.Order.BigOperators.Group.List
import ScopeTracker.Proofs.Cache.Refusing
import ScopeTracker.Proofs.Document.Histories

/-!
# Which batches fail on text that can be tokenized

A document that is tokenized as a whole may fail on a batch of edits though the text after the batch
can be tokenized too, since the lower edits are looked at while the states above them still are
those of the old text. The failure leaves the rest of the batch unread.

Main statements: a batch never fails that way, whatever the grammar, exactly if it is consistent
(`neverFails_iff`); edits that all start on one line never do (`neverFails_of_one_line`).
-/

namespace ScopeTracker

/-- No line of two texts is longer than some number of bytes. -/
theorem Buffer.exists_limit (buffer document : Buffer) :
    ∃ limit, ∀ index, (buffer.line index).byteLength ≤ limit ∧
      (document.line index).byteLength ≤ limit := by
  have hlimit : ∀ text : Buffer, ∀ index,
      (text.line index).byteLength ≤ (text.lines.map Text.byteLength).sum := by
    intro text index
    rw [line_eq]
    cases hline : text.lines[index]? with
    | none => exact Nat.zero_le _
    | some line => exact List.le_sum_of_mem (List.mem_map_of_mem (List.mem_of_getElem? hline))
  exact ⟨_, fun index => ⟨Nat.le_trans (hlimit buffer index) (Nat.le_add_right _ _),
    Nat.le_trans (hlimit document index) (Nat.le_add_left _ _)⟩⟩

namespace Document

variable {buffer : Buffer} {edits : List Edit}

/-- Whatever the grammar, the batch does not fail on a document that is tokenized as a whole if the
text after the batch can be tokenized. -/
def NeverFails (buffer : Buffer) (edits : List Edit) : Prop :=
  ∀ (σ : Type) [BEq σ] [LawfulBEq σ] (document : Document σ),
    document.buffer = buffer → document.cache.Complete buffer →
    (LineCache.build (buffer.applyEdits edits) document.cache.grammar
      document.cache.maxLineLength).result = .ok () →
    (document.onEdits edits).result = .ok ()

/-- The batch is sorted, and the cache follows what it makes of the text. -/
theorem result_onEdits {σ : Type} [BEq σ] {document : Document σ} {grammar : Grammar σ}
    (hgrammar : document.cache.grammar = some grammar) (edits : List Edit) :
    (document.onEdits edits).result =
      (document.cache.applySorted (document.buffer.applyEdits edits)
        (Edit.sortDescending edits)).result := by
  show (document.cache.applyChanges (document.buffer.applyEdits (Edit.sortDescending edits))
    (Edit.sortDescending edits)).result = _
  rw [Buffer.applyEdits_sortDescending,
    LineCache.applyChanges_of_descending hgrammar (Edit.descending_sortDescending edits)]

theorem neverFails_of_consistent
    (hordered : ∀ edit ∈ edits, edit.range.start.line ≤ edit.range.stop.line)
    (hinside : ∀ edit ∈ edits, edit.range.start.line < buffer.lineCount)
    (hconsistent : Edit.BatchConsistent buffer (buffer.applyEdits edits)
      (Edit.sortDescending edits)) : NeverFails buffer edits := by
  rintro σ _ _ document rfl hcomplete hnew
  obtain ⟨grammar, hgrammar⟩ := hcomplete.exists_grammar
  have hdescending := Edit.descending_sortDescending edits
  have hinside' := Edit.forall_mem_sortDescending.mpr hinside
  obtain ⟨top, htop, hstart, hlast⟩ := LineCache.exists_top hdescending hinside'
  have hfollows := hcomplete.correctPrefix.follows htop hstart hlast
  rw [Buffer.applyEdits_sortDescending] at hfollows
  have hasks : (LineCache.untokenized document.cache.grammar
      document.cache.maxLineLength).grammar = some grammar := hgrammar
  rw [result_onEdits hgrammar]
  refine hfollows.applySorted_of_consistent hgrammar hcomplete.size_eq hdescending
    (Edit.forall_mem_sortDescending.mpr hordered) hinside' (fun edit hedit => ?_) hcomplete
    (.refl _) (LineCache.complete_refresh hasks hnew) (LineCache.sameSetup_build _ _) hconsistent
  refine hcomplete.current.mono ?_
  have hedit := hinside' edit hedit
  rw [Edit.firstRead]
  omega

/-- Edits that all start on one line leave the lines above it alone. So they never fail, a single
edit among them. -/
theorem neverFails_of_one_line {top : Nat} (htop : top < buffer.lineCount)
    (hstart : ∀ edit ∈ edits, edit.range.start.line = top)
    (hordered : ∀ edit ∈ edits, edit.range.start.line ≤ edit.range.stop.line) :
    NeverFails buffer edits := by
  have hge : ∀ edit ∈ edits, top ≤ edit.range.start.line :=
    fun edit hedit => Nat.le_of_eq (hstart edit hedit).symm
  have habove : buffer.AgreesOn (buffer.applyEdits edits) 0 top := by
    intro index hindex _
    have hinside := Buffer.lt_lineCount_applyEdits hge htop
    rw [Buffer.getElem?_lines _ (Nat.lt_trans hindex htop),
      Buffer.getElem?_lines _ (Nat.lt_trans hindex hinside),
      Buffer.line_applyEdits_above hge htop hindex]
  refine neverFails_of_consistent hordered (fun edit hedit => hstart edit hedit ▸ htop)
    (LineCache.batchConsistent_of_agreesOn habove fun edit hedit => ?_)
  rw [Edit.firstRead, hstart edit (Edit.mem_sortDescending.mp hedit)]
  exact Nat.min_le_left _ _

/-- A batch that is not consistent fails with a grammar that tokenizes the text before and the text
after it. -/
theorem not_neverFails_of_inconsistent
    (hordered : ∀ edit ∈ edits, edit.range.start.line ≤ edit.range.stop.line)
    (hinside : ∀ edit ∈ edits, edit.range.stop.line < buffer.lineCount)
    (hinconsistent : ¬ Edit.BatchConsistent buffer (buffer.applyEdits edits)
      (Edit.sortDescending edits)) : ¬ NeverFails buffer edits := by
  intro hnever
  obtain ⟨path, hold, hnew, hfails⟩ := LineCache.exists_refusing_path
    (Edit.descending_sortDescending edits) (Edit.forall_mem_sortDescending.mpr hordered)
    (Edit.forall_mem_sortDescending.mpr hinside) hinconsistent
  obtain ⟨limit, hlimit⟩ := buffer.exists_limit (buffer.applyEdits edits)
  obtain ⟨hshort, hshort'⟩ := forall_and.mp hlimit
  -- the document as the refusing grammar has read it
  let cache := (LineCache.build buffer (some (.refusing path)) limit).state
  have hdense : cache.Dense := LineCache.dense_refresh _ buffer
  have hcomplete : cache.Complete buffer :=
    LineCache.complete_refresh rfl (LineCache.build_refusing hshort hold)
  have setup : LineCache.SameSetup (.untokenized (some (.refusing path)) limit) cache :=
    LineCache.setup_build buffer _ _
  have hgrammar : cache.grammar = some (.refusing path) := setup.grammar.symm
  have hmax : cache.maxLineLength = limit := setup.maxLineLength.symm
  have hresult := hnever (List Text)
    { buffer, cache, languageId := "", version := 0, dense := hdense } rfl hcomplete
    (by rw [hgrammar, hmax]; exact LineCache.build_refusing hshort' hnew)
  rw [result_onEdits hgrammar] at hresult
  exact hfails cache hcomplete ⟨hgrammar, hmax ▸ hshort⟩ ⟨hgrammar, hmax ▸ hshort'⟩ hresult

/-- For every batch of edits within a text: it never fails on a text that can be tokenized, whatever
the grammar, exactly if all its edits down to the first that changes the number of lines are
consistent, the lowest edit first. -/
theorem neverFails_iff (hordered : ∀ edit ∈ edits, edit.range.start ≤ edit.range.stop)
    (hinside : ∀ edit ∈ edits, edit.range.stop.line < buffer.lineCount) :
    NeverFails buffer edits ↔
      Edit.BatchConsistent buffer (buffer.applyEdits edits) (Edit.sortDescending edits) := by
  have hlines : ∀ edit ∈ edits, edit.range.start.line ≤ edit.range.stop.line :=
    fun edit hedit => Position.line_le_of_le (hordered edit hedit)
  constructor
  · intro hnever
    exact Decidable.byContradiction fun hinconsistent =>
      not_neverFails_of_inconsistent hlines hinside hinconsistent hnever
  · exact neverFails_of_consistent hlines fun edit hedit =>
      Nat.lt_of_le_of_lt (hlines edit hedit) (hinside edit hedit)

/-- Two edits of one line, of which the lower one puts in a break: the lines above are the same in
both texts. One edit of each of two lines: the line above the lower one is not. -/
theorem neverFails_on_one_line :
    let buffer := Buffer.ofText ['a', '\n', 'b', '\n', 'c']
    let together : List Edit := [.insert ⟨1, 1⟩ ['\n', '!'], .insert ⟨1, 0⟩ ['<']]
    let apart : List Edit := [.insert ⟨2, 0⟩ ['!'], .insert ⟨1, 0⟩ ['<']]
    (∀ edit ∈ together ++ apart, edit.range.start ≤ edit.range.stop) ∧
      (∀ edit ∈ together ++ apart, edit.range.stop.line < buffer.lineCount) ∧
      NeverFails buffer together ∧ ¬ NeverFails buffer apart := by
  intro buffer together apart
  have hordered : ∀ edit ∈ together ++ apart, edit.range.start ≤ edit.range.stop := by decide
  have hinside : ∀ edit ∈ together ++ apart, edit.range.stop.line < buffer.lineCount := by
    decide +kernel
  have htogether := neverFails_iff (fun edit h => hordered edit (List.mem_append_left apart h))
    (fun edit h => hinside edit (List.mem_append_left apart h))
  have hapart := neverFails_iff (fun edit h => hordered edit (List.mem_append_right together h))
    (fun edit h => hinside edit (List.mem_append_right together h))
  have hsorted : Edit.Descending together := by decide
  have hsorted' : Edit.Descending apart := by decide
  rw [Buffer.applyEdits_of_descending hsorted, Edit.sortDescending_of_descending hsorted]
    at htogether
  rw [Buffer.applyEdits_of_descending hsorted', Edit.sortDescending_of_descending hsorted']
    at hapart
  exact ⟨hordered, hinside, htogether.mpr (by decide +kernel),
    fun hnever => absurd (hapart.mp hnever) (by decide +kernel)⟩

/-- The first line opens a comment and the last one takes a mark. The last line is read while the
line above it still has the state from before the comment, and the grammar fails on it. -/
theorem onEdits_fails_between :
    let document := (create ['a', '\n', 'b', '\n', 'c'] "toy" 1 (some .comments) 20).state
    let edits : List Edit := [⟨⟨⟨2, 0⟩, ⟨2, 1⟩⟩, ['!']⟩, ⟨⟨⟨0, 0⟩, ⟨0, 1⟩⟩, ['<']⟩]
    document.cache.Complete document.buffer ∧
      (∀ edit ∈ edits, edit.range.start ≤ edit.range.stop ∧
        document.buffer.clampRange edit.range = edit.range) ∧
      edits.Pairwise (fun lower higher => higher.range.stop < lower.range.start) ∧
      (LineCache.build (document.buffer.applyEdits edits) document.cache.grammar
        document.cache.maxLineLength).result = .ok () ∧
      (document.onEdits edits).result = .error (.grammar (.tokenize "stray mark")) := by
  intro document edits
  have hdescending : Edit.Descending edits := by decide
  have hcomplete : document.cache.Complete document.buffer :=
    LineCache.complete_refresh rfl (by decide +kernel)
  refine ⟨hcomplete, by decide +kernel, by decide, ?_, ?_⟩
  · rw [Buffer.applyEdits_of_descending hdescending]
    decide +kernel
  · rw [result_onEdits (show document.cache.grammar = some .comments from rfl),
      Buffer.applyEdits_of_descending hdescending, Edit.sortDescending_of_descending hdescending]
    decide +kernel

end Document

end ScopeTracker
