import ScopeTracker.Proofs.Cache.Consistent

/-!
# Batches that fail though both texts can be tokenized

If an edit of a batch is not consistent, the lines that are read for it make a path through both
texts that is the start of neither. A grammar that follows this path, and fails at its end,
tokenizes both texts and fails on the batch.

Main statements: such a grammar tokenizes every text that does not start with its path
(`build_refusing`), and for a batch that is not consistent there is a path that neither text starts
with and that the batch comes to the end of (`applySorted_refusing`).
-/

namespace ScopeTracker

/-! ## A grammar that fails at the end of a path -/

/-- What is left of a path below a line. A line that is not the next one leaves nothing. -/
def leftBelow : List Text → Text → List Text
  | [], _ => []
  | next :: rest, text => if text = next then rest else []

/-- A grammar that fails where the lines read from the start on are those of a path. Its state is
what is left of the path. -/
def Grammar.refusing (path : List Text) : Grammar (List Text) where
  tokenizeLine text prior :=
    let left := prior.getD path
    if left = [text] then .error (.tokenize "refused")
    else .ok { tokens := [], endState := leftBelow left text }

theorem foldl_leftBelow_append (lines rest : List Text) :
    lines.foldl leftBelow (lines ++ rest) = rest := by
  induction lines with
  | nil => rfl
  | cons line lines ih => rwa [List.cons_append, List.foldl_cons, leftBelow, if_pos rfl]

theorem foldl_leftBelow_nil (lines : List Text) : lines.foldl leftBelow [] = [] := by
  induction lines with
  | nil => rfl
  | cons line lines ih => rwa [List.foldl_cons, leftBelow]

/-- If something is left of a path below some lines, the path starts with them. -/
theorem eq_append_of_foldl_leftBelow {lines path : List Text}
    (hleft : lines.foldl leftBelow path ≠ []) : path = lines ++ lines.foldl leftBelow path := by
  induction lines generalizing path with
  | nil => rfl
  | cons line lines ih =>
    rw [List.foldl_cons] at hleft ⊢
    cases path with
    | nil => exact absurd (foldl_leftBelow_nil lines) hleft
    | cons next rest =>
      by_cases hline : line = next
      · rw [leftBelow, if_pos hline] at hleft ⊢
        rw [hline, List.cons_append, ← ih hleft]
      · rw [leftBelow, if_neg hline] at hleft
        exact absurd (foldl_leftBelow_nil lines) hleft

/-! ## Reading with the grammar -/

namespace LineCache

variable {cache after : LineCache (List Text)} {buffer document : Buffer} {path : List Text}
  {index count : Nat}

/-- A cache that asks the refusing grammar, and about every line of a text. -/
structure Follower (cache : LineCache (List Text)) (path : List Text) (buffer : Buffer) : Prop where
  grammar : cache.grammar = some (.refusing path)
  short : ∀ index, (buffer.line index).byteLength ≤ cache.maxLineLength

theorem Follower.congr (h : cache.Follower path buffer) (setup : SameSetup cache after) :
    after.Follower path buffer :=
  ⟨setup.grammar ▸ h.grammar, setup.maxLineLength ▸ h.short⟩

/-- A line that the grammar fails on is all that is left of the path. -/
theorem Follower.left_of_failsAt {error : GrammarError} (h : cache.Follower path buffer)
    (hfails : cache.FailsAt buffer index error) :
    (cache.stateBefore index).getD path = [buffer.line index] := by
  obtain ⟨grammar, hgrammar, hread⟩ := hfails
  obtain rfl : grammar = .refusing path := Option.some.inj (hgrammar.symm.trans h.grammar)
  rw [Grammar.readLine, if_neg (Nat.not_lt.mpr (h.short index))] at hread
  simp only [Grammar.refusing] at hread
  split at hread
  · assumption
  · cases hread

/-- A line that was read is not all that was left of the path, and the state below it is what it
leaves. -/
theorem Follower.stateBefore_succ (h : cache.Follower path buffer)
    (hcurrent : cache.IsCurrent buffer index) :
    (cache.stateBefore index).getD path ≠ [buffer.line index] ∧
      cache.stateBefore (index + 1) =
        some (leftBelow ((cache.stateBefore index).getD path) (buffer.line index)) := by
  obtain ⟨grammar, line, hgrammar, hentry, hread⟩ := hcurrent
  obtain rfl : grammar = .refusing path := Option.some.inj (hgrammar.symm.trans h.grammar)
  rw [Grammar.readLine, if_neg (Nat.not_lt.mpr (h.short index))] at hread
  simp only [Grammar.refusing] at hread
  split at hread
  · cases hread
  · rename_i hleft
    refine ⟨hleft, ?_⟩
    have hline : cache.line? index = some line := congrArg Prod.fst hentry
    rw [stateBefore, hline, ← Except.ok.inj hread]
    rfl

/-- Below lines that were read one after the other stands what they leave of the path. -/
theorem Follower.stateBefore_eq (h : cache.Follower path buffer)
    (hcurrent : cache.CurrentBelow buffer count) (hindex : index ≤ count)
    (hcount : count ≤ buffer.lineCount) :
    (cache.stateBefore index).getD path = (buffer.lines.take index).foldl leftBelow path := by
  induction index with
  | zero => rfl
  | succ index ih =>
    have hline := buffer.getElem?_lines (Nat.lt_of_lt_of_le hindex hcount)
    rw [(h.stateBefore_succ (hcurrent index hindex)).2, ih (by omega), Option.getD_some,
      List.take_add_one, hline, List.foldl_append]
    rfl

/-- Every text that does not start with the path is tokenized. -/
theorem build_refusing {limit : Nat} (hshort : ∀ index, (buffer.line index).byteLength ≤ limit)
    (hpath : ¬ path <+: buffer.lines) :
    (build buffer (some (.refusing path)) limit).result = .ok () := by
  have hstart : (untokenized (some (.refusing path)) limit).Follower path buffer := ⟨rfl, hshort⟩
  rcases readsBelow_refresh hstart.grammar buffer with
    ⟨hok, _⟩ | ⟨failing, error, hlt, _, hcurrent, hfails⟩
  · exact hok
  · exfalso
    have hfollower := hstart.congr (setup_refresh _ buffer)
    have hleft := hfollower.left_of_failsAt hfails
    rw [hfollower.stateBefore_eq hcurrent (Nat.le_refl _) (Nat.le_of_lt hlt)] at hleft
    have heq := eq_append_of_foldl_leftBelow (by rw [hleft]; exact List.cons_ne_nil _ _)
    have hstart : path = buffer.lines.take (failing + 1) := by
      rw [List.take_add_one, buffer.getElem?_lines hlt, Option.toList_some, ← hleft, ← heq]
    exact hpath (hstart ▸ List.take_prefix _ _)

end LineCache

/-! ## A path through both texts -/

/-- Of the lines that are read again for an edit, the first that is not the same in both texts. -/
structure Edit.PartsAt (edit : Edit) (buffer document : Buffer) (index : Nat) : Prop where
  ge : edit.firstRead document ≤ index
  lt : index < edit.endRead document
  above : buffer.AgreesOn document (edit.firstRead document) index
  ne : buffer.lines[index]? ≠ document.lines[index]?

/-- The lines of the old text above a line, and below them that line of the new text. -/
def Buffer.pathTo (buffer document : Buffer) (index : Nat) : List Text :=
  buffer.lines.take index ++ [document.line index]

namespace Edit

variable {edit : Edit} {buffer document : Buffer} {index : Nat}

theorem exists_partsAt (hinconsistent : ¬ edit.Consistent buffer document) :
    (∃ index, edit.PartsAt buffer document index) ∧
      ¬ buffer.AgreesOn document 0 (edit.firstRead document) := by
  obtain ⟨habove, hread⟩ := not_or.mp hinconsistent
  obtain ⟨index, hge, hlt, hagrees, hne⟩ := Buffer.exists_of_not_agreesOn hread
  exact ⟨⟨index, hge, hlt, hagrees, hne⟩, habove⟩

theorem PartsAt.getElem?_eq (h : edit.PartsAt buffer document index) :
    document.lines[index]? = some (document.line index) :=
  document.getElem?_lines (Nat.lt_of_lt_of_le h.lt (LineCache.endRead_le edit document))

/-- The line lies at most one line past the end of the old text. -/
theorem PartsAt.le_lineCount (h : edit.PartsAt buffer document index)
    (hstart : edit.range.start.line < buffer.lineCount) : index ≤ buffer.lineCount := by
  have hend := LineCache.endRead_le edit document
  have hlt := h.lt
  apply Nat.le_of_not_lt
  intro hbelow
  have hfirst : edit.firstRead document ≤ index - 1 := by
    rw [firstRead]
    omega
  have hinside := h.above.lt_lineCount hfirst (by omega) (by omega)
  omega

theorem PartsAt.length_take (h : edit.PartsAt buffer document index)
    (hstart : edit.range.start.line < buffer.lineCount) :
    (buffer.lines.take index).length = index := by
  rw [List.length_take]
  exact Nat.min_eq_left (h.le_lineCount hstart)

theorem PartsAt.not_prefix_old (h : edit.PartsAt buffer document index)
    (hstart : edit.range.start.line < buffer.lineCount) :
    ¬ buffer.pathTo document index <+: buffer.lines := by
  rintro ⟨rest, hrest⟩
  have hlength := h.length_take hstart
  apply h.ne
  rw [h.getElem?_eq, ← hrest, Buffer.pathTo, List.append_assoc,
    List.getElem?_append_right (by omega), hlength, Nat.sub_self]
  rfl

theorem PartsAt.not_prefix_new (h : edit.PartsAt buffer document index)
    (hstart : edit.range.start.line < buffer.lineCount)
    (hdiffers : ¬ buffer.AgreesOn document 0 (edit.firstRead document)) :
    ¬ buffer.pathTo document index <+: document.lines := by
  rintro ⟨rest, hrest⟩
  have hlength := h.length_take hstart
  have hge := h.ge
  apply hdiffers
  intro above habove _
  rw [← hrest, Buffer.pathTo, List.append_assoc, List.getElem?_append_left (by omega),
    List.getElem?_take_of_lt (by omega)]

end Edit

namespace LineCache

variable {cache after : LineCache (List Text)} {buffer document : Buffer} {edit : Edit}
  {edits : List Edit} {index : Nat}

/-- On the path the grammar fails when the edit is looked at. -/
theorem reparseEdit_refusing (h : cache.Complete buffer)
    (hparts : edit.PartsAt buffer document index)
    (hstart : edit.range.start.line < buffer.lineCount)
    (hold : cache.Follower (buffer.pathTo document index) buffer)
    (hnew : cache.Follower (buffer.pathTo document index) document) :
    (cache.reparseEdit document edit).result ≠ .ok () := by
  intro hok
  have hsize := h.size_eq
  have hread : Reread cache (cache.reparseEdit document edit).state document _ _ :=
    (rereads_edit hold.grammar h.dense (by omega)).reread_of_ok hok
  -- down to the line where the texts part, what was read is the old text
  have hcurrent : (cache.reparseEdit document edit).state.CurrentBelow buffer index := by
    intro above habove
    by_cases hlt : above < edit.firstRead document
    · have hkept : (cache.reparseEdit document edit).state.CurrentBelow buffer
          (edit.firstRead document) :=
        (h.current.mono (by rw [Edit.firstRead]; omega)).congr hread.setup (fun _ _ => rfl)
          fun _ hindex => hread.outside _ (.inl hindex)
      exact hkept above hlt
    · have hinside := hread.inside above (by omega) (by have := hparts.lt; omega)
      exact hinside.congr (.refl _) (hparts.above.line_eq (by omega) habove).symm rfl rfl
  have hleft := (hold.congr hread.setup).stateBefore_eq hcurrent (Nat.le_refl index)
    (hparts.le_lineCount hstart)
  rw [Buffer.pathTo, foldl_leftBelow_append] at hleft
  exact ((hnew.congr hread.setup).stateBefore_succ
    (hread.inside index hparts.ge hparts.lt)).1 hleft

/-- For a batch that is not consistent there is a path that neither text starts with, and a grammar
that fails at its end fails on the batch. -/
theorem exists_refusing_path (hdescending : Edit.Descending edits)
    (hordered : ∀ edit ∈ edits, edit.range.start.line ≤ edit.range.stop.line)
    (hinside : ∀ edit ∈ edits, edit.range.stop.line < buffer.lineCount)
    (hinconsistent : ¬ Edit.BatchConsistent buffer document edits) :
    ∃ path, ¬ path <+: buffer.lines ∧ ¬ path <+: document.lines ∧
      ∀ cache : LineCache (List Text), cache.Complete buffer → cache.Follower path buffer →
        cache.Follower path document → (cache.applySorted document edits).result ≠ .ok () := by
  induction edits with
  | nil => exact absurd trivial hinconsistent
  | cons edit later ih =>
    obtain ⟨horder, hordered'⟩ := List.forall_mem_cons.mp hordered
    obtain ⟨hstop, hinside'⟩ := List.forall_mem_cons.mp hinside
    have hstart : edit.range.start.line < buffer.lineCount := by omega
    by_cases hedit : edit.Consistent buffer document
    · have hlater : edit.insertedBreaks = edit.removedBreaks ∧
          ¬ Edit.BatchConsistent buffer document later := by
        rw [Edit.BatchConsistent, not_and] at hinconsistent
        exact Classical.not_imp.mp (hinconsistent hedit)
      obtain ⟨path, hold, hnew, hfails⟩ := ih (List.pairwise_cons.mp hdescending).2 hordered'
        hinside' hlater.2
      refine ⟨path, hold, hnew, fun cache hcomplete hfollows hfollows' => ?_⟩
      -- the texts do not agree above this edit, or they would above the ones that follow
      have hagrees : buffer.AgreesOn document (edit.firstRead document) (edit.endRead document) :=
        hedit.resolve_left fun habove => hlater.2
          (batchConsistent_of_agreesOn habove (firstRead_le_of_descending hdescending))
      obtain ⟨after, heq, setup, hcomplete', hcontained⟩ :=
        hcomplete.reparseEdit_of_agreesOn hstart hstop hlater.1 hagrees
      rw [applySorted, heq, Outcome.ok_andThen, if_pos hcontained]
      exact hfails after hcomplete' (hfollows.congr setup) (hfollows'.congr setup)
    · obtain ⟨⟨index, hparts⟩, hdiffers⟩ := Edit.exists_partsAt hedit
      refine ⟨buffer.pathTo document index, hparts.not_prefix_old hstart,
        hparts.not_prefix_new hstart hdiffers, fun cache hcomplete hfollows hfollows' hok => ?_⟩
      rw [applySorted] at hok
      exact reparseEdit_refusing hcomplete hparts hstart hfollows hfollows'
        (Outcome.ok_of_andThen hok)

end LineCache

end ScopeTracker
