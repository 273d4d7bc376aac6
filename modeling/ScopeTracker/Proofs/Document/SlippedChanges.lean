import ScopeTracker.Proofs.Document.EditorChanges

/-!
# Changes that slip through

After a change that slips, the line below it keeps the tokens it had, though the line above it is
another one now. A grammar that remembers the line above tells the difference, so no such change
may come up in a history if the answers are to be right for every grammar.

Main statement: the answers of a document stay those of its text, whatever the grammar, exactly as
long as no change slips through (`answersFollow_iff`).
-/

namespace ScopeTracker

/-! ## A grammar that remembers the line above -/

/-- The tokens of a line: a single one, that tells whether the line above is `above`. -/
def recalled (above text : Text) (prior : Option Text) : LineTokens Text where
  tokens := [⟨0, text.byteLength, [if prior = some above then "recalled" else "unknown"]⟩]
  endState := text

/-- A grammar whose state is the whole line above. -/
def Grammar.recalling (above : Text) : Grammar Text where
  tokenizeLine text prior := .ok (recalled above text prior)

theorem Grammar.total_recalling (above : Text) : (Grammar.recalling above).Total :=
  fun text prior => ⟨recalled above text prior, rfl⟩

namespace LineCache

variable {cache : LineCache Text} {buffer : Buffer} {above : Text} {index : Nat}

/-- A line that is short enough is cached with what the grammar remembers. -/
theorem IsCurrent.line_recalling (h : cache.IsCurrent buffer index)
    (hgrammar : cache.grammar = some (.recalling above))
    (hshort : (buffer.line index).byteLength ≤ cache.maxLineLength) :
    cache.line? index =
      some (.tokenized (recalled above (buffer.line index) (cache.stateBefore index))) := by
  obtain ⟨grammar, line, hasked, hentry, hread⟩ := h
  obtain rfl : grammar = .recalling above := Option.some.inj (hasked.symm.trans hgrammar)
  rw [Grammar.readLine, if_neg (by omega)] at hread
  have hline : cache.line? index = some line := congrArg Prod.fst hentry
  rw [hline, ← Except.ok.inj hread]

/-- The state below a line is the line. -/
theorem IsCurrent.stateBefore_recalling (h : cache.IsCurrent buffer index)
    (hgrammar : cache.grammar = some (.recalling above))
    (hshort : (buffer.line index).byteLength ≤ cache.maxLineLength) :
    cache.stateBefore (index + 1) = some (buffer.line index) := by
  rw [stateBefore, h.line_recalling hgrammar hshort]
  rfl

/-- In a complete cache every line recalls the one above it. -/
theorem Complete.line_recalling (h : cache.Complete buffer)
    (hgrammar : cache.grammar = some (.recalling above)) (hindex : index + 1 < buffer.lineCount)
    (habove : (buffer.line index).byteLength ≤ cache.maxLineLength)
    (hshort : (buffer.line (index + 1)).byteLength ≤ cache.maxLineLength) :
    cache.line? (index + 1) = some
      (.tokenized (recalled above (buffer.line (index + 1)) (some (buffer.line index)))) := by
  have hstate := (h.current index (by omega)).stateBefore_recalling hgrammar habove
  have hline := (h.current (index + 1) hindex).line_recalling hgrammar hshort
  rwa [hstate] at hline

/-- The answer on a cached line tells whether the line above was recalled when it was read. -/
theorem scopes_scopeAt_recalled {text : Text} {prior : Option Text}
    (hgrammar : cache.grammar = some (.recalling above)) (hindex : index < buffer.lineCount)
    (hsnapshot : cache.snapshot? index = some (buffer.line index))
    (hline : cache.line? index = some (.tokenized (recalled above text prior))) :
    ∃ info, (cache.scopeAt buffer ⟨index, 0⟩).result = .ok info ∧
      info.scopes = [if prior = some above then "recalled" else "unknown"] := by
  have hlast := buffer.lastLine_add_one
  have hclamp : (buffer.clamp ⟨index, 0⟩).line = index := by
    rw [buffer.line_clamp]
    show min index buffer.lastLine = index
    omega
  refine ⟨cache.tokenAt buffer (buffer.clamp ⟨index, 0⟩), ?_, ?_⟩
  · rw [scopeAt_of_snapshot hgrammar (by rw [hclamp, hsnapshot])]
    rfl
  · simp [tokenAt, hclamp, hline, CachedLine.tokens, recalled, Token.covering?, TokenInfo.ofToken]

section Slipped

variable {edit : Edit} (hreversed : edit.range.stop.line < edit.range.start.line)
  (hbelow : edit.range.start.line + 1 < buffer.lineCount) (hbreaks : edit.insertedBreaks = 0)
include hreversed hbelow hbreaks

theorem line_below_slip : (buffer.applyEdit edit).line (edit.range.start.line + 1) =
    buffer.line (edit.range.start.line + 1) := by
  have hplace := Buffer.clampRange_of_reversed hreversed (show _ < buffer.lineCount by omega)
  apply Buffer.line_applyEdit_insertion_below hplace hbreaks
  rw [buffer.line_clamp]
  omega

/-- The line below a slip is not read again. It recalls the line above as that was. -/
theorem Complete.scopes_of_slip (h : cache.Complete buffer)
    (hgrammar : cache.grammar = some (.recalling (buffer.line edit.range.start.line)))
    (hok : (cache.applyChanges (buffer.applyEdit edit) [edit]).result = .ok ())
    (habove : (buffer.line edit.range.start.line).byteLength ≤ cache.maxLineLength)
    (hshort : (buffer.line (edit.range.start.line + 1)).byteLength ≤ cache.maxLineLength) :
    ∃ info, ((cache.applyChanges (buffer.applyEdit edit) [edit]).state.scopeAt
        (buffer.applyEdit edit) ⟨edit.range.start.line + 1, 0⟩).result = .ok info ∧
      info.scopes = ["recalled"] := by
  have hinside : edit.range.start.line < buffer.lineCount := by omega
  have hcount := lineCount_applyEdit_reversed hreversed hinside hbreaks
  have hread := h.applyChanges_reversed hreversed hinside hbreaks hok
  have hentry := hread.outside (edit.range.start.line + 1) (.inr (Nat.le_refl _))
  have hsame := line_below_slip hreversed hbelow hbreaks
  -- the entry is the one from before the edit, and its text is still that of the line
  have hkept := (h.current _ hbelow).snapshot
  have hline := h.line_recalling hgrammar hbelow habove hshort
  rw [← snapshot?_congr hentry, ← hsame] at hkept
  rw [← line?_congr hentry] at hline
  have hscopes := scopes_scopeAt_recalled (hread.setup.grammar ▸ hgrammar)
    (by rwa [hcount]) hkept hline
  simpa using hscopes

/-- A full reading of the same text recalls a line that is not there any more. -/
theorem Complete.scopes_after_slip (h : cache.Complete (buffer.applyEdit edit))
    (hgrammar : cache.grammar = some (.recalling (buffer.line edit.range.start.line)))
    (htext : edit.text ≠ [])
    (habove : ((buffer.applyEdit edit).line edit.range.start.line).byteLength ≤
      cache.maxLineLength)
    (hshort : (buffer.line (edit.range.start.line + 1)).byteLength ≤ cache.maxLineLength) :
    ∃ info, (cache.scopeAt (buffer.applyEdit edit) ⟨edit.range.start.line + 1, 0⟩).result =
        .ok info ∧ info.scopes = ["unknown"] := by
  have hinside : edit.range.start.line < buffer.lineCount := by omega
  have hlast := buffer.lastLine_add_one
  have hcount := lineCount_applyEdit_reversed hreversed hinside hbreaks
  have hplace := Buffer.clampRange_of_reversed hreversed hinside
  have hstart : (buffer.clamp edit.range.start).line = edit.range.start.line := by
    rw [buffer.line_clamp]
    omega
  have hchanged := Buffer.line_applyEdit_ne hplace hbreaks htext
  rw [hstart] at hchanged
  have hsame := line_below_slip hreversed hbelow hbreaks
  rw [← hcount] at hbelow
  have hline := h.line_recalling hgrammar hbelow habove (by rwa [hsame])
  have hscopes := scopes_scopeAt_recalled hgrammar hbelow (h.current _ hbelow).snapshot hline
  simpa [hchanged] using hscopes

end Slipped

end LineCache

/-! ## Histories -/

namespace Document

variable {document : Document Text} {buffer : Buffer} {edit : Edit} {maxLineLength : Nat}

/-- The line below a change that slips is answered as if the change had not been made. -/
theorem Whole.not_answersAsOpened (hbuffer : document.buffer = buffer)
    (h : Whole (.recalling (buffer.line edit.range.start.line)) maxLineLength document)
    (hreversed : edit.range.stop.line < edit.range.start.line)
    (hbelow : edit.range.start.line + 1 < buffer.lineCount)
    (hbreaks : edit.insertedBreaks = 0) (htext : edit.text ≠ [])
    (hok : (document.onEdits [edit]).result = .ok ())
    (hold : (buffer.line edit.range.start.line).byteLength ≤ maxLineLength)
    (hnew : ((buffer.applyEdit edit).line edit.range.start.line).byteLength ≤ maxLineLength)
    (hshort : (buffer.line (edit.range.start.line + 1)).byteLength ≤ maxLineLength)
    (languageId : String) (version : Int) :
    ¬ AnswersAsOpened (.recalling (buffer.line edit.range.start.line)) maxLineLength
      languageId version (document.onEdits [edit]).state := by
  subst hbuffer
  rintro ⟨hopened, hanswers⟩
  obtain ⟨info, hfollowed, hfresh⟩ := hanswers ⟨edit.range.start.line + 1, 0⟩
  have hwhole := whole_create hopened
  rw [onEdits_singleton] at hok hfollowed hfresh hwhole
  simp only [create, Buffer.ofText_text] at hfresh hwhole
  have hlimit : maxLineLength = document.cache.maxLineLength := h.setup.maxLineLength
  obtain ⟨stale, hstale, hrecalled⟩ := h.complete.scopes_of_slip hreversed hbelow hbreaks
    h.asks hok (by rwa [← hlimit]) (by rwa [← hlimit])
  have hlimit' : maxLineLength = _ := hwhole.setup.maxLineLength
  obtain ⟨fresh, hfresh', hunknown⟩ := hwhole.complete.scopes_after_slip hreversed hbelow
    hbreaks hwhole.asks htext (by rwa [← hlimit']) (by rwa [← hlimit'])
  -- the two answers would have to be one
  have hinfo : stale = info := Except.ok.inj (hstale.symm.trans hfollowed)
  have hinfo' : fresh = info := Except.ok.inj (hfresh'.symm.trans hfresh)
  rw [hinfo] at hrecalled
  rw [hinfo', hrecalled] at hunknown
  simp at hunknown

section Total

variable {σ : Type} [BEq σ] {grammar : Grammar σ} {document : Document σ}
  (htotal : grammar.Total) (hgrammar : document.cache.grammar = some grammar)
include htotal hgrammar

/-- A change fails only if the grammar does, and leaves the grammar as it is. -/
theorem applyContentChange_of_total (change : ContentChange) :
    (document.applyContentChange change.range change.text).result = .ok () ∧
      (document.applyContentChange change.range change.text).state.cache.grammar =
        some grammar := by
  obtain ⟨range, text⟩ := change
  cases range with
  | none =>
    have setup := LineCache.setup_refresh document.cache (.ofText text)
    exact ⟨LineCache.refresh_of_total hgrammar htotal _, setup.grammar ▸ hgrammar⟩
  | some range =>
    simp only [applyContentChange, onEdits_singleton]
    have setup := LineCache.setup_applyChanges document.cache
      (document.buffer.applyEdit ⟨document.buffer.rangeOfUtf16 range, text⟩)
      [⟨document.buffer.rangeOfUtf16 range, text⟩]
    refine ⟨?_, setup.grammar ▸ hgrammar⟩
    show (document.cache.applyChanges _ _).result = _
    rw [LineCache.applyChanges_of_descending hgrammar (List.pairwise_singleton _ _)]
    exact LineCache.applySorted_of_total hgrammar htotal document.dense _ _

theorem applyContentChanges_of_total (changes : List ContentChange) :
    (document.applyContentChanges changes).result = .ok () := by
  induction changes generalizing document with
  | nil => rfl
  | cons change later ih =>
    obtain ⟨hok, hasks⟩ := applyContentChange_of_total htotal hgrammar change
    rw [applyContentChanges, Outcome.andThen_of_ok hok]
    exact ih hasks

end Total

/-- Whatever the grammar, if a document with a text goes through changes of which none fails,
it answers after each of them as one does that is opened with the text it has then. -/
def AnswersFollow (text : Text) (changes : List ContentChange) : Prop :=
  ∀ (σ : Type) [BEq σ] [LawfulBEq σ] (grammar : Grammar σ) (maxLineLength : Nat)
    (languageId : String) (version : Int),
    let opened := create text languageId version (some grammar) maxLineLength
    opened.result = .ok () → (opened.state.applyContentChanges changes).result = .ok () →
      ∀ earlier later, changes = earlier ++ later →
        AnswersAsOpened grammar maxLineLength languageId version
          (opened.state.applyContentChanges earlier).state

/-- Where a change slips for the first time, the grammar that remembers the line it changes is
answered for wrongly. -/
theorem not_answersFollow_of_slips {text : Text} {earlier later : List ContentChange}
    {change : ContentChange}
    (hfirst : ∀ before change after, earlier = before ++ change :: after →
      ¬ (before.foldl Buffer.applyContentChange (.ofText text)).Slips change)
    (hslips : (earlier.foldl Buffer.applyContentChange (.ofText text)).Slips change) :
    ¬ AnswersFollow text (earlier ++ change :: later) := by
  intro hfollow
  obtain ⟨_, replacement⟩ := change
  obtain ⟨range, rfl, hreversed, habove, htext, hbreaks⟩ := hslips
  generalize hbefore : earlier.foldl Buffer.applyContentChange (.ofText text) = before
    at hreversed habove
  obtain ⟨hreversed', hstart⟩ := Buffer.rangeOfUtf16_reversed hreversed habove
  have hlast := before.lastLine_add_one
  -- the three lines that matter are all short enough to be tokenized
  let edit : Edit := ⟨before.rangeOfUtf16 range, replacement⟩
  let limit := (before.line edit.range.start.line).byteLength +
    ((before.applyEdit edit).line edit.range.start.line).byteLength +
    (before.line (edit.range.start.line + 1)).byteLength
  let grammar := Grammar.recalling (before.line edit.range.start.line)
  have htotal : grammar.Total := Grammar.total_recalling _
  have hopened : (create text "" 0 (some grammar) limit).result = .ok () :=
    LineCache.refresh_of_total rfl htotal _
  have hwhole := whole_create hopened
  have hrun := applyContentChanges_of_total htotal hwhole.asks
  have hdocument := hwhole.applyContentChanges hfirst (hrun earlier)
  have hbuffer := (buffer_applyContentChanges (hrun earlier)).trans hbefore
  have hanswers := hfollow Text grammar limit "" 0 hopened (hrun _)
    (earlier ++ [⟨some range, replacement⟩]) later (by simp)
  have hchanged := (applyContentChange_of_total htotal hdocument.asks
    ⟨some range, replacement⟩).1
  rw [applyContentChanges_append, Outcome.andThen_of_ok (hrun earlier),
    applyContentChanges_singleton] at hanswers
  simp only [applyContentChange, hbuffer] at hanswers hchanged
  refine hdocument.not_answersAsOpened hbuffer hreversed' ?_ hbreaks htext hchanged ?_ ?_ ?_ "" 0
    hanswers
  · rw [hstart]
    omega
  all_goals omega

/-- The answers follow a history of changes, whatever the grammar, exactly if no change in it
slips through. -/
theorem answersFollow_iff (text : Text) (changes : List ContentChange) :
    AnswersFollow text changes ↔
      ∀ earlier change later, changes = earlier ++ change :: later →
        ¬ (earlier.foldl Buffer.applyContentChange (.ofText text)).Slips change := by
  constructor
  · intro hfollow earlier
    -- among the changes that slip the first one comes upon a document that is tokenized as a whole
    induction hlength : earlier.length using Nat.strongRecOn generalizing earlier with
    | ind length ih =>
      rintro change later rfl hslips
      refine not_answersFollow_of_slips ?_ hslips hfollow
      intro before change' after hearlier
      refine ih before.length ?_ before rfl change' (after ++ change :: later) ?_
      · rw [← hlength, hearlier, List.length_append, List.length_cons]
        omega
      · rw [hearlier, List.append_assoc, List.cons_append]
  · intro hslips σ _ _ grammar maxLineLength languageId version opened hopened hok earlier later
      hsplit
    have hwhole := whole_create hopened
    rw [hsplit] at hok
    refine Whole.answersAsOpened (hwhole.applyContentChanges ?_
      (applyContentChanges_ok_of_append hok)) languageId version
    intro before change after hearlier
    refine hslips before change (after ++ later) ?_
    rw [hsplit, hearlier, List.append_assoc, List.cons_append]

end Document

end ScopeTracker
