import ScopeTracker.Proofs.Cache.Current
import ScopeTracker.Proofs.Text.Splice

/-!
# Reading lines again

What is left of a cache when lines `first` to `last - 1` are read again, one after the other:
the lines read are current, all others are cached as before. A failure of the grammar ends the
pass at the line it fails on.

Main statement: every range of lines is read this way after it was clamped to the document, and
no other fault comes up (`rereads_reparseRange`).
-/

namespace ScopeTracker

namespace LineCache

variable {σ : Type}

/-- The lines from `first` up to but without `last` were read again. -/
structure Reread (before after : LineCache σ) (buffer : Buffer) (first last : Nat) : Prop where
  setup : SameSetup before after
  dense : after.Dense
  size : after.size = max before.size last
  outside : ∀ index, index < first ∨ last ≤ index → after.entryAt index = before.entryAt index
  inside : ∀ index, first ≤ index → index < last → after.IsCurrent buffer index

/-- The outcome of reading the lines from `first` up to `last` again, or those up to a line that
the grammar fails on. -/
def Rereads (before : LineCache σ) (outcome : Outcome (LineCache σ) Unit) (buffer : Buffer)
    (first last : Nat) : Prop :=
  (outcome.result = .ok () ∧ Reread before outcome.state buffer first last) ∨
    ∃ failing error, first ≤ failing ∧ failing < last ∧
      outcome.result = .error (.grammar error) ∧
      Reread before outcome.state buffer first failing ∧
      outcome.state.FailsAt buffer failing error

variable {before after middle cache : LineCache σ} {buffer : Buffer} {first last index : Nat}
  {outcome : Outcome (LineCache σ) Unit}

/-! ## What a pass leaves behind -/

theorem Reread.refl (hdense : cache.Dense) (buffer : Buffer) (h : first ≤ cache.size) :
    Reread cache cache buffer first first where
  setup := .refl cache
  dense := hdense
  size := by omega
  outside := fun _ _ => rfl
  inside := fun _ _ _ => by omega

theorem Reread.trans {mid : Nat} (h : Reread before middle buffer first mid)
    (h' : Reread middle after buffer mid last) (hfirst : first ≤ mid) (hlast : mid ≤ last) :
    Reread before after buffer first last where
  setup := h.setup.trans h'.setup
  dense := h'.dense
  size := by
    rw [h'.size, h.size]
    omega
  outside := by
    intro index hindex
    rw [h'.outside index (by omega), h.outside index (by omega)]
  inside := by
    intro index hge hlt
    by_cases hmid : index < mid
    · refine (h.inside index hge hmid).congr h'.setup rfl (h'.outside index (.inl hmid)) ?_
      exact stateBefore_congr fun above habove => h'.outside above (.inl (by omega))
    · exact h'.inside index (by omega) hlt

/-- A pass that goes on from where another one ended is one pass together with it. -/
theorem Reread.rereads {mid : Nat} (h : Reread before middle buffer first mid)
    (h' : Rereads middle outcome buffer mid last) (hfirst : first ≤ mid) (hlast : mid ≤ last) :
    Rereads before outcome buffer first last := by
  rcases h' with ⟨hok, hread⟩ | ⟨failing, error, hge, hlt, herror, hread, hfails⟩
  · exact .inl ⟨hok, h.trans hread hfirst hlast⟩
  · exact .inr ⟨failing, error, by omega, hlt, herror, h.trans hread hfirst hge, hfails⟩

/-- Lines above the pass stay current, and those that it read become current. -/
theorem Reread.currentBelow (h : Reread before after buffer first last)
    (habove : before.CurrentBelow buffer first) : after.CurrentBelow buffer last := by
  have hkept : after.CurrentBelow buffer first :=
    habove.congr h.setup (fun _ _ => rfl) fun index hindex => h.outside index (.inl hindex)
  intro index hindex
  by_cases hlt : index < first
  · exact hkept index hlt
  · exact h.inside index (by omega) hindex

theorem Rereads.readsBelow (h : Rereads before outcome buffer first last)
    (habove : before.CurrentBelow buffer first) : ReadsBelow outcome buffer last := by
  rcases h with ⟨hok, hread⟩ | ⟨failing, error, _, hlt, herror, hread, hfails⟩
  · exact .inl ⟨hok, hread.currentBelow habove⟩
  · exact .inr ⟨failing, error, hlt, herror, hread.currentBelow habove, hfails⟩

theorem Rereads.setup (h : Rereads before outcome buffer first last) :
    SameSetup before outcome.state := by
  rcases h with ⟨_, hread⟩ | ⟨_, _, _, _, _, hread, _⟩
  · exact hread.setup
  · exact hread.setup

theorem Rereads.dense (h : Rereads before outcome buffer first last) : outcome.state.Dense := by
  rcases h with ⟨_, hread⟩ | ⟨_, _, _, _, _, hread, _⟩
  · exact hread.dense
  · exact hread.dense

/-- Whether it fails or not, a pass does not touch the lines above and below it. -/
theorem Rereads.outside (h : Rereads before outcome buffer first last)
    (hindex : index < first ∨ last ≤ index) :
    outcome.state.entryAt index = before.entryAt index := by
  rcases h with ⟨_, hread⟩ | ⟨_, _, _, _, _, hread, _⟩
  · exact hread.outside index hindex
  · exact hread.outside index (by omega)

theorem Rereads.reread_of_ok (h : Rereads before outcome buffer first last)
    (hok : outcome.result = .ok ()) : Reread before outcome.state buffer first last := by
  rcases h with ⟨_, hread⟩ | ⟨_, _, _, _, herror, _⟩
  · exact hread
  · rw [hok] at herror
    cases herror

/-- A pass that starts on a line that the grammar fails on gets no further. -/
theorem Rereads.error_of_failsAt (h : Rereads before outcome buffer first last)
    (hfirst : first < last) {error : GrammarError} (hfails : before.FailsAt buffer first error) :
    outcome.result = .error (.grammar error) := by
  have hstate : ∀ {count}, Reread before outcome.state buffer first count →
      outcome.state.stateBefore first = before.stateBefore first := fun hread =>
    stateBefore_congr fun above habove => hread.outside above (.inl (by omega))
  rcases h with ⟨_, hread⟩ | ⟨failing, other, hge, _, herror, hread, hfails'⟩
  · exact absurd (hread.inside first (Nat.le_refl _) hfirst)
      (hfails.not_isCurrent hread.setup (hstate hread))
  · rcases Nat.eq_or_lt_of_le hge with rfl | hgt
    · rw [herror, hfails.eq_of_failsAt hfails' hread.setup (hstate hread)]
    · exact absurd (hread.inside first (Nat.le_refl _) hgt)
        (hfails.not_isCurrent hread.setup (hstate hread))

/-! ## One line -/

private theorem getElem?_set_of_lt {α : Type} {xs : List α} (h : index < xs.length) (x : α)
    (i : Nat) : (xs.set index x)[i]? = if i = index then some x else xs[i]? := by
  rw [List.getElem?_set, if_pos h]
  simp only [eq_comm]

private theorem getElem?_push {α : Type} {xs : List α} (h : index = xs.length) (x : α) (i : Nat) :
    (xs ++ [x])[i]? = if i = index then some x else xs[i]? := by
  subst h
  rcases Nat.lt_trichotomy i xs.length with hi | rfl | hi
  · rw [List.getElem?_append_left hi, if_neg (by omega)]
  · simp
  · rw [if_neg (by omega), List.getElem?_eq_none (by simp; omega),
      List.getElem?_eq_none (by omega)]

/-- In a dense cache a line that is cached, or follows the cached ones, can be stored: both lists
are long enough to be written at its index. -/
theorem store_eq_ok (cache : LineCache σ) (hdense : cache.Dense) (h : index ≤ cache.size)
    (text : Text) (line : CachedLine σ) :
    ∃ after, cache.store index text line = .ok after () ∧ SameSetup cache after ∧ after.Dense ∧
      after.size = max cache.size (index + 1) ∧
      ∀ i, after.entryAt i = if i = index then (some line, some text) else cache.entryAt i := by
  have hlength : cache.lines.length = cache.snapshots.length := hdense
  simp only [size] at h ⊢
  unfold store
  by_cases hlt : index < cache.lines.length
  · have hlt' : index < cache.snapshots.length := hlength ▸ hlt
    refine ⟨{ cache with
      lines := cache.lines.set index line
      snapshots := cache.snapshots.set index text }, ?_, ⟨rfl, rfl⟩, ?_, ?_, fun i => ?_⟩
    · rw [if_pos hlt]
      exact if_pos hlt'
    · simpa only [Dense, List.length_set] using hlength
    · simp only [List.length_set]
      omega
    · simp only [entryAt, line?, snapshot?, getElem?_set_of_lt hlt, getElem?_set_of_lt hlt']
      split <;> rfl
  · -- the line right below the cached ones
    have hend : index = cache.lines.length := by omega
    refine ⟨{ cache with
      lines := cache.lines ++ [line]
      snapshots := cache.snapshots ++ [text] }, ?_, ⟨rfl, rfl⟩, ?_, ?_, fun i => ?_⟩
    · rw [if_neg hlt, if_pos hend]
    · simpa only [Dense, List.length_append, List.length_singleton, Nat.add_right_cancel_iff]
        using hlength
    · simp only [List.length_append, List.length_singleton]
      omega
    · simp only [entryAt, line?, snapshot?, getElem?_push hend,
        getElem?_push (hend.trans hlength)]
      split <;> rfl

/-- A cached line without a text cannot be stored anew. -/
example :
    let cache : LineCache Bool := { untokenized none 20 with lines := [.skipped] }
    (cache.store 0 ['a'] .skipped).result = .error (.indexOutOfBounds 0 0) := by
  decide

/-- A line is stored with its text, or as it was. -/
theorem Dense.entryAt_store (h : cache.Dense) (index : Nat) (text : Text) (line : CachedLine σ)
    (i : Nat) :
    (cache.store index text line).state.entryAt i = cache.entryAt i ∨
      (cache.store index text line).state.entryAt i = (some line, some text) := by
  by_cases hindex : index ≤ cache.size
  · obtain ⟨after, hstore, _, _, _, hstored⟩ := cache.store_eq_ok h hindex text line
    rw [hstore]
    show after.entryAt i = _ ∨ after.entryAt i = _
    rw [hstored]
    split
    · exact .inr rfl
    · exact .inl rfl
  · have hbelow : cache.lines.length < index := Nat.lt_of_not_le hindex
    rw [LineCache.store, if_neg (by omega), if_neg (by omega)]
    exact .inl rfl

/-- Storing what a line reads as makes the line current. -/
private theorem reread_of_store {line : CachedLine σ} {grammar : Grammar σ}
    (hgrammar : cache.grammar = some grammar)
    (hread : grammar.readLine cache.maxLineLength (buffer.line index) (cache.stateBefore index) =
      .ok line)
    (setup : SameSetup cache after) (hdense : after.Dense)
    (hsize : after.size = max cache.size (index + 1))
    (hstored : ∀ i, after.entryAt i =
      if i = index then (some line, some (buffer.line index)) else cache.entryAt i) :
    Reread cache after buffer index (index + 1) where
  setup := setup
  dense := hdense
  size := hsize
  outside := by
    intro i hi
    rw [hstored i, if_neg (by omega)]
  inside := by
    intro i hge hlt
    obtain rfl : i = index := by omega
    refine ⟨grammar, line, setup.grammar ▸ hgrammar, by rw [hstored i, if_pos rfl], ?_⟩
    have hstate : after.stateBefore i = cache.stateBefore i :=
      stateBefore_congr fun above habove => by rw [hstored above, if_neg (by omega)]
    rw [← setup.maxLineLength, hstate, hread]

theorem ReadsLine.rereads {grammar : Grammar σ} (hgrammar : cache.grammar = some grammar)
    (hdense : cache.Dense) (h : index ≤ cache.size) {outcome : Outcome (LineCache σ) Unit}
    (hread : ReadsLine cache buffer index outcome) :
    Rereads cache outcome buffer index (index + 1) := by
  cases hread with
  | without hnone =>
    rw [hnone] at hgrammar
    cases hgrammar
  | skipped _ hlong =>
    obtain ⟨after, hstore, setup, hdense', hsize, hstored⟩ :=
      cache.store_eq_ok hdense h (buffer.line index) .skipped
    rw [hstore]
    refine .inl ⟨rfl, reread_of_store hgrammar ?_ setup hdense' hsize hstored⟩
    rw [Grammar.readLine, if_pos hlong]
  | @failed asked error hasked hshort hanswer =>
    refine .inr ⟨index, error, Nat.le_refl _, Nat.lt_succ_self _, rfl, ?_, asked, hasked, ?_⟩
    · exact ⟨⟨rfl, rfl⟩, hdense, (Nat.max_eq_left h).symm, fun _ _ => rfl,
        fun _ _ _ => by omega⟩
    · show asked.readLine cache.maxLineLength _ (cache.stateBefore index) = _
      rw [Grammar.readLine, if_neg (Nat.not_lt.mpr hshort), hanswer]
      rfl
  | @tokenized asked line hasked hshort hanswer =>
    obtain ⟨after, hstore, setup, hdense', hsize, hstored⟩ :=
      (cache.called asked ⟨buffer.line index, cache.stateBefore index⟩).store_eq_ok hdense h
        (buffer.line index) (.tokenized line)
    rw [hstore]
    refine .inl ⟨rfl, reread_of_store hasked ?_ ⟨setup.1, setup.2⟩ hdense' hsize hstored⟩
    rw [Grammar.readLine, if_neg (Nat.not_lt.mpr hshort), hanswer]
    rfl

theorem rereads_reparseLine {grammar : Grammar σ} (hgrammar : cache.grammar = some grammar)
    (hdense : cache.Dense) (buffer : Buffer) (h : index ≤ cache.size) :
    Rereads cache (cache.reparseLine buffer index) buffer index (index + 1) :=
  (cache.readsLine buffer index).rereads hgrammar hdense h

/-! ## Many lines -/

theorem rereads_reparseLines {grammar : Grammar σ} (hgrammar : cache.grammar = some grammar)
    (hdense : cache.Dense) (buffer : Buffer) (h : first ≤ cache.size) (count : Nat) :
    Rereads cache (cache.reparseLines buffer first count) buffer first (first + count) := by
  induction count generalizing cache first with
  | zero => exact .inl ⟨rfl, .refl hdense buffer h⟩
  | succ count ih =>
    -- after the first line the cache reaches the second, so the pass can go on from there
    rw [reparseLines]
    rcases rereads_reparseLine hgrammar hdense buffer h with
      ⟨hok, hread⟩ | ⟨failing, error, hge, hlt, herror, hread, hfails⟩
    · rw [Outcome.andThen_of_ok hok]
      have hsize := hread.size
      have hnext : first + 1 ≤ (cache.reparseLine buffer first).state.size := by omega
      have hrest := ih (hread.setup.grammar ▸ hgrammar) hread.dense hnext
      rw [show first + 1 + count = first + (count + 1) from by omega] at hrest
      exact hread.rereads hrest (by omega) (by omega)
    · rw [Outcome.andThen_of_error herror]
      exact .inr ⟨failing, error, hge, by omega, rfl, hread, hfails⟩

/-- A range is clamped first. If it starts below the cached lines, those between are read too. -/
theorem rereads_reparseRange {grammar : Grammar σ} (hgrammar : cache.grammar = some grammar)
    (hdense : cache.Dense) (buffer : Buffer) (range : Range) :
    Rereads cache (cache.reparseRange buffer range) buffer
      (min (buffer.clampRange range).start.line cache.size)
      ((buffer.clampRange range).stop.line + 1) := by
  have hstart := buffer.line_start_clampRange range
  have hstop := buffer.line_stop_clampRange range
  unfold reparseRange
  rw [if_neg (by simp [hgrammar])]
  dsimp only
  have hread := rereads_reparseLines hgrammar hdense buffer
    (Nat.min_le_right (buffer.clampRange range).start.line cache.size)
    ((buffer.clampRange range).stop.line + 1 -
      min (buffer.clampRange range).start.line cache.size)
  rwa [show min (buffer.clampRange range).start.line cache.size +
    ((buffer.clampRange range).stop.line + 1 -
      min (buffer.clampRange range).start.line cache.size) =
    (buffer.clampRange range).stop.line + 1 from by omega] at hread

/-- The pass that reading a range of whole lines makes. -/
theorem reparseRange_lines {grammar : Grammar σ} (hgrammar : cache.grammar = some grammar)
    (buffer : Buffer) (h : first ≤ last) :
    cache.reparseRange buffer (.lines first last) =
      cache.reparseLines buffer (min (min first buffer.lastLine) cache.size)
        (min last buffer.lastLine + 1 - min (min first buffer.lastLine) cache.size) := by
  have hstart := buffer.line_start_clampRange (.lines first last)
  have hstop := buffer.line_stop_clampRange (.lines first last)
  simp only [Range.lines] at hstart hstop
  rw [reparseRange, if_neg (by simp [hgrammar])]
  simp only [Range.lines, hstart, hstop]
  rw [Nat.max_eq_left (by omega)]

theorem rereads_lines {grammar : Grammar σ} (hgrammar : cache.grammar = some grammar)
    (hdense : cache.Dense) (buffer : Buffer) (h : first ≤ last) :
    Rereads cache (cache.reparseRange buffer (.lines first last)) buffer
      (min (min first buffer.lastLine) cache.size) (min last buffer.lastLine + 1) := by
  have hread := rereads_reparseLines hgrammar hdense buffer
    (Nat.min_le_right (min first buffer.lastLine) cache.size)
    (min last buffer.lastLine + 1 - min (min first buffer.lastLine) cache.size)
  rwa [← reparseRange_lines hgrammar buffer h,
    show min (min first buffer.lastLine) cache.size +
      (min last buffer.lastLine + 1 - min (min first buffer.lastLine) cache.size) =
      min last buffer.lastLine + 1 from by omega] at hread

/-- Without a grammar nothing is read. -/
theorem reparseRange_of_none (hgrammar : cache.grammar = none) (buffer : Buffer) (range : Range) :
    cache.reparseRange buffer range = .ok cache () := by
  rw [reparseRange, if_pos (by simp [hgrammar])]

/-! ## Whole documents -/

theorem rereads_refresh {grammar : Grammar σ} (hgrammar : cache.grammar = some grammar)
    (buffer : Buffer) :
    Rereads cache.clear (cache.refresh buffer) buffer 0 buffer.lineCount := by
  have hasks : cache.clear.grammar = some grammar := hgrammar
  have hread := rereads_lines hasks cache.dense_clear buffer (Nat.zero_le buffer.lastLine)
  have hlast := buffer.lastLine_add_one
  rw [show min (min 0 buffer.lastLine) cache.clear.size = 0 from by omega,
    show min buffer.lastLine buffer.lastLine + 1 = buffer.lineCount from by omega] at hread
  exact hread

theorem refresh_of_none (hgrammar : cache.grammar = none) (buffer : Buffer) :
    cache.refresh buffer = .ok cache.clear () := by
  have hasks : cache.clear.grammar = none := hgrammar
  rw [refresh, reparseRange_of_none hasks]

/-- Whatever the cache held before, a refresh reads the whole document from its first line on. -/
theorem readsBelow_refresh {grammar : Grammar σ} (hgrammar : cache.grammar = some grammar)
    (buffer : Buffer) : ReadsBelow (cache.refresh buffer) buffer buffer.lineCount :=
  (rereads_refresh hgrammar buffer).readsBelow fun _ h => by omega

theorem setup_refresh (cache : LineCache σ) (buffer : Buffer) :
    SameSetup cache (cache.refresh buffer).state :=
  (kept_setup cache).refresh (.refl cache) buffer

theorem setup_build (buffer : Buffer) (grammar : Option (Grammar σ)) (maxLineLength : Nat) :
    SameSetup (.untokenized grammar maxLineLength) (build buffer grammar maxLineLength).state :=
  setup_refresh _ buffer

/-- Another document is read with the setup of a cache. -/
theorem sameSetup_build (cache : LineCache σ) (buffer : Buffer) :
    SameSetup cache (build buffer cache.grammar cache.maxLineLength).state := by
  have hempty : SameSetup cache (untokenized cache.grammar cache.maxLineLength) := ⟨rfl, rfl⟩
  exact hempty.trans (setup_build buffer cache.grammar cache.maxLineLength)

/-- A refresh that succeeds leaves a complete cache. -/
theorem complete_refresh {grammar : Grammar σ} (hgrammar : cache.grammar = some grammar)
    (hok : (cache.refresh buffer).result = .ok ()) :
    (cache.refresh buffer).state.Complete buffer := by
  have hread := (rereads_refresh hgrammar buffer).reread_of_ok hok
  refine ⟨hread.dense, ?_, hread.currentBelow fun _ h => by omega⟩
  rw [hread.size]
  exact Nat.max_eq_right (Nat.zero_le _)

/-- A refresh that fails leaves exactly the lines above the one that the grammar fails on. -/
theorem refresh_of_error {grammar : Grammar σ} (hgrammar : cache.grammar = some grammar)
    {fault : Fault} (herror : (cache.refresh buffer).result = .error fault) :
    ∃ failing error, failing < buffer.lineCount ∧ fault = .grammar error ∧
      (cache.refresh buffer).state.size = failing ∧
      (cache.refresh buffer).state.CurrentBelow buffer failing ∧
      (cache.refresh buffer).state.FailsAt buffer failing error := by
  rcases rereads_refresh hgrammar buffer with
    ⟨hok, _⟩ | ⟨failing, error, _, hlt, herror', hread, hfails⟩
  · rw [hok] at herror
    cases herror
  · rw [herror'] at herror
    refine ⟨failing, error, hlt, (Except.error.inj herror).symm, ?_, ?_, hfails⟩
    · rw [hread.size]
      exact Nat.max_eq_right (Nat.zero_le _)
    · exact hread.currentBelow fun _ h => by omega

/-- A refresh leaves a correct prefix of the document, also when the grammar fails. -/
theorem correctPrefix_refresh (cache : LineCache σ) (buffer : Buffer) :
    (cache.refresh buffer).state.CorrectPrefix buffer := by
  have hdense := cache.dense_refresh buffer
  cases hgrammar : cache.grammar with
  | none =>
    rw [refresh_of_none hgrammar] at hdense ⊢
    exact ⟨hdense, Nat.zero_le _, fun _ h => absurd h (Nat.not_lt_zero _)⟩
  | some grammar =>
    cases hresult : (cache.refresh buffer).result with
    | ok _ => exact (complete_refresh hgrammar hresult).correctPrefix
    | error fault =>
      obtain ⟨failing, _, hlt, _, hsize, hcurrent, _⟩ := refresh_of_error hgrammar hresult
      exact ⟨hdense, by omega, hsize ▸ hcurrent⟩

/-- Only a cache with a grammar can be complete, since every document has a line. -/
theorem Complete.exists_grammar (h : cache.Complete buffer) :
    ∃ grammar, cache.grammar = some grammar := by
  obtain ⟨grammar, _, hgrammar, _⟩ := h.current 0 buffer.lineCount_pos
  exact ⟨grammar, hgrammar⟩

/-- A complete cache is what a full reading of the document gives. -/
theorem Complete.build_eq (h : cache.Complete buffer) :
    let fresh := build buffer cache.grammar cache.maxLineLength
    fresh.result = .ok () ∧ fresh.state.lines = cache.lines ∧
      fresh.state.snapshots = cache.snapshots := by
  intro fresh
  obtain ⟨grammar, hgrammar⟩ := h.exists_grammar
  have setup := cache.sameSetup_build buffer
  have hreads : ReadsBelow (Outcome.ok cache ()) buffer buffer.lineCount := .inl ⟨rfl, h.current⟩
  have hasks : (untokenized cache.grammar cache.maxLineLength).grammar = some grammar := hgrammar
  have hok := hreads.result_eq (readsBelow_refresh hasks buffer) setup
  exact ⟨hok.symm, h.lists_eq (complete_refresh hgrammar hok.symm) setup⟩

end LineCache

end ScopeTracker
