import ScopeTracker.Cache.Dense

/-!
# Current lines

What it means that a cache is right about a document. A line is current if its entry is what
reading it gives: reading takes the text of the line and the grammar's state at the end of the
line above, and either passes over a line that is too long or asks the grammar.

Main statements: a reading is determined line by line, so two caches whose first lines are current
agree on them (`CurrentBelow.entryAt_eq`), and two operations that read the first lines of a
document end alike, with the same fault if there is one (`ReadsBelow.result_eq`).
-/

namespace ScopeTracker

variable {σ : Type}

/-- What a line is cached as. A line with too many bytes is skipped, the grammar is asked about
every other one. -/
def Grammar.readLine (grammar : Grammar σ) (maxLineLength : Nat) (text : Text)
    (prior : Option σ) : Except GrammarError (CachedLine σ) :=
  if maxLineLength < text.byteLength then .ok .skipped
  else (grammar.tokenizeLine text prior).map .tokenized

namespace LineCache

/-- Line `index` is cached with the text it has in the buffer, and as what this text reads as
after the line above. -/
def IsCurrent (cache : LineCache σ) (buffer : Buffer) (index : Nat) : Prop :=
  ∃ grammar line, cache.grammar = some grammar ∧
    cache.entryAt index = (some line, some (buffer.line index)) ∧
    grammar.readLine cache.maxLineLength (buffer.line index) (cache.stateBefore index) = .ok line

/-- The grammar fails on line `index` after what is cached for the line above. -/
def FailsAt (cache : LineCache σ) (buffer : Buffer) (index : Nat) (error : GrammarError) : Prop :=
  ∃ grammar, cache.grammar = some grammar ∧
    grammar.readLine cache.maxLineLength (buffer.line index) (cache.stateBefore index) =
      .error error

/-- The first `count` lines are current. -/
def CurrentBelow (cache : LineCache σ) (buffer : Buffer) (count : Nat) : Prop :=
  ∀ index < count, cache.IsCurrent buffer index

/-- The cached lines are lines of the document, and all of them are current. -/
structure CorrectPrefix (cache : LineCache σ) (buffer : Buffer) : Prop where
  dense : cache.Dense
  size_le : cache.size ≤ buffer.lineCount
  current : cache.CurrentBelow buffer cache.size

/-- Every line of the document is cached and current, and nothing else is cached. -/
structure Complete (cache : LineCache σ) (buffer : Buffer) : Prop where
  dense : cache.Dense
  size_eq : cache.size = buffer.lineCount
  current : cache.CurrentBelow buffer buffer.lineCount

/-- Two caches that ask the same grammar about the same lines. -/
structure SameSetup (a b : LineCache σ) : Prop where
  grammar : a.grammar = b.grammar
  maxLineLength : a.maxLineLength = b.maxLineLength

variable {a b c cache : LineCache σ} {buffer : Buffer} {count index : Nat}

theorem SameSetup.refl (a : LineCache σ) : SameSetup a a := ⟨rfl, rfl⟩

theorem SameSetup.symm (h : SameSetup a b) : SameSetup b a :=
  ⟨h.grammar.symm, h.maxLineLength.symm⟩

theorem SameSetup.trans (h : SameSetup a b) (h' : SameSetup b c) : SameSetup a c :=
  ⟨h.grammar.trans h'.grammar, h.maxLineLength.trans h'.maxLineLength⟩

/-- Storing a line changes nothing but the two lists. -/
theorem state_store (cache : LineCache σ) (index : Nat) (text : Text) (line : CachedLine σ) :
    ∃ lines snapshots,
      (cache.store index text line).state = { cache with lines, snapshots } := by
  unfold store
  split
  · dsimp only
    split
    · exact ⟨_, _, rfl⟩
    · exact ⟨_, cache.snapshots, rfl⟩
  · split
    · exact ⟨_, _, rfl⟩
    · exact ⟨_, _, rfl⟩

theorem SameSetup.store (h : SameSetup a b) (index : Nat) (text : Text) (line : CachedLine σ) :
    SameSetup a (b.store index text line).state := by
  obtain ⟨lines, snapshots, hstate⟩ := b.state_store index text line
  rw [hstate]
  exact ⟨h.grammar, h.maxLineLength⟩

theorem SameSetup.readsLine (h : SameSetup a b) {outcome : Outcome (LineCache σ) Unit}
    (hread : ReadsLine b buffer index outcome) : SameSetup a outcome.state := by
  cases hread with
  | without => exact h
  | skipped => exact h.store index _ _
  | failed => exact ⟨h.grammar, h.maxLineLength⟩
  | tokenized =>
    refine SameSetup.store ?_ index _ _
    exact ⟨h.grammar, h.maxLineLength⟩

/-- No operation gives a cache another grammar or another limit. -/
theorem kept_setup (a : LineCache σ) : Kept (SameSetup a) where
  reparseLine := fun b buffer index h => h.readsLine (b.readsLine buffer index)
  truncate := fun _ _ h => ⟨h.grammar, h.maxLineLength⟩

theorem Complete.correctPrefix (h : cache.Complete buffer) : cache.CorrectPrefix buffer :=
  ⟨h.dense, Nat.le_of_eq h.size_eq, h.size_eq ▸ h.current⟩

theorem CorrectPrefix.complete (h : cache.CorrectPrefix buffer)
    (hsize : cache.size = buffer.lineCount) : cache.Complete buffer :=
  ⟨h.dense, hsize, hsize ▸ h.current⟩

theorem CurrentBelow.mono (h : cache.CurrentBelow buffer count) {fewer : Nat}
    (hle : fewer ≤ count) : cache.CurrentBelow buffer fewer :=
  fun index hindex => h index (Nat.lt_of_lt_of_le hindex hle)

/-- A current line is cached with its text. -/
theorem IsCurrent.snapshot (h : cache.IsCurrent buffer index) :
    cache.snapshot? index = some (buffer.line index) := by
  obtain ⟨_, _, _, hentry, _⟩ := h
  exact congrArg Prod.snd hentry

theorem IsCurrent.lt_size (h : cache.IsCurrent buffer index) : index < cache.size := by
  obtain ⟨_, _, _, hentry, _⟩ := h
  exact (List.getElem?_eq_some_iff.mp (congrArg Prod.fst hentry)).1

theorem CurrentBelow.le_size (h : cache.CurrentBelow buffer count) : count ≤ cache.size := by
  cases count with
  | zero => exact Nat.zero_le _
  | succ count => exact (h count (Nat.lt_succ_self count)).lt_size

/-! ## What a reading depends on -/

theorem line?_congr (h : a.entryAt index = b.entryAt index) : a.line? index = b.line? index :=
  congrArg Prod.fst h

theorem snapshot?_congr (h : a.entryAt index = b.entryAt index) :
    a.snapshot? index = b.snapshot? index :=
  congrArg Prod.snd h

theorem stateBefore_congr (h : ∀ above, above + 1 = index → a.entryAt above = b.entryAt above) :
    a.stateBefore index = b.stateBefore index := by
  cases index with
  | zero => rfl
  | succ above => simp only [stateBefore, line?_congr (h above rfl)]

theorem IsCurrent.congr (h : a.IsCurrent buffer index) (setup : SameSetup a b) {buffer' : Buffer}
    (hline : buffer'.line index = buffer.line index)
    (hentry : b.entryAt index = a.entryAt index)
    (hstate : b.stateBefore index = a.stateBefore index) : b.IsCurrent buffer' index := by
  obtain ⟨grammar, line, hgrammar, ha, hread⟩ := h
  refine ⟨grammar, line, setup.grammar ▸ hgrammar, ?_, ?_⟩
  · rw [hentry, hline, ha]
  · rw [← setup.maxLineLength, hline, hstate, hread]

/-- Lines stay current if no entry at or above them and no text of theirs changes. -/
theorem CurrentBelow.congr (h : a.CurrentBelow buffer count) (setup : SameSetup a b)
    {buffer' : Buffer} (hline : ∀ index < count, buffer'.line index = buffer.line index)
    (hentry : ∀ index < count, b.entryAt index = a.entryAt index) :
    b.CurrentBelow buffer' count := by
  intro index hindex
  refine (h index hindex).congr setup (hline index hindex) (hentry index hindex) ?_
  exact stateBefore_congr fun above habove => hentry above (by omega)

theorem FailsAt.congr {error : GrammarError} (h : a.FailsAt buffer index error)
    (setup : SameSetup a b) (hstate : b.stateBefore index = a.stateBefore index) :
    b.FailsAt buffer index error := by
  obtain ⟨grammar, hgrammar, hread⟩ := h
  exact ⟨grammar, setup.grammar ▸ hgrammar, by rw [← setup.maxLineLength, hstate, hread]⟩

/-- A line that the grammar fails on is not current, and the fault is the only one. -/
theorem FailsAt.eq_of_failsAt {error other : GrammarError} (h : a.FailsAt buffer index error)
    (h' : b.FailsAt buffer index other) (setup : SameSetup a b)
    (hstate : b.stateBefore index = a.stateBefore index) : error = other := by
  obtain ⟨grammar, hgrammar, hread⟩ := h.congr setup hstate
  obtain ⟨grammar', hgrammar', hread'⟩ := h'
  obtain rfl : grammar = grammar' := Option.some.inj (hgrammar.symm.trans hgrammar')
  exact Except.error.inj (hread.symm.trans hread')

theorem FailsAt.not_isCurrent {error : GrammarError} (h : a.FailsAt buffer index error)
    (setup : SameSetup a b) (hstate : b.stateBefore index = a.stateBefore index) :
    ¬ b.IsCurrent buffer index := by
  rintro ⟨grammar', line, hgrammar', _, hread'⟩
  obtain ⟨grammar, hgrammar, hread⟩ := h.congr setup hstate
  obtain rfl : grammar = grammar' := Option.some.inj (hgrammar.symm.trans hgrammar')
  rw [hread] at hread'
  cases hread'

/-- Current lines with the same state before them are cached alike. -/
theorem IsCurrent.entryAt_eq (ha : a.IsCurrent buffer index) (hb : b.IsCurrent buffer index)
    (setup : SameSetup a b) (hstate : b.stateBefore index = a.stateBefore index) :
    b.entryAt index = a.entryAt index := by
  obtain ⟨grammar, line, hgrammar, hentry, hread⟩ := ha
  obtain ⟨grammar', line', hgrammar', hentry', hread'⟩ := hb
  obtain rfl : grammar = grammar' :=
    Option.some.inj (hgrammar.symm.trans (setup.grammar.trans hgrammar'))
  rw [← setup.maxLineLength, hstate, hread] at hread'
  rw [hentry, hentry', Except.ok.inj hread']

/-! ## Readings are determined -/

/-- Caches whose first lines are current agree on these lines. -/
theorem CurrentBelow.entryAt_eq (ha : a.CurrentBelow buffer count)
    (hb : b.CurrentBelow buffer count) (setup : SameSetup a b) :
    ∀ index < count, b.entryAt index = a.entryAt index := by
  intro index
  induction index with
  | zero =>
    intro h
    exact (ha 0 h).entryAt_eq (hb 0 h) setup rfl
  | succ above ih =>
    intro h
    -- the line above is cached alike, so this one was read from the same state
    refine (ha _ h).entryAt_eq (hb _ h) setup (stateBefore_congr fun i hi => ?_)
    obtain rfl : i = above := by omega
    exact ih (by omega)

theorem CurrentBelow.stateBefore_eq (ha : a.CurrentBelow buffer count)
    (hb : b.CurrentBelow buffer count) (setup : SameSetup a b) (h : index ≤ count) :
    b.stateBefore index = a.stateBefore index :=
  stateBefore_congr fun above habove => ha.entryAt_eq hb setup above (by omega)

/-- Dense caches that hold the same number of lines, and the same for each of them, are alike. -/
theorem Dense.lists_eq (ha : a.Dense) (hb : b.Dense) (hsize : a.size = b.size)
    (hentry : ∀ index < a.size, a.entryAt index = b.entryAt index) :
    a.lines = b.lines ∧ a.snapshots = b.snapshots := by
  have hlength : a.lines.length = a.snapshots.length := ha
  have hlength' : b.lines.length = b.snapshots.length := hb
  simp only [size] at hsize hentry
  refine ⟨List.ext_getElem? fun index => ?_, List.ext_getElem? fun index => ?_⟩
  · by_cases hindex : index < a.lines.length
    · exact line?_congr (hentry index hindex)
    · rw [List.getElem?_eq_none (by omega), List.getElem?_eq_none (by omega)]
  · by_cases hindex : index < a.lines.length
    · exact snapshot?_congr (hentry index hindex)
    · rw [List.getElem?_eq_none (by omega), List.getElem?_eq_none (by omega)]

/-- Caches of a whole document are alike. -/
theorem Complete.lists_eq (ha : a.Complete buffer) (hb : b.Complete buffer)
    (setup : SameSetup a b) : b.lines = a.lines ∧ b.snapshots = a.snapshots :=
  hb.dense.lists_eq ha.dense (hb.size_eq.trans ha.size_eq.symm) fun index hindex =>
    ha.current.entryAt_eq hb.current setup index (hb.size_eq ▸ hindex)

/-- Cutting a cache off leaves the lines above the cut as they are. -/
theorem entryAt_truncate (cache : LineCache σ) (h : index < count) :
    (cache.truncate count).entryAt index = cache.entryAt index :=
  Prod.ext (List.getElem?_take_of_lt h) (List.getElem?_take_of_lt h)

theorem size_truncate (cache : LineCache σ) (count : Nat) :
    (cache.truncate count).size = min count cache.size :=
  List.length_take

/-- The first lines of a cache that is right about them are those of any cache that holds nothing
else. -/
theorem CurrentBelow.truncate_eq (ha : a.CurrentBelow buffer count) (hdense : a.Dense)
    (hb : b.CurrentBelow buffer count) (hdense' : b.Dense) (setup : SameSetup a b)
    (hsize : b.size = count) :
    a.lines.take count = b.lines ∧ a.snapshots.take count = b.snapshots := by
  have hcut : (a.truncate count).size = count :=
    (a.size_truncate count).trans (Nat.min_eq_left ha.le_size)
  refine (hdense.truncate count).lists_eq hdense' (hcut.trans hsize.symm) fun index hindex => ?_
  have hindex : index < count := hcut ▸ hindex
  rw [a.entryAt_truncate hindex, ha.entryAt_eq hb setup index hindex]

/-- An operation that reads the first `count` lines: they are all current in the end, or the lines
above the first one that the grammar fails on are, and the fault is that of the grammar. -/
def ReadsBelow (outcome : Outcome (LineCache σ) Unit) (buffer : Buffer) (count : Nat) : Prop :=
  (outcome.result = .ok () ∧ outcome.state.CurrentBelow buffer count) ∨
    ∃ failing error, failing < count ∧ outcome.result = .error (.grammar error) ∧
      outcome.state.CurrentBelow buffer failing ∧ outcome.state.FailsAt buffer failing error

variable {first second : Outcome (LineCache σ) Unit}

/-- Below a line that the grammar fails on no cache is right. -/
theorem CurrentBelow.not_currentBelow {error : GrammarError} {failing : Nat}
    (ha : a.CurrentBelow buffer failing) (hfails : a.FailsAt buffer failing error)
    (setup : SameSetup a b) (h : failing < count) : ¬ b.CurrentBelow buffer count := by
  intro hb
  have hstate := ha.stateBefore_eq (hb.mono (Nat.le_of_lt h)) setup (Nat.le_refl failing)
  exact hfails.not_isCurrent setup hstate (hb failing h)

/-- The first line that the grammar fails on is the same for all. -/
theorem CurrentBelow.failing_eq {error other : GrammarError} {failing failing' : Nat}
    (ha : a.CurrentBelow buffer failing) (hfails : a.FailsAt buffer failing error)
    (hb : b.CurrentBelow buffer failing') (hfails' : b.FailsAt buffer failing' other)
    (setup : SameSetup a b) : failing = failing' ∧ error = other := by
  rcases Nat.lt_trichotomy failing failing' with h | rfl | h
  · exact absurd hb (ha.not_currentBelow hfails setup h)
  · have hstate := ha.stateBefore_eq hb setup (Nat.le_refl failing)
    exact ⟨rfl, hfails.eq_of_failsAt hfails' setup hstate⟩
  · exact absurd ha (hb.not_currentBelow hfails' setup.symm h)

/-- Two operations that read the same lines end alike. -/
theorem ReadsBelow.result_eq (hfirst : ReadsBelow first buffer count)
    (hsecond : ReadsBelow second buffer count) (setup : SameSetup first.state second.state) :
    first.result = second.result := by
  -- if one of them fails on a line, the other cannot have read it
  rcases hfirst with ⟨hok, hcurrent⟩ | ⟨failing, error, hlt, herror, hcurrent, hfails⟩
  · rcases hsecond with ⟨hok', _⟩ | ⟨failing', _, hlt', _, hcurrent', hfails'⟩
    · rw [hok, hok']
    · exact absurd hcurrent (hcurrent'.not_currentBelow hfails' setup.symm hlt')
  · rcases hsecond with ⟨_, hcurrent'⟩ | ⟨failing', error', _, herror', hcurrent', hfails'⟩
    · exact absurd hcurrent' (hcurrent.not_currentBelow hfails setup hlt)
    · rw [herror, herror', (hcurrent.failing_eq hfails hcurrent' hfails' setup).2]

theorem ReadsBelow.currentBelow_of_ok (h : ReadsBelow first buffer count)
    (hok : first.result = .ok ()) : first.state.CurrentBelow buffer count := by
  rcases h with ⟨_, hcurrent⟩ | ⟨_, _, _, herror, _⟩
  · exact hcurrent
  · rw [hok] at herror
    cases herror

theorem ReadsBelow.failsAt_of_error (h : ReadsBelow first buffer count) {fault : Fault}
    (herror : first.result = .error fault) :
    ∃ failing error, failing < count ∧ fault = .grammar error ∧
      first.state.CurrentBelow buffer failing ∧ first.state.FailsAt buffer failing error := by
  rcases h with ⟨hok, _⟩ | ⟨failing, error, hlt, herror', hcurrent, hfails⟩
  · rw [hok] at herror
    cases herror
  · rw [herror] at herror'
    exact ⟨failing, error, hlt, Except.error.inj herror', hcurrent, hfails⟩

end LineCache

/-! ## A grammar to try things on -/

/-- Comments go from `<` to the next `>`, over any number of lines. Outside of a comment the grammar
fails on a line with a `!`. -/
def Grammar.comments : Grammar Bool where
  tokenizeLine text prior :=
    let inside := prior.getD false
    if !inside && text.contains '!' then .error (.tokenize "stray mark")
    else
      .ok { tokens := [⟨0, text.byteLength, [if inside then "comment" else "code"]⟩]
            endState := text.foldl (fun inside c => (inside || c == '<') && c != '>') inside }

end ScopeTracker
