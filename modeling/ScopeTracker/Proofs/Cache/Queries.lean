import ScopeTracker.Proofs.Cache.Accounts
import ScopeTracker.Proofs.Cache.Answers

/-!
# What queries cost

A query reads the line that it is about, unless that line is cached with the text it has now, and
before it the lines above that are not cached at all. So a line that is settled, that is cached
with its text, is never read again by any query, and every line that a query tokenizes is settled
from then on, also if the query fails further down.

The journal does not say which lines its calls are made for. `queriesCalls` follows the queries and
says it, and `Pays` holds it against the journal and the counter.

Main statement: once a query has been answered, all later queries on its line are answered from the
cache, and all queries together tokenize each line at most once (`queried_once`).
-/

namespace ScopeTracker

/-- A call of the grammar, and the line that it is made for. -/
structure LineCall (σ : Type) where
  line : Nat
  call : GrammarCall σ

namespace LineCache

variable {σ : Type} {before middle after cache : LineCache σ} {grammar : Grammar σ}
  {buffer : Buffer} {position : Position} {first index : Nat} {made made' : List (LineCall σ)}

/-! ## Settled lines -/

/-- Line `index` is cached with the text it has in the buffer. -/
def Settled (cache : LineCache σ) (buffer : Buffer) (index : Nat) : Prop :=
  cache.snapshot? index = some (buffer.line index)

instance (cache : LineCache σ) (buffer : Buffer) (index : Nat) :
    Decidable (cache.Settled buffer index) :=
  inferInstanceAs (Decidable (_ = _))

theorem Settled.lt_size (h : cache.Settled buffer index) (hdense : cache.Dense) :
    index < cache.size :=
  hdense.lt_size h

theorem Settled.congr (h : before.Settled buffer index)
    (hentry : after.entryAt index = before.entryAt index) : after.Settled buffer index := by
  rwa [Settled, snapshot?_congr hentry]

/-- A query leaves the entry of a settled line alone, on whatever line and also if it fails. -/
theorem Settled.entry_scopeAt (h : cache.Settled buffer index) (hdense : cache.Dense)
    (position : Position) :
    (cache.scopeAt buffer position).state.entryAt index = cache.entryAt index := by
  have hline := line_clamp_le_lastLine buffer position
  have hsize := h.lt_size hdense
  cases hgrammar : cache.grammar with
  | none =>
    rw [scopeAt_of_none hgrammar]
    rfl
  | some grammar =>
    rw [state_scopeAt hgrammar]
    by_cases hasked : cache.Settled buffer (buffer.clamp position).line
    · rw [ensureLine_of_snapshot hasked]
      rfl
    · have hother : index ≠ (buffer.clamp position).line := fun heq => hasked (heq ▸ h)
      -- the line asked about is read alone if it is cached, and otherwise the pass starts below
      exact (rereads_ensureLine hgrammar hdense hline hasked).outside (by omega)

theorem Settled.entry_queried (h : cache.Settled buffer index) (hdense : cache.Dense)
    (positions : List Position) :
    (cache.queried buffer positions).entryAt index = cache.entryAt index := by
  induction positions generalizing cache with
  | nil => rfl
  | cons position rest ih =>
    have hentry := h.entry_scopeAt hdense position
    exact (ih (h.congr hentry) (hdense.scopeAt buffer position)).trans hentry

theorem settled_of_scopeAt (hgrammar : cache.grammar = some grammar) (hdense : cache.Dense)
    {info : TokenInfo}
    (hok : (cache.scopeAt buffer position).result = .ok info) :
    (cache.scopeAt buffer position).state.Settled buffer (buffer.clamp position).line := by
  have hline := line_clamp_le_lastLine buffer position
  rw [state_scopeAt hgrammar]
  rw [scopeAt_of_some hgrammar] at hok
  have hensured := Outcome.ok_of_andThen hok
  by_cases hsettled : cache.Settled buffer (buffer.clamp position).line
  · rw [ensureLine_of_snapshot hsettled]
    exact hsettled
  · have hread := (rereads_ensureLine hgrammar hdense hline hsettled).reread_of_ok hensured
    exact (hread.inside _ (Nat.min_le_left _ _) (Nat.lt_succ_self _)).snapshot

/-- An answer is looked up in the cache that the query leaves. -/
theorem eq_tokenAt_of_scopeAt (hgrammar : cache.grammar = some grammar) {info : TokenInfo}
    (hok : (cache.scopeAt buffer position).result = .ok info) :
    info = (cache.scopeAt buffer position).state.tokenAt buffer (buffer.clamp position) := by
  rw [state_scopeAt hgrammar]
  rw [scopeAt_of_some hgrammar] at hok
  rw [Outcome.andThen_of_ok (Outcome.ok_of_andThen hok)] at hok
  exact (Except.ok.inj hok).symm

/-- A query that fails reads the lines above the failing one, and leaves the line that it is about
unsettled. So the next one goes on where it ended. -/
theorem result_scopeAt_of_error (hgrammar : cache.grammar = some grammar) (hdense : cache.Dense)
    {fault : Fault} (herror : (cache.scopeAt buffer position).result = .error fault) :
    ((cache.scopeAt buffer position).state.scopeAt buffer position).result = .error fault := by
  have hline := line_clamp_le_lastLine buffer position
  generalize hindex : (buffer.clamp position).line = index at hline
  have hunsettled : ¬ cache.Settled buffer index := by
    intro hsettled
    rw [scopeAt_of_snapshot hgrammar (hindex.symm ▸ hsettled)] at herror
    cases herror
  have hensured : (cache.ensureLine buffer index).result = .error fault := by
    rw [scopeAt_of_some hgrammar, hindex] at herror
    cases hresult : (cache.ensureLine buffer index).result with
    | ok _ =>
      rw [Outcome.andThen_of_ok hresult] at herror
      cases herror
    | error _ =>
      rw [Outcome.andThen_of_error hresult] at herror
      rw [Except.error.inj herror]
  rw [state_scopeAt hgrammar, hindex]
  rcases rereads_ensureLine hgrammar hdense hline hunsettled with
    ⟨hok, _⟩ | ⟨failing, error, hge, hlt, herror', hread, hfails⟩
  · rw [hok] at hensured
    cases hensured
  · obtain rfl : fault = .grammar error := Except.error.inj (hensured.symm.trans herror')
    generalize (cache.ensureLine buffer index).state = asked at hread hfails
    have hasks : asked.grammar = some grammar := hread.setup.grammar ▸ hgrammar
    have hsize := hread.size
    -- the line asked about is the failing one, or lies below all that is cached now
    have hstill : ¬ asked.Settled buffer index := fun hsettled =>
      hunsettled (hsettled.congr (hread.outside index (.inr (by omega))).symm)
    have hagain := rereads_ensureLine hasks hread.dense hline hstill
    rw [show min index asked.size = failing by omega] at hagain
    have hresult := hagain.error_of_failsAt hlt hfails
    rw [scopeAt_of_some hasks, hindex, Outcome.andThen_of_error hresult]
    rfl

/-- A query that is made twice in a row gives one answer, or one fault. -/
theorem result_scopeAt_again (hdense : cache.Dense) (buffer : Buffer) (position : Position) :
    ((cache.scopeAt buffer position).state.scopeAt buffer position).result =
      (cache.scopeAt buffer position).result := by
  cases hgrammar : cache.grammar with
  | none => simp only [scopeAt_of_none hgrammar, Outcome.ok]
  | some grammar =>
    cases hresult : (cache.scopeAt buffer position).result with
    | error fault => exact result_scopeAt_of_error hgrammar hdense hresult
    | ok info =>
      have hasks : (cache.scopeAt buffer position).state.grammar = some grammar :=
        (setup_scopeAt cache buffer position).grammar ▸ hgrammar
      rw [scopeAt_of_snapshot hasks (settled_of_scopeAt hgrammar hdense hresult),
        eq_tokenAt_of_scopeAt hgrammar hresult]
      rfl

/-! ## The calls of an operation -/

/-- The calls that reading a line makes. There is none if the line is too long. -/
def lineCalls (cache : LineCache σ) (buffer : Buffer) (index : Nat) : List (LineCall σ) :=
  if cache.maxLineLength < (buffer.line index).byteLength then []
  else [⟨index, buffer.line index, cache.stateBefore index⟩]

/-- The calls that reading `count` lines from `first` on makes, up to the first failure. -/
def passCalls (cache : LineCache σ) (buffer : Buffer) (first : Nat) : Nat → List (LineCall σ)
  | 0 => []
  | count + 1 =>
    let read := cache.reparseLine buffer first
    cache.lineCalls buffer first ++
      match read.result with
      | .ok _ => read.state.passCalls buffer (first + 1) count
      | .error _ => []

/-- The calls that a query makes. -/
def queryCalls (cache : LineCache σ) (buffer : Buffer) (position : Position) :
    List (LineCall σ) :=
  let index := (buffer.clamp position).line
  let first := min index cache.size
  if cache.grammar.isNone ∨ cache.Settled buffer index then []
  else cache.passCalls buffer first (index + 1 - first)

/-- The calls that queries at some positions make, one after the other. -/
def queriesCalls (cache : LineCache σ) (buffer : Buffer) : List Position → List (LineCall σ)
  | [] => []
  | position :: rest =>
    cache.queryCalls buffer position ++
      (cache.scopeAt buffer position).state.queriesCalls buffer rest

/-- Whether the grammar answers a call with tokens. -/
def answers (cache : LineCache σ) (call : GrammarCall σ) : Bool :=
  match cache.grammar with
  | none => false
  | some grammar => (grammar.tokenizeLine call.text call.prior).isOk

/-- The lines that are tokenized by some calls, in order. Calls that fail tokenize nothing. -/
def tokenizedBy (cache : LineCache σ) (made : List (LineCall σ)) : List Nat :=
  (made.filter fun made => cache.answers made.call).map (·.line)

/-- Operations that led from `before` to `after` have made the calls `made` and no others, and have
counted those that were answered. -/
structure Pays (before after : LineCache σ) (made : List (LineCall σ)) : Prop where
  setup : SameSetup before after
  calls : after.calls = before.calls ++ made.map (·.call)
  counted : after.tokenizedLines = before.tokenizedLines + (before.tokenizedBy made).length

theorem tokenizedBy_append (cache : LineCache σ) (made made' : List (LineCall σ)) :
    cache.tokenizedBy (made ++ made') = cache.tokenizedBy made ++ cache.tokenizedBy made' := by
  simp only [tokenizedBy, List.filter_append, List.map_append]

theorem SameSetup.tokenizedBy_eq (h : SameSetup before after) (made : List (LineCall σ)) :
    after.tokenizedBy made = before.tokenizedBy made := by
  simp only [tokenizedBy, answers, h.grammar]

theorem Pays.refl (cache : LineCache σ) : Pays cache cache [] where
  setup := .refl cache
  calls := by simp
  counted := rfl

theorem Pays.trans (h : Pays before middle made) (h' : Pays middle after made') :
    Pays before after (made ++ made') where
  setup := h.setup.trans h'.setup
  calls := by rw [h'.calls, h.calls, List.map_append, List.append_assoc]
  counted := by
    rw [h'.counted, h.counted, h.setup.tokenizedBy_eq, tokenizedBy_append, List.length_append,
      Nat.add_assoc]

theorem Pays.store (h : Pays before cache made) (index : Nat) (text : Text)
    (line : CachedLine σ) : Pays before (cache.store index text line).state made := by
  obtain ⟨lines, snapshots, hstate⟩ := cache.state_store index text line
  rw [hstate]
  exact ⟨h.setup.trans ⟨rfl, rfl⟩, h.calls, h.counted⟩

/-- A call is entered in the journal, and counted if it is answered. -/
theorem pays_called (hgrammar : cache.grammar = some grammar) (made : LineCall σ) :
    Pays cache (cache.called grammar made.call) [made] where
  setup := ⟨rfl, rfl⟩
  calls := by simp [calls, called]
  counted := by
    simp only [tokenizedBy, answers, called, hgrammar, List.filter_cons, List.filter_nil]
    split <;> rfl

theorem pays_reparseLine (hgrammar : cache.grammar = some grammar) (buffer : Buffer)
    (index : Nat) :
    Pays cache (cache.reparseLine buffer index).state (cache.lineCalls buffer index) := by
  have hread := cache.readsLine buffer index
  generalize cache.reparseLine buffer index = outcome at hread ⊢
  unfold lineCalls
  cases hread with
  | without hnone =>
    rw [hnone] at hgrammar
    cases hgrammar
  | skipped _ hlong =>
    rw [if_pos hlong]
    exact (Pays.refl cache).store _ _ _
  | failed hasked hshort =>
    rw [if_neg (Nat.not_lt.mpr hshort)]
    exact pays_called hasked ⟨index, buffer.line index, cache.stateBefore index⟩
  | tokenized hasked hshort =>
    rw [if_neg (Nat.not_lt.mpr hshort)]
    exact (pays_called hasked ⟨index, buffer.line index, cache.stateBefore index⟩).store _ _ _

theorem pays_reparseLines (hgrammar : cache.grammar = some grammar) (buffer : Buffer)
    (first count : Nat) :
    Pays cache (cache.reparseLines buffer first count).state
      (cache.passCalls buffer first count) := by
  induction count generalizing cache first with
  | zero => exact .refl cache
  | succ count ih =>
    have hline := pays_reparseLine hgrammar buffer first
    rw [reparseLines, passCalls]
    cases hresult : (cache.reparseLine buffer first).result with
    | ok _ =>
      rw [Outcome.andThen_of_ok hresult]
      exact hline.trans (ih (hline.setup.grammar ▸ hgrammar) (first + 1))
    | error _ =>
      rw [Outcome.andThen_of_error hresult, List.append_nil]
      exact hline

/-- The pass that a query makes over the lines it has to read. -/
theorem ensureLine_of_stale (hgrammar : cache.grammar = some grammar)
    (hindex : index ≤ buffer.lastLine) (h : ¬ cache.Settled buffer index) :
    cache.ensureLine buffer index =
      cache.reparseLines buffer (min index cache.size) (index + 1 - min index cache.size) := by
  have hstale : cache.snapshot? index ≠ some (buffer.line index) := h
  rw [ensureLine, if_neg hstale, reparseRange_lines hgrammar buffer (Nat.le_refl index),
    Nat.min_eq_left hindex]

theorem queryCalls_of_none (hgrammar : cache.grammar = none) :
    cache.queryCalls buffer position = [] := by
  simp [queryCalls, hgrammar]

theorem queryCalls_of_settled (h : cache.Settled buffer (buffer.clamp position).line) :
    cache.queryCalls buffer position = [] := by
  simp [queryCalls, h]

theorem queryCalls_of_stale (hgrammar : cache.grammar = some grammar)
    (h : ¬ cache.Settled buffer (buffer.clamp position).line) :
    cache.queryCalls buffer position =
      cache.passCalls buffer (min (buffer.clamp position).line cache.size)
        ((buffer.clamp position).line + 1 - min (buffer.clamp position).line cache.size) := by
  simp [queryCalls, hgrammar, h]

theorem pays_scopeAt (cache : LineCache σ) (buffer : Buffer) (position : Position) :
    Pays cache (cache.scopeAt buffer position).state (cache.queryCalls buffer position) := by
  have hline := line_clamp_le_lastLine buffer position
  cases hgrammar : cache.grammar with
  | none =>
    rw [scopeAt_of_none hgrammar, queryCalls_of_none hgrammar]
    exact .refl cache
  | some grammar =>
    rw [state_scopeAt hgrammar]
    by_cases hsettled : cache.Settled buffer (buffer.clamp position).line
    · rw [ensureLine_of_snapshot hsettled, queryCalls_of_settled hsettled]
      exact .refl cache
    · rw [ensureLine_of_stale hgrammar hline hsettled, queryCalls_of_stale hgrammar hsettled]
      exact pays_reparseLines hgrammar buffer _ _

theorem pays_queried (cache : LineCache σ) (buffer : Buffer) (positions : List Position) :
    Pays cache (cache.queried buffer positions) (cache.queriesCalls buffer positions) := by
  induction positions generalizing cache with
  | nil => exact .refl cache
  | cons position rest ih => exact (pays_scopeAt cache buffer position).trans (ih _)

/-! ## The lines that are tokenized -/

theorem result_store (cache : LineCache σ) (hdense : cache.Dense) (h : index ≤ cache.size)
    (text : Text) (line : CachedLine σ) : (cache.store index text line).result = .ok () := by
  obtain ⟨_, hstore, _⟩ := cache.store_eq_ok hdense h text line
  rw [hstore]
  rfl

/-- Reading a line tokenizes nothing, or that line, and then it succeeds. -/
theorem tokenizedBy_lineCalls (hgrammar : cache.grammar = some grammar) (hdense : cache.Dense)
    (buffer : Buffer) (hindex : index ≤ cache.size) :
    cache.tokenizedBy (cache.lineCalls buffer index) = [] ∨
      cache.tokenizedBy (cache.lineCalls buffer index) = [index] ∧
        (cache.reparseLine buffer index).result = .ok () := by
  have hread := cache.readsLine buffer index
  generalize cache.reparseLine buffer index = outcome at hread ⊢
  unfold lineCalls
  cases hread with
  | without hnone =>
    rw [hnone] at hgrammar
    cases hgrammar
  | skipped _ hlong =>
    rw [if_pos hlong]
    exact .inl rfl
  | failed hasked hshort hanswer =>
    rw [if_neg (Nat.not_lt.mpr hshort)]
    exact .inl (by simp [tokenizedBy, answers, hasked, hanswer, Except.isOk, Except.toBool])
  | tokenized hasked hshort hanswer =>
    rw [if_neg (Nat.not_lt.mpr hshort)]
    refine .inr ⟨?_, result_store (cache.called _ _) hdense hindex _ _⟩
    simp [tokenizedBy, answers, hasked, hanswer, Except.isOk, Except.toBool]

/-- A pass tokenizes each of its lines once, and what it tokenizes is settled when it ends, also
if it ends with a failure. -/
theorem tokenizedBy_passCalls (hgrammar : cache.grammar = some grammar) (hdense : cache.Dense)
    (buffer : Buffer) (hfirst : first ≤ cache.size) (count : Nat) :
    (cache.tokenizedBy (cache.passCalls buffer first count)).Nodup ∧
      ∀ index ∈ cache.tokenizedBy (cache.passCalls buffer first count),
        first ≤ index ∧ index < first + count ∧
          (cache.reparseLines buffer first count).state.Settled buffer index := by
  induction count generalizing cache first with
  | zero => simp [passCalls, tokenizedBy]
  | succ count ih =>
    have hreads := rereads_reparseLine hgrammar hdense buffer hfirst
    have hline := tokenizedBy_lineCalls hgrammar hdense buffer hfirst
    rw [passCalls, tokenizedBy_append, reparseLines]
    cases hresult : (cache.reparseLine buffer first).result with
    | error fault =>
      rcases hline with hnone | ⟨_, hok⟩
      · rw [hnone]
        simp [tokenizedBy]
      · rw [hresult] at hok
        cases hok
    | ok _ =>
      have hread := hreads.reread_of_ok hresult
      have hasks := hread.setup.grammar ▸ hgrammar
      have hnext : first + 1 ≤ (cache.reparseLine buffer first).state.size := by
        rw [hread.size]
        omega
      have hrest := ih hasks hread.dense hnext
      rw [hread.setup.tokenizedBy_eq] at hrest
      obtain ⟨hnodup, hrest⟩ := hrest
      rw [Outcome.andThen_of_ok hresult]
      -- the rest of the pass stays below the first line
      have hkept := (rereads_reparseLines hasks hread.dense buffer hnext count).outside
        (show first < first + 1 ∨ _ from .inl (Nat.lt_succ_self first))
      have hsettled : (cache.reparseLine buffer first).state.Settled buffer first :=
        (hread.inside first (Nat.le_refl _) (Nat.lt_succ_self _)).snapshot
      rcases hline with hnone | ⟨hone, _⟩
      · rw [hnone, List.nil_append]
        refine ⟨hnodup, fun index h => ?_⟩
        obtain ⟨hge, hlt, hafter⟩ := hrest index h
        exact ⟨by omega, by omega, hafter⟩
      · rw [hone, List.singleton_append, List.nodup_cons]
        refine ⟨⟨fun h => ?_, hnodup⟩, fun index h => ?_⟩
        · have := (hrest first h).1
          omega
        · rcases List.mem_cons.mp h with rfl | h
          · exact ⟨Nat.le_refl _, by omega, hsettled.congr hkept⟩
          · obtain ⟨hge, hlt, hafter⟩ := hrest index h
            exact ⟨by omega, by omega, hafter⟩

/-- A query tokenizes no line twice and no line that is settled. -/
theorem tokenizedBy_queryCalls (hdense : cache.Dense) (buffer : Buffer) (position : Position) :
    (cache.tokenizedBy (cache.queryCalls buffer position)).Nodup ∧
      ∀ index ∈ cache.tokenizedBy (cache.queryCalls buffer position),
        ¬ cache.Settled buffer index ∧
          (cache.scopeAt buffer position).state.Settled buffer index := by
  have hline := line_clamp_le_lastLine buffer position
  cases hgrammar : cache.grammar with
  | none =>
    rw [queryCalls_of_none hgrammar]
    simp [tokenizedBy]
  | some grammar =>
    by_cases hasked : cache.Settled buffer (buffer.clamp position).line
    · rw [queryCalls_of_settled hasked]
      simp [tokenizedBy]
    · rw [state_scopeAt hgrammar, ensureLine_of_stale hgrammar hline hasked,
        queryCalls_of_stale hgrammar hasked]
      obtain ⟨hnodup, hlines⟩ := tokenizedBy_passCalls hgrammar hdense buffer
        (Nat.min_le_right (buffer.clamp position).line cache.size)
        ((buffer.clamp position).line + 1 - min (buffer.clamp position).line cache.size)
      refine ⟨hnodup, fun index h => ?_⟩
      obtain ⟨hge, hlt, hafter⟩ := hlines index h
      refine ⟨fun hsettled => ?_, hafter⟩
      -- a line that is read though it is cached is the line asked about
      have hcached := hsettled.lt_size hdense
      obtain rfl : index = (buffer.clamp position).line := by omega
      exact hasked hsettled

theorem tokenizedBy_queriesCalls (hdense : cache.Dense) (buffer : Buffer)
    (positions : List Position) :
    (cache.tokenizedBy (cache.queriesCalls buffer positions)).Nodup ∧
      ∀ index ∈ cache.tokenizedBy (cache.queriesCalls buffer positions),
        ¬ cache.Settled buffer index := by
  induction positions generalizing cache with
  | nil => simp [queriesCalls, tokenizedBy]
  | cons position rest ih =>
    obtain ⟨hnodup, hfirst⟩ := tokenizedBy_queryCalls hdense buffer position
    have hrest := ih (hdense.scopeAt buffer position)
    rw [(setup_scopeAt cache buffer position).tokenizedBy_eq] at hrest
    obtain ⟨hnodup', hrest⟩ := hrest
    rw [queriesCalls, tokenizedBy_append, List.nodup_append]
    refine ⟨⟨hnodup, hnodup', ?_⟩, fun index h => ?_⟩
    · rintro index h _ h' rfl
      exact hrest index h' (hfirst index h).2
    · rcases List.mem_append.mp h with h | h
      · exact (hfirst index h).1
      · -- what is settled before the first query is settled after it
        intro hsettled
        exact hrest index h (hsettled.congr (hsettled.entry_scopeAt hdense position))

/-! ## Any queries in any order -/

/-- Queries about a document that stays as it is, whatever was done to the cache before: it is dense
then, but it may be stale, and hold fewer lines than the document or more. Once a query has been
answered, a later one on its line leaves the cache as it is, journal included, and at the same
position it gives the same answer, whatever was asked in between and failed. All queries together
tokenize each line at most once. -/
theorem queried_once (hdense : cache.Dense) (buffer : Buffer) :
    (∀ earlier position info between,
      let asked := (cache.queried buffer earlier).scopeAt buffer position
      let later := asked.state.queried buffer between
      asked.result = .ok info →
        later.scopeAt buffer position = .ok later info ∧
          ∀ other, (buffer.clamp other).line = (buffer.clamp position).line →
            ∃ answer, later.scopeAt buffer other = .ok later answer) ∧
      ∀ positions,
        Pays cache (cache.queried buffer positions) (cache.queriesCalls buffer positions) ∧
          (cache.tokenizedBy (cache.queriesCalls buffer positions)).Nodup := by
  constructor
  · intro earlier position info between asked later hok
    have hearlier := hdense.queried buffer earlier
    have hasked : SameSetup (cache.queried buffer earlier) asked.state := setup_scopeAt _ _ _
    have hlater : SameSetup asked.state later := setup_queried _ _ _
    cases hgrammar : (cache.queried buffer earlier).grammar with
    | none =>
      have hnone : later.grammar = none := by rw [← hlater.grammar, ← hasked.grammar, hgrammar]
      obtain rfl : info = .empty position := by
        simp only [asked, scopeAt_of_none hgrammar] at hok
        exact (Except.ok.inj hok).symm
      exact ⟨scopeAt_of_none hnone buffer position, fun other _ =>
        ⟨_, scopeAt_of_none hnone buffer other⟩⟩
    | some grammar =>
      have hsome : later.grammar = some grammar := by
        rw [← hlater.grammar, ← hasked.grammar, hgrammar]
      have hsettled : asked.state.Settled buffer _ := settled_of_scopeAt hgrammar hearlier hok
      have hentry := hsettled.entry_queried (hearlier.scopeAt buffer position) between
      have hstill : later.Settled buffer _ := hsettled.congr hentry
      constructor
      · rw [scopeAt_of_snapshot hsome hstill, eq_tokenAt_of_scopeAt hgrammar hok,
          tokenAt_congr hentry]
      · intro other hline
        exact ⟨_, scopeAt_of_snapshot hsome (hline ▸ hstill)⟩
  · intro positions
    exact ⟨pays_queried cache buffer positions,
      (tokenizedBy_queriesCalls hdense buffer positions).1⟩

/-- The cache was read from another text. The last line is not cached and is read after the comment
that the other text opened; the stale line above cannot be tokenized, however often it is asked
about. -/
theorem queried_once_stale :
    let cache := (untokenized (some .comments) 20).performed [.refresh (.ofText ['a', '\n', '<'])]
    let buffer : Buffer := .ofText ['a', '\n', '!', '\n', 'b']
    let asked := cache.scopeAt buffer ⟨2, 0⟩
    let later := asked.state.queried buffer [⟨1, 0⟩, ⟨0, 0⟩, ⟨1, 0⟩]
    (asked.state.scopeAt buffer ⟨1, 0⟩).result = .error (.grammar (.tokenize "stray mark")) ∧
      later.scopeAt buffer ⟨2, 0⟩ = .ok later ⟨⟨⟨2, 0⟩, ⟨2, 1⟩⟩, ['b'], ["comment"]⟩ ∧
      cache.tokenizedBy (cache.queriesCalls buffer [⟨2, 0⟩, ⟨1, 0⟩, ⟨1, 0⟩, ⟨2, 0⟩]) = [2] := by
  intro cache buffer asked later
  have hanswer : asked.result = .ok ⟨⟨⟨2, 0⟩, ⟨2, 1⟩⟩, ['b'], ["comment"]⟩ := by decide +kernel
  have hdense : cache.Dense := by decide +kernel
  have hlater := (queried_once hdense buffer).1 [] ⟨2, 0⟩ _ [⟨1, 0⟩, ⟨0, 0⟩, ⟨1, 0⟩] hanswer
  exact ⟨by decide +kernel, hlater.1, by decide +kernel⟩

end LineCache

end ScopeTracker
