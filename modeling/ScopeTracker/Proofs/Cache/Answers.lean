import ScopeTracker.Cache.Query
import ScopeTracker.Proofs.Cache.Reparse

/-!
# Answers

A query looks at one line. If the cache is right about the lines down to that one, as far as it
holds them, the query reads what is missing and answers as an empty cache would.

Main statements: the answer depends on nothing but the document (`scopeAt_result_eq`), and
queries never spoil lines that are current (`CurrentBelow.queried`).
-/

namespace ScopeTracker

namespace LineCache

variable {σ : Type} {a b cache : LineCache σ} {buffer : Buffer} {count index : Nat}

/-- A cache after queries at some positions. -/
def queried (cache : LineCache σ) (buffer : Buffer) (positions : List Position) : LineCache σ :=
  positions.foldl (fun cache position => (cache.scopeAt buffer position).state) cache

/-! ## Making sure of a line -/

theorem ensureLine_of_snapshot (h : cache.snapshot? index = some (buffer.line index)) :
    cache.ensureLine buffer index = .ok cache () := by
  rw [ensureLine, if_pos h]

theorem rereads_ensureLine {grammar : Grammar σ} (hgrammar : cache.grammar = some grammar)
    (hdense : cache.Dense) (hindex : index ≤ buffer.lastLine)
    (h : cache.snapshot? index ≠ some (buffer.line index)) :
    Rereads cache (cache.ensureLine buffer index) buffer (min index cache.size) (index + 1) := by
  have hread := rereads_lines hgrammar hdense buffer (Nat.le_refl index)
  rw [Nat.min_eq_left hindex] at hread
  rwa [ensureLine, if_neg h]

theorem setup_ensureLine (cache : LineCache σ) (buffer : Buffer) (index : Nat) :
    SameSetup cache (cache.ensureLine buffer index).state :=
  (kept_setup cache).ensureLine (.refl cache) buffer index

/-- A line that a cache with current lines has to read lies below these lines. -/
theorem CurrentBelow.le_of_snapshot_ne (h : cache.CurrentBelow buffer count)
    (hne : cache.snapshot? index ≠ some (buffer.line index)) : count ≤ index := by
  apply Nat.le_of_not_lt
  intro hlt
  exact hne (h index hlt).snapshot

/-- Lines that are current stay current, whatever line is asked for and whether it fails. -/
theorem CurrentBelow.ensureLine (h : cache.CurrentBelow buffer count) (hdense : cache.Dense)
    (hindex : index ≤ buffer.lastLine) :
    (cache.ensureLine buffer index).state.CurrentBelow buffer count := by
  by_cases hsnapshot : cache.snapshot? index = some (buffer.line index)
  · rw [ensureLine_of_snapshot hsnapshot]
    exact h
  · cases hgrammar : cache.grammar with
    | none =>
      rw [LineCache.ensureLine, if_neg hsnapshot, reparseRange_of_none hgrammar]
      exact h
    | some grammar =>
      have hread := rereads_ensureLine hgrammar hdense hindex hsnapshot
      have hbelow := h.le_of_snapshot_ne hsnapshot
      have hsize := h.le_size
      exact h.congr hread.setup (fun _ _ => rfl) fun i hi => hread.outside (by omega)

/-- A cache that is right down to a line reads the lines down to it, or up to a failure. -/
theorem readsBelow_ensureLine {grammar : Grammar σ} (hgrammar : cache.grammar = some grammar)
    (hdense : cache.Dense) (hindex : index ≤ buffer.lastLine)
    (h : cache.CurrentBelow buffer (min (index + 1) cache.size)) :
    ReadsBelow (cache.ensureLine buffer index) buffer (index + 1) := by
  by_cases hsnapshot : cache.snapshot? index = some (buffer.line index)
  · have hsize := hdense.lt_size hsnapshot
    rw [ensureLine_of_snapshot hsnapshot]
    exact .inl ⟨rfl, h.mono (by omega)⟩
  · have hbelow := h.le_of_snapshot_ne hsnapshot
    exact (rereads_ensureLine hgrammar hdense hindex hsnapshot).readsBelow (h.mono (by omega))

/-! ## Answers -/

theorem scopeAt_of_none (hgrammar : cache.grammar = none) (buffer : Buffer)
    (position : Position) : cache.scopeAt buffer position = .ok cache (.empty position) := by
  rw [scopeAt, if_pos (by simp [hgrammar])]

theorem scopeAt_of_some {grammar : Grammar σ} (hgrammar : cache.grammar = some grammar)
    (buffer : Buffer) (position : Position) :
    cache.scopeAt buffer position =
      (cache.ensureLine buffer (buffer.clamp position).line).andThen fun cache _ =>
        .ok cache (cache.tokenAt buffer (buffer.clamp position)) := by
  rw [scopeAt, if_neg (by simp [hgrammar])]

/-- A line that is cached with its text is answered from the cache. -/
theorem scopeAt_of_snapshot {grammar : Grammar σ} (hgrammar : cache.grammar = some grammar)
    {position : Position}
    (h : cache.snapshot? (buffer.clamp position).line =
      some (buffer.line (buffer.clamp position).line)) :
    cache.scopeAt buffer position =
      .ok cache (cache.tokenAt buffer (buffer.clamp position)) := by
  rw [scopeAt_of_some hgrammar, ensureLine_of_snapshot h, Outcome.ok_andThen]

theorem line_clamp_le_lastLine (buffer : Buffer) (position : Position) :
    (buffer.clamp position).line ≤ buffer.lastLine := by
  rw [buffer.line_clamp]
  exact Nat.min_le_right _ _

/-- A query leaves the cache that making sure of its line leaves. -/
theorem state_scopeAt {grammar : Grammar σ} (hgrammar : cache.grammar = some grammar)
    (buffer : Buffer) (position : Position) :
    (cache.scopeAt buffer position).state =
      (cache.ensureLine buffer (buffer.clamp position).line).state := by
  rw [scopeAt_of_some hgrammar]
  let ensured := (cache.ensureLine buffer (buffer.clamp position).line).state
  exact Outcome.state_andThen (motive := (· = ensured)) rfl fun _ _ => rfl

theorem setup_scopeAt (cache : LineCache σ) (buffer : Buffer) (position : Position) :
    SameSetup cache (cache.scopeAt buffer position).state :=
  (kept_setup cache).scopeAt (.refl cache) buffer position

theorem CurrentBelow.scopeAt (h : cache.CurrentBelow buffer count) (hdense : cache.Dense)
    (position : Position) :
    (cache.scopeAt buffer position).state.CurrentBelow buffer count := by
  cases hgrammar : cache.grammar with
  | none =>
    rw [scopeAt_of_none hgrammar]
    exact h
  | some grammar =>
    rw [state_scopeAt hgrammar]
    exact h.ensureLine hdense (line_clamp_le_lastLine buffer position)

theorem setup_queried (cache : LineCache σ) (buffer : Buffer) (positions : List Position) :
    SameSetup cache (cache.queried buffer positions) := by
  induction positions generalizing cache with
  | nil => exact .refl cache
  | cons position rest ih => exact (setup_scopeAt cache buffer position).trans (ih _)

theorem Dense.queried (h : cache.Dense) (buffer : Buffer) (positions : List Position) :
    (cache.queried buffer positions).Dense := by
  induction positions generalizing cache with
  | nil => exact h
  | cons position rest ih => exact ih (h.scopeAt buffer position)

/-- Queries, failing ones included, leave current lines current. -/
theorem CurrentBelow.queried (h : cache.CurrentBelow buffer count) (hdense : cache.Dense)
    (positions : List Position) : (cache.queried buffer positions).CurrentBelow buffer count := by
  induction positions generalizing cache with
  | nil => exact h
  | cons position rest ih =>
    exact ih (h.scopeAt hdense position) (hdense.scopeAt buffer position)

theorem tokenAt_congr {position : Position}
    (h : b.entryAt position.line = a.entryAt position.line) :
    a.tokenAt buffer position = b.tokenAt buffer position := by
  simp only [tokenAt, line?_congr h]

/-- Caches that are right down to the line of a position answer alike there, be it with a token or
with a fault. -/
theorem scopeAt_result_eq {position : Position} (setup : SameSetup a b) (hdense : a.Dense)
    (hdense' : b.Dense)
    (ha : a.CurrentBelow buffer (min ((buffer.clamp position).line + 1) a.size))
    (hb : b.CurrentBelow buffer (min ((buffer.clamp position).line + 1) b.size)) :
    (a.scopeAt buffer position).result = (b.scopeAt buffer position).result := by
  have hline := line_clamp_le_lastLine buffer position
  cases hgrammar : a.grammar with
  | none =>
    rw [scopeAt_of_none hgrammar, scopeAt_of_none (setup.grammar ▸ hgrammar)]
    rfl
  | some grammar =>
    have hgrammar' : b.grammar = some grammar := setup.grammar ▸ hgrammar
    have hreads := readsBelow_ensureLine hgrammar hdense hline ha
    have hreads' := readsBelow_ensureLine hgrammar' hdense' hline hb
    have setup' := (setup_ensureLine a buffer (buffer.clamp position).line).symm.trans
      (setup.trans (setup_ensureLine b buffer (buffer.clamp position).line))
    have hresults := hreads.result_eq hreads' setup'
    rw [scopeAt_of_some hgrammar, scopeAt_of_some hgrammar']
    cases hresult : (a.ensureLine buffer (buffer.clamp position).line).result with
    | error fault =>
      rw [Outcome.andThen_of_error hresult, Outcome.andThen_of_error (hresults ▸ hresult)]
      rfl
    | ok _ =>
      have hcurrent := hreads.currentBelow_of_ok hresult
      have hcurrent' := hreads'.currentBelow_of_ok (hresults ▸ hresult)
      rw [Outcome.andThen_of_ok hresult, Outcome.andThen_of_ok (hresults ▸ hresult)]
      simp only [Outcome.ok]
      rw [tokenAt_congr (hcurrent.entryAt_eq hcurrent' setup' _ (Nat.lt_succ_self _))]

/-- A correct prefix stays one when a query fills it up, also if the grammar fails on the way. -/
theorem CorrectPrefix.scopeAt (h : cache.CorrectPrefix buffer) (position : Position) :
    (cache.scopeAt buffer position).state.CorrectPrefix buffer := by
  have hline := line_clamp_le_lastLine buffer position
  have hlast := buffer.lastLine_add_one
  cases hgrammar : cache.grammar with
  | none =>
    rw [scopeAt_of_none hgrammar]
    exact h
  | some grammar =>
    rw [state_scopeAt hgrammar]
    by_cases hsnapshot : cache.snapshot? (buffer.clamp position).line =
        some (buffer.line (buffer.clamp position).line)
    · rw [ensureLine_of_snapshot hsnapshot]
      exact h
    · have hbelow := h.current.le_of_snapshot_ne hsnapshot
      have hread := rereads_ensureLine hgrammar h.dense hline hsnapshot
      rw [Nat.min_eq_right hbelow] at hread
      -- the pass starts right below the cached lines, so the cache ends where the pass ends
      rcases hread with ⟨_, hread⟩ | ⟨failing, _, hge, hlt, _, hread, _⟩
      · have hsize := hread.size
        rw [Nat.max_eq_right (by omega)] at hsize
        exact ⟨hread.dense, by omega, hsize ▸ hread.currentBelow h.current⟩
      · have hsize := hread.size
        rw [Nat.max_eq_right hge] at hsize
        exact ⟨hread.dense, by omega, hsize ▸ hread.currentBelow h.current⟩

/-- Nothing has to be read to answer from a complete cache, so no grammar can fail. -/
theorem Complete.scopeAt_eq (h : cache.Complete buffer) (position : Position) :
    cache.scopeAt buffer position =
      .ok cache (cache.tokenAt buffer (buffer.clamp position)) := by
  obtain ⟨grammar, hgrammar⟩ := h.exists_grammar
  have hline := line_clamp_le_lastLine buffer position
  have hlast := buffer.lastLine_add_one
  exact scopeAt_of_snapshot hgrammar (h.current _ (by omega)).snapshot

end LineCache

end ScopeTracker
