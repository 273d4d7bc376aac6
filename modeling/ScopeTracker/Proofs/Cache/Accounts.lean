import ScopeTracker.Document
import ScopeTracker.Proofs.Cache.Following

/-!
# What a cache can account for

Operations may follow each other in any order, each with a document that has nothing to do with
the one before, and any of them may end early because the grammar fails. All they ever do to the
cache is to read a line and to cut the cache off, so what these two keep is kept by every run
(`Kept`).

Main statement: after any run the two lists of the cache are of one length, each line is what the
grammar was asked and answered about its text, or is skipped for its length, the counter is the
number of calls that were answered, and no operation ends with a fault that is not the grammar's
(`performed_accounted`).
-/

namespace ScopeTracker

/-- Something that is done to a cache, with the document that the cache is handed for it. -/
inductive CacheOperation where
  | refresh (buffer : Buffer)
  | reparseRange (buffer : Buffer) (range : Range)
  | applyChanges (buffer : Buffer) (edits : List Edit)
  | scopeAt (buffer : Buffer) (position : Position)

/-- Batches are to be handed over sorted. Nothing is asked of other operations. -/
def CacheOperation.Sorted : CacheOperation → Prop
  | applyChanges _ edits => Edit.Descending edits
  | _ => True

namespace Outcome

variable {S α β : Type}

/-- A fault of the grammar is the only one there can be. -/
def FailsByGrammar (outcome : Outcome S α) : Prop :=
  ∀ fault, outcome.result = .error fault → ∃ error, fault = .grammar error

theorem failsByGrammar_ok (state : S) (answer : α) : (ok state answer).FailsByGrammar := nofun

theorem FailsByGrammar.andThen {first : Outcome S α} {next : S → α → Outcome S β}
    (hfirst : first.FailsByGrammar)
    (hnext : ∀ answer, (next first.state answer).FailsByGrammar) :
    (first.andThen next).FailsByGrammar := by
  cases hresult : first.result with
  | ok answer =>
    rw [andThen_of_ok hresult]
    exact hnext answer
  | error fault =>
    rw [andThen_of_error hresult]
    rintro _ ⟨⟩
    exact hfirst fault hresult

end Outcome

namespace LineCache

variable {σ : Type} {cache : LineCache σ} {grammar : Option (Grammar σ)} {maxLineLength : Nat}

/-- Carries out an operation. The answer to a query is left out. -/
def perform [BEq σ] (cache : LineCache σ) : CacheOperation → Outcome (LineCache σ) Unit
  | .refresh buffer => cache.refresh buffer
  | .reparseRange buffer range => cache.reparseRange buffer range
  | .applyChanges buffer edits => cache.applyChanges buffer edits
  | .scopeAt buffer position => (cache.scopeAt buffer position).andThen fun cache _ => .ok cache ()

/-- The cache after a run. Each operation finds what the one before it left, failed or not. -/
def performed [BEq σ] (cache : LineCache σ) (operations : List CacheOperation) : LineCache σ :=
  operations.foldl (fun cache operation => (cache.perform operation).state) cache

/-- The number of calls that the grammar answered with tokens. -/
def answeredCalls (cache : LineCache σ) : Nat :=
  match cache.grammar with
  | none => 0
  | some grammar =>
    cache.journal.countP fun call => (grammar.tokenizeLine call.text call.prior).isOk

namespace Kept

variable {motive : LineCache σ → Prop} (kept : Kept motive)
include kept

theorem perform [BEq σ] (h : motive cache) (operation : CacheOperation) :
    motive (cache.perform operation).state := by
  cases operation with
  | refresh buffer => exact kept.refresh h buffer
  | reparseRange buffer range => exact kept.reparseRange h buffer range
  | applyChanges buffer edits => exact kept.applyChanges h buffer edits
  | scopeAt buffer position =>
    have hasked := kept.scopeAt h buffer position
    exact Outcome.state_andThen hasked fun _ _ => hasked

theorem performed [BEq σ] (h : motive cache) (operations : List CacheOperation) :
    motive (cache.performed operations) := by
  induction operations generalizing cache with
  | nil => exact h
  | cons operation later ih => exact ih (kept.perform h operation)

end Kept

/-! ## The account -/

/-- What there is to be said for a cached line and its text: the text was too long, or the grammar
was asked about it, after some state, and gave these tokens. -/
def Justified (cache : LineCache σ) (text : Text) (line : CachedLine σ) : Prop :=
  match line with
  | .skipped => cache.maxLineLength < text.byteLength
  | .tokenized tokens =>
    text.byteLength ≤ cache.maxLineLength ∧
      ∃ grammar prior, cache.grammar = some grammar ∧ ⟨text, prior⟩ ∈ cache.journal ∧
        grammar.tokenizeLine text prior = .ok tokens

/-- A cache that asks the grammar it was made for, has a text for each of its lines, and can account
for both and for its counter. Without a grammar it holds nothing and has asked nothing. -/
structure Accounted (grammar : Option (Grammar σ)) (maxLineLength : Nat)
    (cache : LineCache σ) : Prop where
  setup : SameSetup (.untokenized grammar maxLineLength) cache
  dense : cache.Dense
  justified : ∀ index text line, cache.entryAt index = (some line, some text) →
    cache.Justified text line
  counted : cache.tokenizedLines = cache.answeredCalls
  inert : cache.grammar = none → cache.lines = []

theorem accounted_untokenized (grammar : Option (Grammar σ)) (maxLineLength : Nat) :
    Accounted grammar maxLineLength (.untokenized grammar maxLineLength) where
  setup := .refl _
  dense := dense_untokenized grammar maxLineLength
  justified := fun _ _ _ hentry => by cases hentry
  counted := by cases grammar <;> rfl
  inert := fun _ => rfl

/-- More calls in the journal take no justification away. -/
theorem Justified.mono {after : LineCache σ} {text : Text} {line : CachedLine σ}
    (h : cache.Justified text line) (setup : SameSetup cache after)
    (hjournal : cache.journal ⊆ after.journal) : after.Justified text line := by
  cases line with
  | skipped =>
    have hlimit := setup.maxLineLength
    simp only [Justified] at h ⊢
    omega
  | tokenized tokens =>
    obtain ⟨hshort, asked, prior, hgrammar, hcalled, hanswer⟩ := h
    exact ⟨setup.maxLineLength ▸ hshort, asked, prior, setup.grammar ▸ hgrammar,
      hjournal hcalled, hanswer⟩

/-- A line with a justification can be stored. -/
theorem Accounted.store {index : Nat} {text : Text} {line : CachedLine σ} {asked : Grammar σ}
    (h : Accounted grammar maxLineLength cache) (hasks : cache.grammar = some asked)
    (hline : cache.Justified text line) :
    Accounted grammar maxLineLength (cache.store index text line).state := by
  have hdense := h.dense.store index text line
  have hentries := h.dense.entryAt_store index text line
  obtain ⟨lines, snapshots, hstate⟩ := cache.state_store index text line
  rw [hstate] at hdense hentries ⊢
  have setup : SameSetup cache { cache with lines, snapshots } := ⟨rfl, rfl⟩
  refine ⟨h.setup.trans setup, hdense, ?_, h.counted, fun hnone => ?_⟩
  · intro i text' line' hentry
    rcases hentries i with hold | hnew
    · exact (h.justified i text' line' (hold ▸ hentry)).mono setup (List.Subset.refl _)
    · -- what is stored now is the line with the justification
      obtain ⟨rfl, rfl⟩ : line = line' ∧ text = text' := by
        simpa using hnew.symm.trans hentry
      exact hline.mono setup (List.Subset.refl _)
  · rw [hasks] at hnone
    cases hnone

/-- A call is entered in the journal, and counted if it was answered with tokens. -/
theorem Accounted.called {asked : Grammar σ} (h : Accounted grammar maxLineLength cache)
    (hasks : cache.grammar = some asked) (call : GrammarCall σ) :
    Accounted grammar maxLineLength (cache.called asked call) where
  setup := h.setup.trans ⟨rfl, rfl⟩
  dense := h.dense
  justified := fun index text line hentry =>
    (h.justified index text line hentry).mono ⟨rfl, rfl⟩ (List.subset_cons_self _ _)
  counted := by
    have hcounted := h.counted
    simp only [answeredCalls, LineCache.called, hasks] at hcounted ⊢
    rw [List.countP_cons, hcounted]
  inert := h.inert

/-- Reading a line is accounted for, whatever the line and whether the grammar fails on it. -/
theorem Accounted.readsLine (h : Accounted grammar maxLineLength cache) {buffer : Buffer}
    {index : Nat} {outcome : Outcome (LineCache σ) Unit}
    (hread : ReadsLine cache buffer index outcome) :
    Accounted grammar maxLineLength outcome.state := by
  cases hread with
  | without => exact h
  | skipped hasks hlong => exact h.store hasks hlong
  | failed hasks => exact h.called hasks _
  | @tokenized asked _ hasks hshort hanswer =>
    exact (h.called hasks _).store hasks
      ⟨hshort, asked, cache.stateBefore index, hasks, List.mem_cons_self, hanswer⟩

theorem Accounted.truncate (h : Accounted grammar maxLineLength cache) (count : Nat) :
    Accounted grammar maxLineLength (cache.truncate count) where
  setup := h.setup.trans ⟨rfl, rfl⟩
  dense := h.dense.truncate count
  justified := by
    intro index text line hentry
    by_cases hindex : index < count
    · rw [cache.entryAt_truncate hindex] at hentry
      exact (h.justified index text line hentry).mono ⟨rfl, rfl⟩ (List.Subset.refl _)
    · -- below the cut nothing is left
      have hcut : index < (cache.truncate count).size :=
        (List.getElem?_eq_some_iff.mp (congrArg Prod.fst hentry)).1
      rw [size_truncate] at hcut
      omega
  counted := h.counted
  inert := by
    intro hnone
    simp only [LineCache.truncate, h.inert hnone, List.take_nil]

theorem kept_accounted : Kept (Accounted grammar maxLineLength) where
  reparseLine := fun cache buffer index h => h.readsLine (cache.readsLine buffer index)
  truncate := fun _ count h => h.truncate count

/-! ## Faults -/

theorem Rereads.failsByGrammar {buffer : Buffer} {outcome : Outcome (LineCache σ) Unit}
    {first last : Nat} (h : Rereads cache outcome buffer first last) : outcome.FailsByGrammar := by
  intro fault hfault
  rcases h with ⟨hok, _⟩ | ⟨_, error, _, _, herror, _⟩
  · rw [hok] at hfault
    cases hfault
  · exact ⟨error, Except.error.inj (hfault.symm.trans herror)⟩

/-- Every line that a range has read follows the cached ones, or is one of them. -/
theorem failsByGrammar_reparseRange (hdense : cache.Dense) (buffer : Buffer) (range : Range) :
    (cache.reparseRange buffer range).FailsByGrammar := by
  cases hgrammar : cache.grammar with
  | none =>
    rw [reparseRange_of_none hgrammar]
    exact Outcome.failsByGrammar_ok _ _
  | some asked => exact (rereads_reparseRange hgrammar hdense buffer range).failsByGrammar

theorem failsByGrammar_reparseFrom (hdense : cache.Dense) (buffer : Buffer) (first : Nat) :
    (cache.reparseFrom buffer first).FailsByGrammar := by
  rw [reparseFrom_eq]
  refine Outcome.FailsByGrammar.andThen ?_ fun _ => Outcome.failsByGrammar_ok _ _
  unfold widenedFrom
  split
  · exact failsByGrammar_reparseRange hdense buffer _
  · exact Outcome.failsByGrammar_ok _ _

theorem failsByGrammar_applySorted [BEq σ] (hdense : cache.Dense) (buffer : Buffer)
    (edits : List Edit) : (cache.applySorted buffer edits).FailsByGrammar := by
  induction edits generalizing cache with
  | nil => exact Outcome.failsByGrammar_ok _ _
  | cons edit later ih =>
    rw [applySorted]
    have hread : (cache.reparseEdit buffer edit).state.Dense :=
      kept_dense.reparseRange hdense buffer _
    refine Outcome.FailsByGrammar.andThen (failsByGrammar_reparseRange hdense buffer _) fun _ => ?_
    split
    · exact ih hread
    · exact failsByGrammar_reparseFrom hread buffer _

theorem failsByGrammar_applyChanges [BEq σ] (hdense : cache.Dense) (buffer : Buffer)
    {edits : List Edit} (hsorted : Edit.Descending edits) :
    (cache.applyChanges buffer edits).FailsByGrammar := by
  cases hgrammar : cache.grammar with
  | none =>
    rw [applyChanges, if_pos (by simp [hgrammar])]
    exact Outcome.failsByGrammar_ok _ _
  | some asked =>
    rw [applyChanges_of_descending hgrammar hsorted]
    exact failsByGrammar_applySorted hdense buffer edits

theorem failsByGrammar_scopeAt (hdense : cache.Dense) (buffer : Buffer) (position : Position) :
    (cache.scopeAt buffer position).FailsByGrammar := by
  unfold scopeAt
  split
  · exact Outcome.failsByGrammar_ok _ _
  · refine Outcome.FailsByGrammar.andThen ?_ fun _ => Outcome.failsByGrammar_ok _ _
    unfold ensureLine
    split
    · exact Outcome.failsByGrammar_ok _ _
    · exact failsByGrammar_reparseRange hdense buffer _

theorem failsByGrammar_perform [BEq σ] (hdense : cache.Dense) {operation : CacheOperation}
    (hsorted : operation.Sorted) : (cache.perform operation).FailsByGrammar := by
  cases operation with
  | refresh buffer => exact failsByGrammar_reparseRange cache.dense_clear buffer _
  | reparseRange buffer range => exact failsByGrammar_reparseRange hdense buffer range
  | applyChanges buffer edits => exact failsByGrammar_applyChanges hdense buffer hsorted
  | scopeAt buffer position =>
    exact (failsByGrammar_scopeAt hdense buffer position).andThen
      fun _ => Outcome.failsByGrammar_ok _ _

end LineCache

/-- A document sorts the batches that it hands to its cache. -/
theorem Document.failsByGrammar_onEdits {σ : Type} [BEq σ] (document : Document σ)
    (edits : List Edit) : (document.onEdits edits).FailsByGrammar :=
  LineCache.failsByGrammar_applyChanges document.dense _ (Edit.descending_sortDescending edits)

/-! ## Runs -/

namespace LineCache

variable {σ : Type}

/-- The account of a run. Whatever is done to a cache in whatever order, with a document of its own
for each operation and whether operations fail or not: there are as many texts as lines; a line is
skipped exactly if its text is too long, and otherwise it is what the grammar answered when it was
asked about that text; the counter is the number of calls that were answered; without a grammar
nothing is cached and all queries are answered with nothing, where they were asked; every operation
that follows, with its edits in order, ends well or with a fault of the grammar, so it neither
leaves a gap nor writes past the end of a list; and documents hand their edits over in order. -/
theorem performed_accounted [BEq σ] (grammar : Option (Grammar σ)) (maxLineLength : Nat)
    (operations : List CacheOperation) :
    let cache := (untokenized grammar maxLineLength).performed operations
    cache.lines.length = cache.snapshots.length ∧
      (∀ index text, cache.snapshot? index = some text →
        (cache.line? index = some .skipped ↔ maxLineLength < text.byteLength) ∧
        (text.byteLength ≤ maxLineLength → ∃ asked prior line,
          grammar = some asked ∧ ⟨text, prior⟩ ∈ cache.calls ∧
            asked.tokenizeLine text prior = .ok line ∧
            cache.line? index = some (.tokenized line))) ∧
      cache.tokenizedLines = cache.answeredCalls ∧
      (grammar = none → cache.isEmpty ∧
        ∀ buffer position, cache.scopeAt buffer position = .ok cache (.empty position)) ∧
      (∀ operation, operation.Sorted → (cache.perform operation).FailsByGrammar) ∧
      ∀ (document : Document σ) (edits : List Edit),
        (document.onEdits edits).FailsByGrammar := by
  intro cache
  have haccount : Accounted grammar maxLineLength cache :=
    kept_accounted.performed (accounted_untokenized grammar maxLineLength) operations
  have hlimit : maxLineLength = cache.maxLineLength := haccount.setup.maxLineLength
  have hgrammar : grammar = cache.grammar := haccount.setup.grammar
  refine ⟨haccount.dense, ?_, haccount.counted, ?_,
    fun _ hsorted => failsByGrammar_perform haccount.dense hsorted,
    Document.failsByGrammar_onEdits⟩
  · intro index text hsnapshot
    obtain ⟨line, hline⟩ := haccount.dense.exists_line hsnapshot
    have hjustified := haccount.justified index text line (Prod.ext hline hsnapshot)
    rw [hline, hlimit, hgrammar]
    cases line with
    | skipped =>
      have hlong : cache.maxLineLength < _ := hjustified
      exact ⟨⟨fun _ => hlong, fun _ => rfl⟩, fun hshort => absurd hlong (Nat.not_lt.mpr hshort)⟩
    | tokenized tokens =>
      obtain ⟨hshort, asked, prior, hasks, hcalled, hanswer⟩ := hjustified
      have hread : some (CachedLine.tokenized tokens) ≠ some .skipped := by simp
      refine ⟨⟨fun hskipped => absurd hskipped hread,
        fun hlong => absurd hlong (Nat.not_lt.mpr hshort)⟩, fun _ => ?_⟩
      exact ⟨asked, prior, tokens, hasks, List.mem_reverse.mpr hcalled, hanswer, rfl⟩
  · intro hnone
    have hasks : cache.grammar = none := hgrammar ▸ hnone
    refine ⟨by rw [isEmpty, haccount.inert hasks]; rfl, fun buffer position => ?_⟩
    rw [scopeAt, if_pos (by rw [hasks]; rfl)]

end LineCache

end ScopeTracker
