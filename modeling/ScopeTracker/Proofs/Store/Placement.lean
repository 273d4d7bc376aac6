import ScopeTracker.Proofs.Store.Runs

/-!
# Where documents are kept

A document with a grammar is kept in the table of the tracked ones, any other in the table of the
untracked ones, where it has nothing cached. Every operation of a store puts a document back into
the table where it was or, when a grammar was found for it anew, where it belongs now.

Main statement: after any run no document is in both tables or in the wrong one, each table answers
for its documents, and nothing but a reload moves a document that it is not about
(`Reached.placement`).
-/

namespace ScopeTracker

/-! ## Tables -/

namespace UriTable

variable {α : Type} {table : UriTable α} {uri other : Uri} {value : α}

theorem mem_keys : uri ∈ table.keys ↔ table.contains uri = true := by
  induction table with
  | nil => simp [keys, contains, get?]
  | cons entry rest ih =>
    simp only [keys, List.map_cons, List.mem_cons, contains, get?_cons] at ih ⊢
    rw [ih]
    by_cases h : uri = entry.1 <;> simp [h]

theorem keys_erase : (table.erase uri).keys = table.keys.filter (· ≠ uri) := by
  simp only [keys, erase, List.filter_map]
  rfl

theorem erase_of_get?_eq_none (h : table.get? uri = none) : table.erase uri = table := by
  have habsent : uri ∉ table.keys := by
    rw [mem_keys, contains, h]
    exact Bool.false_ne_true
  refine List.filter_eq_self.mpr fun entry hentry => decide_eq_true ?_
  rintro rfl
  exact habsent (List.mem_map_of_mem hentry)

theorem nodup_keys_erase (h : table.keys.Nodup) : (table.erase uri).keys.Nodup := by
  rw [keys_erase]
  exact h.filter _

theorem nodup_keys_put (h : table.keys.Nodup) (uri : Uri) (value : α) :
    (table.put uri value).keys.Nodup := by
  show (uri :: (table.erase uri).keys).Nodup
  rw [List.nodup_cons]
  refine ⟨?_, nodup_keys_erase h⟩
  simp [keys_erase]

end UriTable

/-! ## Documents -/

namespace Document

variable {σ : Type} {document : Document σ} {track : Bool}

/-- The documents that belong to a table: those with a grammar are tracked, those without one are
not, and have nothing cached. -/
def Belongs (document : Document σ) : Bool → Prop
  | true => document.cache.grammar.isSome
  | false => document.cache.grammar = none ∧ document.cache.isEmpty

theorem Belongs.isSome_grammar (h : document.Belongs track) :
    document.cache.grammar.isSome = track := by
  cases track with
  | true => exact h
  | false => simp [h.1]

/-- Reading a whole text keeps the grammar, and caches nothing if there is none. -/
theorem belongs_refresh (document : Document σ) :
    document.refresh.state.Belongs document.cache.grammar.isSome := by
  have setup := LineCache.setup_refresh document.cache document.buffer
  cases hgrammar : document.cache.grammar with
  | none =>
    show (document.cache.refresh document.buffer).state.grammar = none ∧
      (document.cache.refresh document.buffer).state.isEmpty
    rw [LineCache.refresh_of_none hgrammar]
    exact ⟨hgrammar, rfl⟩
  | some grammar =>
    show (document.cache.refresh document.buffer).state.grammar.isSome
    rw [← setup.grammar, hgrammar]
    rfl

theorem belongs_setGrammar (document : Document σ) (grammar : Option (Grammar σ))
    (maxLineLength : Nat) :
    (document.setGrammar grammar maxLineLength).state.Belongs grammar.isSome :=
  belongs_refresh
    { document with
      cache := .untokenized grammar maxLineLength
      dense := LineCache.dense_untokenized grammar maxLineLength }

theorem belongs_create (text : Text) (languageId : String) (version : Int)
    (grammar : Option (Grammar σ)) (maxLineLength : Nat) :
    (create text languageId version grammar maxLineLength).state.Belongs grammar.isSome :=
  belongs_refresh
    { buffer := .ofText text
      cache := .untokenized grammar maxLineLength
      languageId
      version
      dense := LineCache.dense_untokenized grammar maxLineLength }

theorem Belongs.replaceText (h : document.Belongs track) (text : Text) :
    (document.replaceText text).state.Belongs track := by
  have hrefresh := belongs_refresh { document with buffer := .ofText text }
  rwa [h.isSome_grammar] at hrefresh

theorem Belongs.onEdits [BEq σ] (h : document.Belongs track) (edits : List Edit) :
    (document.onEdits edits).state.Belongs track := by
  have setup := setup_onEdits document edits
  cases track with
  | true =>
    show (document.onEdits edits).state.cache.grammar.isSome
    rw [← setup.grammar]
    exact h
  | false =>
    have hsame : (document.onEdits edits).state.cache = document.cache := by
      show (document.cache.applyChanges _ _).state = _
      rw [LineCache.applyChanges, if_pos (by simp [h.1])]
      rfl
    rwa [Belongs, hsame]

theorem Belongs.applyContentChange [BEq σ] (h : document.Belongs track) (change : ContentChange) :
    (document.applyContentChange change.range change.text).state.Belongs track := by
  cases hrange : change.range with
  | none => exact h.replaceText change.text
  | some range => exact h.onEdits _

theorem Belongs.follow [BEq σ] (h : document.Belongs track) (changes : List ContentChange) :
    (document.follow changes).Belongs track := by
  induction changes generalizing document with
  | nil => exact h
  | cons change later ih => exact ih (h.applyContentChange change)

theorem Belongs.scopeAt (h : document.Belongs track) (position : Position) :
    (document.scopeAt position).state.Belongs track := by
  have setup := LineCache.setup_scopeAt document.cache document.buffer position
  cases track with
  | true =>
    show (document.cache.scopeAt document.buffer position).state.grammar.isSome
    rw [← setup.grammar]
    exact h
  | false =>
    have hsame : (document.scopeAt position).state.cache = document.cache := by
      show (document.cache.scopeAt document.buffer position).state = _
      rw [LineCache.scopeAt_of_none h.1]
      rfl
    rwa [Belongs, hsame]

end Document

/-! ## Stores -/

/-- The URI that an event is about. A reload is about all documents. -/
def StoreEvent.uri? : StoreEvent → Option Uri
  | opened uri _ _ _ | changed uri _ _ | asked uri _ | closed uri => some uri
  | reloaded => none

namespace Store

variable {σ : Type} {store after : Store σ} {uri other : Uri} {document : Document σ}
  {track : Bool}

/-- The table of the tracked or of the untracked documents. -/
def table (store : Store σ) : Bool → UriTable (Document σ)
  | true => store.tracked
  | false => store.untracked

/-- Each table holds a document once, no document is in both, and each is where it belongs. -/
structure WellPlaced (store : Store σ) : Prop where
  nodup : ∀ track, (store.table track).keys.Nodup
  apart : ∀ uri, ¬ (store.tracked.contains uri ∧ store.untracked.contains uri)
  belongs : ∀ track uri document, (store.table track).get? uri = some document →
    document.Belongs track

theorem table_insert (store : Store σ) (uri : Uri) (document : Document σ) (track track' : Bool) :
    (store.insert uri document track).table track' =
      if track' = track then (store.table track').put uri document else store.table track' := by
  cases track <;> cases track' <;> rfl

theorem table_close (store : Store σ) (uri : Uri) (track : Bool) :
    (store.close uri).1.table track = (store.table track).erase uri := by
  cases track <;> rfl

theorem WellPlaced.get?_other_table (h : store.WellPlaced) {track : Bool}
    (hfind : (store.table track).get? uri = some document) :
    (store.table !track).get? uri = none := by
  have hapart := h.apart uri
  have hcontains : (store.table track).contains uri = true := by
    rw [UriTable.contains, hfind]
    rfl
  cases track with
  | true => simpa [table, UriTable.contains] using fun hother => hapart ⟨hcontains, hother⟩
  | false => simpa [table, UriTable.contains] using fun hother => hapart ⟨hother, hcontains⟩

theorem wellPlaced_empty : (empty : Store σ).WellPlaced where
  nodup := fun track => by cases track <;> exact List.nodup_nil
  apart := fun _ h => by simp [empty, UriTable.contains, UriTable.get?] at h
  belongs := fun track _ _ h => by cases track <;> cases h

theorem WellPlaced.insert (h : store.WellPlaced) (hroom : (store.table !track).get? uri = none)
    (hbelongs : document.Belongs track) : (store.insert uri document track).WellPlaced where
  nodup := by
    intro track'
    rw [table_insert]
    split
    · exact UriTable.nodup_keys_put (h.nodup track') uri document
    · exact h.nodup track'
  apart := by
    intro other hboth
    by_cases hother : other = uri
    · cases track <;> simp_all [Store.insert, table, UriTable.contains]
    · apply h.apart other
      cases track <;> simpa [Store.insert, UriTable.contains, UriTable.get?_put, hother] using hboth
  belongs := by
    intro track' other found hfound
    rw [table_insert] at hfound
    split at hfound
    · rename_i htrack
      rw [UriTable.get?_put] at hfound
      split at hfound
      · rw [← Option.some.inj hfound, htrack]
        exact hbelongs
      · exact h.belongs _ _ _ hfound
    · exact h.belongs _ _ _ hfound

theorem WellPlaced.close (h : store.WellPlaced) (uri : Uri) : (store.close uri).1.WellPlaced where
  nodup := by
    intro track
    rw [table_close]
    exact UriTable.nodup_keys_erase (h.nodup track)
  apart := by
    intro other hboth
    by_cases hother : other = uri
    · simp [Store.close, UriTable.contains, UriTable.get?_erase, hother] at hboth
    · apply h.apart other
      simpa [Store.close, UriTable.contains, UriTable.get?_erase, hother] using hboth
  belongs := by
    intro track other found hfound
    rw [table_close, UriTable.get?_erase] at hfound
    split at hfound
    · cases hfound
    · exact h.belongs _ _ _ hfound

/-! ## One event -/

/-- What an operation about one document can make of a store. -/
inductive Touched (store : Store σ) (uri : Uri) : Store σ → Prop where
  | kept : Touched store uri store
  | put {document : Document σ} {track : Bool} (hroom : (store.table !track).get? uri = none)
      (hbelongs : document.Belongs track) : Touched store uri (store.insert uri document track)
  | closed : Touched store uri (store.close uri).1

theorem Touched.wellPlaced (h : Touched store uri after) (hplaced : store.WellPlaced) :
    after.WellPlaced := by
  cases h with
  | kept => exact hplaced
  | put hroom hbelongs => exact hplaced.insert hroom hbelongs
  | closed => exact hplaced.close uri

theorem Touched.get?_of_ne (h : Touched store uri after) (hother : other ≠ uri) (track : Bool) :
    (after.table track).get? other = (store.table track).get? other := by
  cases h with
  | kept => rfl
  | put _ _ =>
    rw [table_insert]
    split
    · rw [UriTable.get?_put, if_neg hother]
    · rfl
  | closed => rw [table_close, UriTable.get?_erase, if_neg hother]

theorem WellPlaced.touched_withTracked {α : Type} (h : store.WellPlaced) (uri : Uri)
    {operation : Document σ → Document σ × α}
    (hkeeps : ∀ document, document.Belongs true → (operation document).1.Belongs true) :
    Touched store uri (store.withTracked uri operation).1 := by
  cases hfind : store.tracked.get? uri with
  | none =>
    rw [withTracked_of_none hfind]
    exact .kept
  | some document =>
    have hfind : (store.table true).get? uri = some document := hfind
    rw [withTracked_of_some hfind]
    exact .put (h.get?_other_table hfind) (hkeeps document (h.belongs true uri document hfind))

theorem WellPlaced.touched_withOpen {α : Type} (h : store.WellPlaced) (uri : Uri)
    {operation : Document σ → Document σ × α}
    (hkeeps : ∀ document track, document.Belongs track → (operation document).1.Belongs track) :
    Touched store uri (store.withOpen uri operation).1 := by
  cases htracked : store.tracked.get? uri with
  | some document =>
    rw [withOpen, htracked]
    exact h.touched_withTracked uri fun document => hkeeps document true
  | none =>
    cases huntracked : store.untracked.get? uri with
    | some document =>
      have hroom : (store.table !false).get? uri = none := htracked
      rw [withOpen, htracked, huntracked]
      exact .put hroom (hkeeps document false (h.belongs false uri document huntracked))
    | none =>
      rw [withOpen, htracked, huntracked]
      exact .kept

theorem WellPlaced.touched_openDocument (h : store.WellPlaced) (uri : Uri) (text : Text)
    (languageId : String) (version : Int) (resolve : GrammarResolver σ) (maxLineLength : Nat) :
    Touched store uri
      (store.openDocument uri text languageId version resolve maxLineLength).state := by
  cases hfind : store.find? uri with
  | some document =>
    rw [openDocument_of_some hfind]
    refine h.touched_withOpen uri fun document track hbelongs => ?_
    have hversion : ({ document with version } : Document σ).Belongs track := hbelongs
    exact hversion.replaceText text
  | none =>
    obtain ⟨htracked, huntracked⟩ := Option.or_eq_none_iff.mp hfind
    rw [openDocument_of_none hfind]
    dsimp only
    split
    · refine .put ?_ (Document.belongs_create text languageId version _ maxLineLength)
      cases (resolve languageId uri.path).isSome with
      | true => exact huntracked
      | false => exact htracked
    · exact .kept

/-- Every event but a reload is about one document. -/
theorem Step.touched [BEq σ] {event : StoreEvent} (hstep : Step store event after)
    (hplaced : store.WellPlaced) (huri : event.uri? = some uri) : Touched store uri after := by
  cases hstep with
  | opened other text languageId version resolve maxLineLength =>
    obtain rfl : other = uri := Option.some.inj huri
    exact hplaced.touched_openDocument other text languageId version resolve maxLineLength
  | changed other version changes =>
    obtain rfl : other = uri := Option.some.inj huri
    exact hplaced.touched_withOpen other fun document track hbelongs => hbelongs.follow changes
  | asked other position =>
    obtain rfl : other = uri := Option.some.inj huri
    exact hplaced.touched_withTracked other fun document hbelongs => hbelongs.scopeAt position
  | reloaded order resolve maxLineLength _ => cases huri
  | closed other =>
    obtain rfl : other = uri := Option.some.inj huri
    exact .closed

/-- A well placed document is taken out of the store with its table, as if it were closed. -/
theorem WellPlaced.remove?_eq (h : store.WellPlaced) (hfind : store.find? uri = some document) :
    store.remove? uri = some (document, (store.close uri).1) := by
  cases htracked : store.tracked.get? uri with
  | some tracked =>
    have hplace : (store.table true).get? uri = some tracked := htracked
    have huntracked : store.untracked.get? uri = none := h.get?_other_table hplace
    rw [find?, htracked, Option.some_or] at hfind
    rw [remove?, htracked, Store.close, UriTable.erase_of_get?_eq_none huntracked,
      Option.some.inj hfind]
  | none =>
    rw [find?, htracked, Option.none_or] at hfind
    rw [remove?, htracked, hfind, Store.close, UriTable.erase_of_get?_eq_none htracked]
    rfl

/-- A reload takes a document out of its table before it puts it into the one where it belongs
now. -/
theorem WellPlaced.reloadDocument (h : store.WellPlaced) (uri : Uri) (resolve : GrammarResolver σ)
    (maxLineLength : Nat) : (store.reloadDocument uri resolve maxLineLength).1.WellPlaced := by
  cases hfind : store.find? uri with
  | none =>
    simp only [Store.reloadDocument, remove?_of_none hfind]
    exact h
  | some document =>
    simp only [Store.reloadDocument, h.remove?_eq hfind]
    refine (h.close uri).insert ?_ (document.belongs_setGrammar _ maxLineLength)
    rw [table_close, UriTable.get?_erase, if_pos rfl]

theorem WellPlaced.reloadInOrder (h : store.WellPlaced) (order : List Uri)
    (resolve : GrammarResolver σ) (maxLineLength : Nat) :
    (reloadInOrder resolve maxLineLength store order).1.WellPlaced := by
  induction order generalizing store with
  | nil => exact h
  | cons uri rest ih => exact ih (h.reloadDocument uri resolve maxLineLength)

theorem WellPlaced.step [BEq σ] {event : StoreEvent} (h : store.WellPlaced)
    (hstep : Step store event after) : after.WellPlaced := by
  cases huri : event.uri? with
  | some uri => exact (hstep.touched h huri).wellPlaced h
  | none =>
    cases hstep with
    | reloaded order resolve maxLineLength _ => exact h.reloadInOrder order resolve maxLineLength
    | _ => cases huri

/-! ## Runs -/

theorem Reached.wellPlaced [BEq σ] {events : List StoreEvent} (h : Reached events store) :
    store.WellPlaced := by
  induction h with
  | empty => exact wellPlaced_empty
  | step _ hstep ih => exact ih.step hstep

/-- The tracked documents are those that there are answers for. -/
theorem isSome_withTracked {α : Type} (store : Store σ) (uri : Uri)
    (operation : Document σ → Document σ × α) :
    (store.withTracked uri operation).2.isSome = store.isTracked uri := by
  rw [isTracked, UriTable.contains]
  cases hfind : store.tracked.get? uri with
  | none => rw [withTracked_of_none hfind]; rfl
  | some document => rw [withTracked_of_some hfind]; rfl

theorem isSome_withOpen {α : Type} (store : Store σ) (uri : Uri)
    (operation : Document σ → Document σ × α) :
    (store.withOpen uri operation).2.isSome = store.isOpen uri := by
  rw [isOpen_eq_isSome]
  cases hfind : store.find? uri with
  | none => rw [withOpen_of_none hfind]; rfl
  | some document =>
    obtain ⟨_, _, heq⟩ := withOpen_of_some hfind operation
    rw [heq]
    rfl

theorem isOpen_close (store : Store σ) (uri other : Uri) :
    (store.close uri).1.isOpen other = (other ≠ uri && store.isOpen other) := by
  rw [isOpen_eq_isSome, isOpen_eq_isSome, find?_close]
  by_cases hother : other = uri <;> simp [hother]

/-- What holds after any run, whatever succeeded and failed on the way. The tables are well placed:
no document is in both, the tracked ones have a grammar, the untracked ones have neither a grammar
nor anything cached. Operations are carried out on exactly the tracked, and on exactly the open
documents. Closing says whether the document was tracked, and then it is not open. And whatever
comes next, if it is no reload, leaves the documents that it is not about in their tables. -/
theorem Reached.placement [BEq σ] {events : List StoreEvent} (h : Reached events store) :
    store.WellPlaced ∧
      (∀ (α : Type) uri (operation : Document σ → Document σ × α),
        (store.withTracked uri operation).2.isSome = store.isTracked uri ∧
          (store.withOpen uri operation).2.isSome = store.isOpen uri) ∧
      (∀ uri, (store.close uri).2 = store.isTracked uri ∧
        (store.close uri).1.isOpen uri = false) ∧
      ∀ event after uri other, Step store event after → event.uri? = some uri → other ≠ uri →
        after.isTracked other = store.isTracked other ∧
          after.untracked.contains other = store.untracked.contains other := by
  have hplaced := h.wellPlaced
  refine ⟨hplaced, ?_, ?_, ?_⟩
  · intro α uri operation
    exact ⟨isSome_withTracked store uri operation, isSome_withOpen store uri operation⟩
  · intro uri
    refine ⟨rfl, ?_⟩
    rw [isOpen_close]
    simp
  · intro event after uri other hstep huri hother
    have hsame := (hstep.touched hplaced huri).get?_of_ne hother
    exact ⟨congrArg Option.isSome (hsame true), congrArg Option.isSome (hsame false)⟩

/-- A reload gives one document a grammar and takes that of another one away. Then the first is
opened again with a text that cannot be tokenized. -/
theorem placement_swapped :
    let gains : Uri := ⟨"file", none, "/gains", none, none⟩
    let loses : Uri := ⟨"file", none, "/loses", none, none⟩
    let only (path : String) : GrammarResolver Bool := fun _ other =>
      if other = path then some .comments else none
    let opened := ((empty.openDocument gains ['a'] "toy" 1 (only "/loses") 20).state.openDocument
      loses ['b'] "toy" 1 (only "/loses") 20).state
    let store := (reloadInOrder (only "/gains") 20 opened [gains, loses]).1
    let after := (store.openDocument gains ['!'] "toy" 2 (only "/gains") 20).state
    opened.isTracked loses = true ∧ store.WellPlaced ∧ store.isTracked gains = true ∧
      (store.close loses).2 = false ∧ (store.close loses).1.isOpen loses = false ∧
      after.untracked.contains loses = true := by
  intro gains loses only opened store after
  have hopened : Reached [.opened gains ['a'] "toy" 1, .opened loses ['b'] "toy" 1] opened :=
    (Reached.empty.step (.opened gains _ _ _ _ _)).step (.opened loses _ _ _ _ _)
  have hstore : Reached _ store :=
    hopened.step (.reloaded [gains, loses] (only "/gains") 20 (by decide +kernel))
  obtain ⟨hplaced, _, hclosed, hframe⟩ := hstore.placement
  have hafter := (hframe _ after gains loses (.opened gains _ _ _ _ _) rfl (by decide)).2
  obtain ⟨htracked, hgone⟩ := hclosed loses
  exact ⟨by decide +kernel, hplaced, by decide +kernel, htracked.trans (by decide +kernel), hgone,
    hafter.trans (by decide +kernel)⟩

end Store

end ScopeTracker
