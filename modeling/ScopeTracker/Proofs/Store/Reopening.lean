import ScopeTracker.Proofs.Store.Openings

/-!
# Opening a document again

A document is put into a table when it is opened and again at each reload, by the grammar that is
found for it then. Opening a document that is open is neither of the two. It takes the text and the
version and stays in its table, under the language id that it was opened with first. So a document
that had no grammar is not tracked when it is opened again under a language id that has one, nor
does a later reload look for that grammar.

Main statement: a document for which a grammar is found is tracked after it was opened, unless it
was open and not tracked before, and it stays untracked then until a reload or its closing
(`performed_openDocument_tracked_iff`).
-/

namespace ScopeTracker

variable {σ : Type}

/-- An operation that may take a document out of its table. -/
def StoreOperation.Moves (uri : Uri) : StoreOperation σ → Prop
  | reloaded _ _ _ => True
  | closed other => other = uri
  | _ => False

theorem StoreOperation.Closes.moves {uri : Uri} {operation : StoreOperation σ}
    (h : operation.Closes uri) : operation.Moves uri := by
  cases operation with
  | closed other => exact h
  | _ => exact h.elim

/-- A text that is put in place of the old one is tokenized as a whole. -/
theorem Document.whole_replaceText {document : Document σ} {grammar : Grammar σ} {text : Text}
    (hasks : document.cache.grammar = some grammar)
    (hok : (document.replaceText text).result = .ok ()) :
    Whole grammar document.cache.maxLineLength (document.replaceText text).state where
  setup :=
    have hstart : LineCache.SameSetup (.untokenized (some grammar) document.cache.maxLineLength)
        document.cache := ⟨hasks.symm, rfl⟩
    hstart.trans (LineCache.setup_refresh document.cache (.ofText text))
  complete := LineCache.complete_refresh hasks hok

namespace Store

variable {store : Store σ} {uri other : Uri} {document : Document σ}

/-- What a query about a position comes to. There is no answer if the document is not tracked. -/
def answer? (store : Store σ) (uri : Uri) (position : Position) :
    Option (Except Fault TokenInfo) :=
  (store.withTracked uri fun document =>
    ((document.scopeAt position).state, (document.scopeAt position).result)).2

theorem answer?_eq (store : Store σ) (uri : Uri) (position : Position) :
    store.answer? uri position =
      (store.tracked.get? uri).map fun document => (document.scopeAt position).result := by
  cases hfind : store.tracked.get? uri with
  | none => simp only [answer?, withTracked_of_none hfind, Option.map_none]
  | some document => simp only [answer?, withTracked_of_some hfind, Option.map_some]

theorem get?_tracked_of_isTracked (h : store.isTracked uri) :
    store.tracked.get? uri = store.find? uri := by
  obtain ⟨document, hfind⟩ := Option.isSome_iff_exists.mp h
  rw [hfind, find?_of_tracked hfind]

/-! ## Operations that keep a document in its table -/

theorem isTracked_withTracked {α : Type} (store : Store σ) (uri other : Uri)
    (operation : Document σ → Document σ × α) :
    (store.withTracked uri operation).1.isTracked other = store.isTracked other := by
  rw [isTracked, isTracked, UriTable.contains, UriTable.contains, get?_tracked_withTracked]
  split
  · rename_i hother
    rw [Option.isSome_map, hother]
  · rfl

theorem isTracked_withOpen {α : Type} (store : Store σ) (uri other : Uri)
    (operation : Document σ → Document σ × α) :
    (store.withOpen uri operation).1.isTracked other = store.isTracked other := by
  cases htracked : store.tracked.get? uri with
  | some document =>
    rw [withOpen, htracked]
    exact store.isTracked_withTracked uri other operation
  | none =>
    cases huntracked : store.untracked.get? uri with
    | some document =>
      rw [withOpen, htracked, huntracked]
      rfl
    | none => rw [withOpen, htracked, huntracked]

theorem isTracked_insert (store : Store σ) (uri other : Uri) (document : Document σ)
    (track : Bool) :
    (store.insert uri document track).isTracked other =
      if other = uri ∧ track then true else store.isTracked other := by
  cases track with
  | false => simp [insert, isTracked]
  | true =>
    simp only [insert, isTracked, UriTable.contains, if_true, UriTable.get?_put, and_true]
    split <;> rfl

/-- A document is not moved by being opened, if it is open, nor by the opening of another one. -/
theorem isTracked_openDocument (hopen : other = uri → store.isOpen uri) (text : Text)
    (languageId : String) (version : Int) (resolve : GrammarResolver σ) (maxLineLength : Nat) :
    (store.openDocument uri text languageId version resolve maxLineLength).state.isTracked other =
      store.isTracked other := by
  cases hfind : store.find? uri with
  | some document =>
    rw [openDocument_of_some hfind]
    exact store.isTracked_withOpen uri other _
  | none =>
    have hother : other ≠ uri := by
      intro heq
      have := hopen heq
      rw [isOpen_eq_isSome, hfind] at this
      cases this
    rw [openDocument_of_none hfind]
    dsimp only
    split
    · rw [isTracked_insert, if_neg fun h => hother h.1]
    · rfl

theorem isTracked_carryOut [BEq σ] {operation : StoreOperation σ} (hopen : store.isOpen uri)
    (hstays : ¬ operation.Moves uri) :
    (store.carryOut operation).isTracked uri = store.isTracked uri := by
  cases operation with
  | opened other text languageId version resolve maxLineLength =>
    exact isTracked_openDocument (fun heq => heq ▸ hopen) text languageId version resolve _
  | changed other version changes => exact store.isTracked_withOpen other uri _
  | asked other position => exact store.isTracked_withTracked other uri _
  | reloaded order resolve maxLineLength => exact absurd trivial hstays
  | closed other =>
    have hother : uri ≠ other := fun heq => hstays heq.symm
    rw [carryOut, close, isTracked, UriTable.contains, UriTable.get?_erase, if_neg hother]
    rfl

/-- An open document stays in its table until it is closed or the grammars are reloaded. -/
theorem isTracked_foldl_carryOut [BEq σ] {operations : List (StoreOperation σ)}
    (hopen : store.isOpen uri) (hstays : ∀ operation ∈ operations, ¬ operation.Moves uri) :
    (operations.foldl carryOut store).isTracked uri = store.isTracked uri := by
  induction operations generalizing store with
  | nil => rfl
  | cons operation later ih =>
    obtain ⟨hfirst, hlater⟩ := List.forall_mem_cons.mp hstays
    have hopen' : (store.carryOut operation).isOpen uri :=
      (isOpen_carryOut store operation uri).mpr (.inr ⟨hopen, fun h => hfirst h.moves⟩)
    rw [List.foldl_cons, ih hopen' hlater, isTracked_carryOut hopen hfirst]

/-! ## Opening -/

theorem wellPlaced_carryOut [BEq σ] (h : store.WellPlaced) (operation : StoreOperation σ) :
    (store.carryOut operation).WellPlaced := by
  cases operation with
  | opened uri text languageId version resolve maxLineLength =>
    exact (h.touched_openDocument uri text languageId version resolve maxLineLength).wellPlaced h
  | changed uri version changes =>
    exact (h.touched_withOpen uri fun _ _ hbelongs => hbelongs.follow changes).wellPlaced h
  | asked uri position =>
    exact (h.touched_withTracked uri fun _ hbelongs => hbelongs.scopeAt _).wellPlaced h
  | reloaded order resolve maxLineLength => exact h.reloadInOrder order resolve maxLineLength
  | closed uri => exact h.close uri

theorem wellPlaced_performed [BEq σ] (operations : List (StoreOperation σ)) :
    (performed operations).WellPlaced := by
  have hrun : ∀ store : Store σ, store.WellPlaced →
      (operations.foldl carryOut store).WellPlaced := by
    induction operations with
    | nil => exact fun _ h => h
    | cons operation later ih => exact fun _ h => ih _ (wellPlaced_carryOut h operation)
  exact hrun _ wellPlaced_empty

variable {text : Text} {languageId : String} {version : Int} {resolve : GrammarResolver σ}
  {maxLineLength : Nat}

/-- A document that is not open yet and has a grammar is tracked, if its text can be tokenized. -/
theorem openDocument_of_closed (hclosed : store.find? uri = none)
    (hfound : (resolve languageId uri.path).isSome)
    (hok : (store.openDocument uri text languageId version resolve maxLineLength).result = .ok ()) :
    let after := (store.openDocument uri text languageId version resolve maxLineLength).state
    after.isTracked uri ∧ ∃ document grammar, after.find? uri = some document ∧
      document.buffer = .ofText text ∧ document.version = version ∧
      document.languageId = languageId ∧ resolve languageId uri.path = some grammar ∧
      document.Whole grammar maxLineLength := by
  intro after
  obtain ⟨grammar, hgrammar⟩ := Option.isSome_iff_exists.mp hfound
  have hopens := openDocument_of_none hclosed text languageId version resolve maxLineLength
  simp only [hgrammar, Option.isSome_some] at hopens
  rw [hopens] at hok
  have hafter : after = store.insert uri
      (Document.create text languageId version (some grammar) maxLineLength).state true := by
    simp only [after, hopens]
    exact if_pos hok
  refine ⟨?_, (Document.create text languageId version (some grammar) maxLineLength).state,
    grammar, ?_, rfl, rfl, rfl, hgrammar, Document.whole_create hok⟩
  · rw [hafter, isTracked_insert, if_pos ⟨rfl, rfl⟩]
  · rw [hafter, find?_of_tracked (UriTable.get?_put_self store.tracked uri _)]

/-- A document that is open takes the text and the version. It keeps its language id, its place
and its grammar, if it has one. -/
theorem openDocument_of_open (hplaced : store.WellPlaced) (hfind : store.find? uri = some document)
    (hok : (store.openDocument uri text languageId version resolve maxLineLength).result = .ok ()) :
    let after := (store.openDocument uri text languageId version resolve maxLineLength).state
    after.isTracked uri = store.isTracked uri ∧ ∃ reopened, after.find? uri = some reopened ∧
      reopened.buffer = .ofText text ∧ reopened.version = version ∧
      reopened.languageId = document.languageId ∧
      reopened.cache.grammar = document.cache.grammar ∧
      (store.isTracked uri → ∃ grammar, reopened.Whole grammar document.cache.maxLineLength) := by
  intro after
  have hopen : store.isOpen uri := by
    rw [isOpen_eq_isSome, hfind]
    rfl
  rw [openDocument_of_some hfind] at hok
  refine ⟨isTracked_openDocument (fun _ => hopen) _ _ _ _ _, _,
    (find?_openDocument_of_some hfind _ _ _ _ _ _).trans (if_pos rfl), rfl, rfl, rfl,
    (LineCache.setup_refresh document.cache (.ofText text)).grammar.symm, ?_⟩
  intro htracked
  have hbelongs : document.Belongs true :=
    hplaced.belongs true uri document ((get?_tracked_of_isTracked htracked).trans hfind)
  obtain ⟨grammar, hgrammar⟩ := Option.isSome_iff_exists.mp hbelongs
  have hasks : ({ document with version } : Document σ).cache.grammar = some grammar := hgrammar
  exact ⟨grammar, Document.whole_replaceText hasks hok⟩

/-- A tracked document with all its lines tokenized answers as one that has just been opened. -/
theorem answers_of_whole {grammar : Grammar σ} {limit : Nat}
    (hfind : store.find? uri = some document)
    (hwhole : document.Whole grammar limit) (languageId : String) (version : Int)
    (htracked : store.isTracked uri) :
    ∃ grammar, document.cache.grammar = some grammar ∧
      document.AnswersAsOpened grammar document.cache.maxLineLength languageId version ∧
      ∀ position, store.answer? uri position = some (document.scopeAt position).result := by
  have hlimit : limit = document.cache.maxLineLength := hwhole.setup.maxLineLength
  refine ⟨grammar, hwhole.asks, hlimit ▸ hwhole.answersAsOpened languageId version, ?_⟩
  intro position
  rw [answer?_eq, get?_tracked_of_isTracked htracked, hfind, Option.map_some]

/-- Where a document stands after it was opened in any run, if a grammar is found for it and its
text can be tokenized. It has the text and the version, and it is tracked unless it was open and not
tracked. If it was open it keeps its language id and its grammar. So an untracked one stays
untracked until a reload or its closing, and a reload looks for the grammar of the language id that
it was opened with first. If it is tracked, every query is answered as on a document that has just
been opened with the text. -/
theorem performed_openDocument_tracked_iff [BEq σ] (operations : List (StoreOperation σ))
    (uri : Uri) (text : Text) (languageId : String) (version : Int) (resolve : GrammarResolver σ)
    (maxLineLength : Nat) (hfound : (resolve languageId uri.path).isSome)
    (hok : ((performed operations).openDocument uri text languageId version resolve
      maxLineLength).result = .ok ()) :
    let store := performed operations
    let after := (store.openDocument uri text languageId version resolve maxLineLength).state
    (after.isTracked uri ↔ (store.isOpen uri → store.isTracked uri)) ∧
      (∃ document, after.find? uri = some document ∧ document.buffer = .ofText text ∧
        document.version = version ∧
        (document.languageId, document.cache.grammar) =
          ((store.find? uri).map fun before => (before.languageId, before.cache.grammar)).getD
            (languageId, resolve languageId uri.path) ∧
        (after.isTracked uri → ∃ grammar, document.cache.grammar = some grammar ∧
          document.AnswersAsOpened grammar document.cache.maxLineLength languageId version ∧
          ∀ position, after.answer? uri position = some (document.scopeAt position).result)) ∧
      (¬ after.isTracked uri → ∀ later : List (StoreOperation σ),
        (∀ operation ∈ later, ¬ operation.Moves uri) →
          (later.foldl carryOut after).isTracked uri = false) := by
  intro store after
  cases hfind : store.find? uri with
  | none =>
    obtain ⟨htracked, document, grammar, hafter, hbuffer, hversion, hlanguage, hgrammar, hwhole⟩ :=
      openDocument_of_closed hfind hfound hok
    have hunopened : ¬ store.isOpen uri := by rw [isOpen_eq_isSome, hfind]; exact Bool.false_ne_true
    refine ⟨⟨fun _ hopen => absurd hopen hunopened, fun _ => htracked⟩,
      ⟨document, hafter, hbuffer, hversion, ?_, answers_of_whole hafter hwhole languageId version⟩,
      fun huntracked => absurd htracked huntracked⟩
    rw [hlanguage, hwhole.asks, ← hgrammar]
    rfl
  | some before =>
    have hopen : store.isOpen uri := by rw [isOpen_eq_isSome, hfind]; rfl
    obtain ⟨hsame, document, hafter, hbuffer, hversion, hlanguage, hgrammar, hwhole⟩ :=
      openDocument_of_open (wellPlaced_performed operations) hfind hok
    refine ⟨by rw [hsame]; exact ⟨fun h _ => h, fun h => h hopen⟩,
      ⟨document, hafter, hbuffer, hversion, by rw [hlanguage, hgrammar]; rfl, ?_⟩, ?_⟩
    · intro htracked
      obtain ⟨grammar, hwhole⟩ := hwhole (hsame ▸ htracked)
      exact answers_of_whole hafter hwhole languageId version htracked
    · intro huntracked later hlater
      have hopened : after.isOpen uri := by rw [isOpen_eq_isSome, hafter]; rfl
      rw [isTracked_foldl_carryOut hopened hlater]
      exact eq_false_of_ne_true huntracked

/-- A document that was opened under a language id without a grammar is opened again under one that
has a grammar. It is open and not tracked, whatever it is changed to. -/
theorem untracked_after_reopening :
    let uri : Uri := ⟨"file", none, "/a", none, none⟩
    let resolve : GrammarResolver Bool := fun languageId _ =>
      if languageId = "toy" then some .comments else none
    let store := performed [.opened uri ['1'] "plain" 1 resolve 20]
    let reopened := store.openDocument uri ['a'] "toy" 2 resolve 20
    (resolve "toy" uri.path).isSome ∧ reopened.result = .ok () ∧
      reopened.state.isOpen uri = true ∧ reopened.state.isTracked uri = false ∧
      ∀ version changes,
        (reopened.state.carryOut (.changed uri version changes)).isTracked uri = false := by
  intro uri resolve store reopened
  have hfound : (resolve "toy" uri.path).isSome := by decide
  have hok : reopened.result = .ok () := by decide +kernel
  obtain ⟨htracked, _, hstays⟩ := performed_openDocument_tracked_iff
    [.opened uri ['1'] "plain" 1 resolve 20] uri ['a'] "toy" 2 resolve 20 hfound hok
  have huntracked : ¬ reopened.state.isTracked uri := by
    rw [htracked]
    decide +kernel
  refine ⟨hfound, hok, by decide +kernel, eq_false_of_ne_true huntracked, ?_⟩
  intro version changes
  refine hstays huntracked [.changed uri version changes] fun operation hoperation => ?_
  obtain rfl := List.mem_singleton.mp hoperation
  exact id

/-- The same run goes on with a reload, which looks for the grammar of the language id of the first
opening. A document that is closed in between, or that is opened for the first time, is tracked. -/
theorem reopened_without_closing :
    let uri : Uri := ⟨"file", none, "/a", none, none⟩
    let resolve : GrammarResolver Bool := fun languageId _ =>
      if languageId = "toy" then some .comments else none
    let opened (languageId : String) : StoreOperation Bool :=
      .opened uri ['a'] languageId 1 resolve 20
    (performed [opened "plain", opened "toy", .reloaded [uri] resolve 20]).isTracked uri = false ∧
      (performed [opened "plain", .closed uri, opened "toy"]).isTracked uri = true ∧
      (performed [opened "toy"]).isTracked uri = true := by
  intro uri resolve opened
  exact ⟨by decide +kernel, by decide +kernel, by decide +kernel⟩

end Store

end ScopeTracker
