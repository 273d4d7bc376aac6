import ScopeTracker.Proofs.Store.Reload
import ScopeTracker.Server.Basic

/-!
# Which documents are open

To an editor a document is open from its opening to its closing, whatever the grammar makes of its
text. The store differs from that in one place: a document that is not open yet and whose text
cannot be tokenized is not put into a table at all. It is not open then, and the changes that
follow are passed over. A document that is open stays so when it is opened again, changed, asked
about or reloaded, and fails.

Main statements: after any run a document is open exactly if it was opened with a text that could
be tokenized and not closed since then (`performed_isOpen_iff`); what editors send to the server
are such runs (`Server.isOpen_taken_iff`).
-/

namespace ScopeTracker

variable {σ : Type}

/-- Something that is done to a store, with all that it is handed. -/
inductive StoreOperation (σ : Type) where
  | opened (uri : Uri) (text : Text) (languageId : String) (version : Int)
      (resolve : GrammarResolver σ) (maxLineLength : Nat)
  | changed (uri : Uri) (version : Int) (changes : List ContentChange)
  | asked (uri : Uri) (position : Utf16Position)
  | reloaded (order : List Uri) (resolve : GrammarResolver σ) (maxLineLength : Nat)
  | closed (uri : Uri)

namespace StoreOperation

/-- The operation opens a document, with any text. -/
def Opens (uri : Uri) : StoreOperation σ → Prop
  | opened other _ _ _ _ _ => other = uri
  | _ => False

/-- The operation opens a document with a text that the grammar found for it does not fail on. -/
def Creates (uri : Uri) : StoreOperation σ → Prop
  | opened other text languageId version resolve maxLineLength =>
    other = uri ∧ (Document.create text languageId version (resolve languageId other.path)
      maxLineLength).result = .ok ()
  | _ => False

def Closes (uri : Uri) : StoreOperation σ → Prop
  | closed other => other = uri
  | _ => False

theorem Creates.opens {uri : Uri} {operation : StoreOperation σ} (h : operation.Creates uri) :
    operation.Opens uri := by
  cases operation with
  | opened => exact h.1
  | _ => exact h

/-- Among the operations there is one of a kind after which the document was not closed. -/
def Since (uri : Uri) (kind : StoreOperation σ → Prop) (operations : List (StoreOperation σ)) :
    Prop :=
  ∃ before operation later, operations = before ++ operation :: later ∧ kind operation ∧
    ∀ next ∈ later, ¬ next.Closes uri

variable {uri : Uri} {kind : StoreOperation σ → Prop} {operations : List (StoreOperation σ)}
  {operation : StoreOperation σ}

theorem not_since_nil : ¬ Since uri kind [] := by
  rintro ⟨before, operation, later, heq, _⟩
  cases before <;> cases heq

/-- Either the first operation is of the kind and none of the others closes the document, or one of
the others stands. -/
theorem since_cons : Since uri kind (operation :: operations) ↔
    (kind operation ∧ ∀ next ∈ operations, ¬ next.Closes uri) ∨ Since uri kind operations := by
  constructor
  · rintro ⟨before, standing, later, heq, hkind, hopen⟩
    cases before with
    | nil =>
      obtain ⟨rfl, rfl⟩ := List.cons.inj heq
      exact .inl ⟨hkind, hopen⟩
    | cons first before =>
      obtain ⟨_, rfl⟩ := List.cons.inj heq
      exact .inr ⟨before, standing, later, rfl, hkind, hopen⟩
  · rintro (⟨hkind, hopen⟩ | ⟨before, standing, later, rfl, hkind, hopen⟩)
    · exact ⟨[], operation, operations, rfl, hkind, hopen⟩
    · exact ⟨operation :: before, standing, later, rfl, hkind, hopen⟩

theorem Since.mono {kind' : StoreOperation σ → Prop} (h : Since uri kind operations)
    (himp : ∀ operation, kind operation → kind' operation) : Since uri kind' operations := by
  obtain ⟨before, operation, later, heq, hkind, hopen⟩ := h
  exact ⟨before, operation, later, heq, himp operation hkind, hopen⟩

end StoreOperation

namespace Store

variable {store : Store σ} {uri other : Uri} {document : Document σ}

/-! ## One operation -/

/-- The store after an operation. -/
def carryOut [BEq σ] (store : Store σ) : StoreOperation σ → Store σ
  | .opened uri text languageId version resolve maxLineLength =>
    (store.openDocument uri text languageId version resolve maxLineLength).state
  | .changed uri version changes =>
    (store.withOpen uri fun document => ({ document.follow changes with version }, ())).1
  | .asked uri position =>
    (store.withTracked uri fun document =>
      ((document.scopeAt (document.buffer.positionOfUtf16 position)).state, ())).1
  | .reloaded order resolve maxLineLength => (reloadInOrder resolve maxLineLength store order).1
  | .closed uri => (store.close uri).1

theorem isOpen_withOpen {α : Type} (store : Store σ) (uri other : Uri)
    (operation : Document σ → Document σ × α) :
    (store.withOpen uri operation).1.isOpen other = store.isOpen other := by
  rw [isOpen_eq_isSome, isOpen_eq_isSome, find?_withOpen]
  split
  · rename_i hother
    rw [Option.isSome_map, hother]
  · rfl

theorem isOpen_withTracked {α : Type} (store : Store σ) (uri other : Uri)
    (operation : Document σ → Document σ × α) :
    (store.withTracked uri operation).1.isOpen other = store.isOpen other := by
  rw [isOpen_eq_isSome, isOpen_eq_isSome, find?_withTracked]
  split
  · rename_i hother
    rw [Option.isSome_map, hother.1]
  · rfl

/-- A document that is open stays open. Any other one is opened if its text can be tokenized. -/
theorem isOpen_openDocument (store : Store σ) (uri : Uri) (text : Text) (languageId : String)
    (version : Int) (resolve : GrammarResolver σ) (maxLineLength : Nat) (other : Uri) :
    (store.openDocument uri text languageId version resolve maxLineLength).state.isOpen other ↔
      (uri = other ∧ (Document.create text languageId version (resolve languageId uri.path)
        maxLineLength).result = .ok ()) ∨ store.isOpen other := by
  rw [isOpen_eq_isSome, isOpen_eq_isSome]
  cases hfind : store.find? uri with
  | some document =>
    rw [find?_openDocument_of_some hfind]
    split
    · rename_i hother
      simp [hother, hfind]
    · rename_i hother
      simp [Ne.symm hother]
  | none =>
    rw [find?_openDocument_of_none hfind]
    split
    · rename_i hcreated
      simp [hcreated.1, hcreated.2]
    · rename_i hcreated
      have hnot : ¬ (uri = other ∧ (Document.create text languageId version
          (resolve languageId uri.path) maxLineLength).result = .ok ()) :=
        fun h => hcreated ⟨h.1.symm, h.2⟩
      simp only [hnot, false_or]

variable [BEq σ]

theorem isOpen_carryOut (store : Store σ) (operation : StoreOperation σ) (uri : Uri) :
    (store.carryOut operation).isOpen uri ↔
      operation.Creates uri ∨ store.isOpen uri ∧ ¬ operation.Closes uri := by
  cases operation with
  | opened other text languageId version resolve maxLineLength =>
    rw [carryOut, isOpen_openDocument]
    simp [StoreOperation.Creates, StoreOperation.Closes]
  | changed other version changes =>
    rw [carryOut, isOpen_withOpen]
    simp [StoreOperation.Creates, StoreOperation.Closes]
  | asked other position =>
    rw [carryOut, isOpen_withTracked]
    simp [StoreOperation.Creates, StoreOperation.Closes]
  | reloaded order resolve maxLineLength =>
    rw [carryOut, isOpen_reloadInOrder]
    simp [StoreOperation.Creates, StoreOperation.Closes]
  | closed other =>
    rw [carryOut, isOpen_close, Bool.and_eq_true, decide_eq_true_eq, ne_comm, and_comm]
    simp [StoreOperation.Creates, StoreOperation.Closes]

/-- A change reaches the text of an open document, and nothing if the document is not open. -/
theorem carryOut_changed (store : Store σ) (uri : Uri) (version : Int)
    (changes : List ContentChange) :
    (∀ document, store.find? uri = some document →
      ∃ after, (store.carryOut (.changed uri version changes)).find? uri = some after ∧
        after.buffer = changes.foldl Buffer.applyContentChange document.buffer) ∧
      (store.find? uri = none → store.carryOut (.changed uri version changes) = store) := by
  constructor
  · intro document hfind
    refine ⟨{ document.follow changes with version }, ?_, document.buffer_follow changes⟩
    rw [carryOut, find?_withOpen, if_pos rfl, hfind]
    rfl
  · intro hfind
    rw [carryOut, withOpen_of_none hfind]

/-! ## Runs -/

/-- The store after a run. -/
def performed (operations : List (StoreOperation σ)) : Store σ := operations.foldl carryOut empty

/-- A document is open after a run if the run opened it, or if it was open before and the run does
not close it. -/
theorem isOpen_foldl_carryOut (store : Store σ) (operations : List (StoreOperation σ)) (uri : Uri) :
    (operations.foldl carryOut store).isOpen uri ↔
      StoreOperation.Since uri (·.Creates uri) operations ∨
        store.isOpen uri ∧ ∀ operation ∈ operations, ¬ operation.Closes uri := by
  induction operations generalizing store with
  | nil => simp [StoreOperation.not_since_nil]
  | cons operation later ih =>
    rw [List.foldl_cons, ih, isOpen_carryOut, StoreOperation.since_cons, List.forall_mem_cons,
      or_and_right, and_assoc, ← or_assoc, or_comm (a := StoreOperation.Since _ _ _)]

theorem isOpen_performed (operations : List (StoreOperation σ)) (uri : Uri) :
    (performed operations).isOpen uri ↔ StoreOperation.Since uri (·.Creates uri) operations := by
  have hclosed : (empty : Store σ).isOpen uri = false := rfl
  rw [performed, isOpen_foldl_carryOut, hclosed]
  simp

/-- Which documents are open after a run. Those that were opened with a text that could be
tokenized and not closed since then: whatever fails after that leaves them open. So the store
agrees with the editor, to which any opening counts, exactly if one of the openings since the last
closing could be tokenized, or there is none. The text of an open document takes every change. A
change of any other document leaves the store as it was. -/
theorem performed_isOpen_iff (operations : List (StoreOperation σ)) (uri : Uri) :
    let store := performed operations
    let opened := StoreOperation.Since uri (·.Opens uri) operations
    let created := StoreOperation.Since uri (·.Creates uri) operations
    (store.isOpen uri ↔ created) ∧
      ((store.isOpen uri ↔ opened) ↔ (opened → created)) ∧
      ∀ version changes,
        (created → ∃ document after, store.find? uri = some document ∧
          (store.carryOut (.changed uri version changes)).find? uri = some after ∧
          after.buffer = changes.foldl Buffer.applyContentChange document.buffer) ∧
        (¬ created → store.carryOut (.changed uri version changes) = store) := by
  intro store opened created
  have hopen : store.isOpen uri ↔ created := isOpen_performed operations uri
  have hopened : created → opened := fun h => h.mono fun _ => StoreOperation.Creates.opens
  refine ⟨hopen, ?_, fun version changes => ?_⟩
  · rw [hopen]
    exact ⟨fun h => h.mpr, fun h => ⟨hopened, h⟩⟩
  · obtain ⟨hfollows, hpassed⟩ := store.carryOut_changed uri version changes
    rw [← hopen, isOpen_eq_isSome]
    cases hfind : store.find? uri with
    | some document =>
      obtain ⟨after, hafter, hbuffer⟩ := hfollows document hfind
      exact ⟨fun _ => ⟨document, after, rfl, hafter, hbuffer⟩, fun h => absurd rfl h⟩
    | none => exact ⟨fun h => (Bool.false_ne_true h).elim, fun _ => hpassed hfind⟩

/-- A text that fails in the first opening leaves the document closed, also after a change to one
that can be tokenized. The same text leaves it open in a second opening, a change or a reload. -/
theorem closed_after_failed_opening :
    let uri : Uri := ⟨"file", none, "/a", none, none⟩
    let comments : GrammarResolver Bool := fun _ _ => some .comments
    let opened (text : Text) : StoreOperation Bool := .opened uri text "toy" 1 comments 20
    let changed (text : Text) : StoreOperation Bool := .changed uri 2 [⟨none, text⟩]
    StoreOperation.Since uri (·.Opens uri) [opened ['!'], changed ['a']] ∧
      (performed [opened ['!'], changed ['a']]).isOpen uri = false ∧
      (performed [opened ['a'], opened ['!'], changed ['a']]).isOpen uri = true ∧
      (performed [opened ['a'], changed ['!'], .reloaded [uri] comments 20]).isOpen uri = true := by
  intro uri comments opened changed
  refine ⟨⟨[], opened ['!'], [changed ['a']], rfl, rfl, ?_⟩, by decide +kernel, by decide +kernel,
    by decide +kernel⟩
  intro next hnext
  obtain rfl := List.mem_singleton.mp hnext
  exact id

end Store

/-! ## What editors send -/

namespace Server

/-- What an editor reports or asks for, and that changes the documents. -/
inductive Demand where
  | didOpen (uri : Uri) (text : Text) (languageId : String) (version : Int)
  | didChange (uri : Uri) (version : Int) (changes : List ContentChange)
  | didClose (uri : Uri)
  | hover (uri : Uri) (position : Utf16Position)
  | scopeAt (uri : Uri) (position : Utf16Position)
  | reloadGrammars (host : Host)

/-- The server after a demand. -/
def take (server : Server) : Demand → Server
  | .didOpen uri text languageId version => (server.didOpen uri text languageId version).server
  | .didChange uri version changes => (server.didChange uri version changes).server
  | .didClose uri => (server.didClose uri).server
  | .hover uri position => (server.hover uri position).server
  | .scopeAt uri position => (server.scopeAt uri position).server
  | .reloadGrammars host => (server.reloadGrammars host).server

/-- What a demand does to the documents, with the grammars that hold then. -/
def operation (server : Server) : Demand → StoreOperation ReadState
  | .didOpen uri text languageId version =>
    .opened uri text languageId version server.config.registry.resolveGrammar
      server.config.maxLineLength
  | .didChange uri version changes => .changed uri version changes
  | .didClose uri => .closed uri
  | .hover uri position | .scopeAt uri position => .asked uri position
  | .reloadGrammars host =>
    let config := Config.load host server.root
    .reloaded server.documents.openUris config.registry.resolveGrammar config.maxLineLength

/-- What a list of demands does to the documents, one after the other. -/
def operations : Server → List Demand → List (StoreOperation ReadState)
  | _, [] => []
  | server, demand :: later => server.operation demand :: (server.take demand).operations later

variable {α : Type}

theorem followChanges_eq (document : Document ReadState) (changes : List ContentChange) :
    (followChanges document changes).1 = document.follow changes := by
  induction changes generalizing document with
  | nil => rfl
  | cons change later ih =>
    have hlater := ih (document.applyContentChange change.range change.text).state
    rw [followChanges]
    cases (document.applyContentChange change.range change.text).result with
    | ok _ => exact hlater
    | error fault => exact hlater

theorem documents_query (server : Server) (uri : Uri) (position : Utf16Position)
    (render : TokenInfo → Buffer → α) :
    (server.query uri position render).server.documents =
      server.documents.carryOut (.asked uri position) := by
  cases htracked : server.documents.tracked.get? uri with
  | none => simp only [query, Store.carryOut, Store.withTracked_of_none htracked]
  | some document =>
    simp only [query, Store.carryOut, Store.withTracked_of_some htracked]
    -- the answer does not change the documents
    cases (document.scopeAt (document.buffer.positionOfUtf16 position)).result with
    | ok info => rfl
    | error fault => rfl

theorem documents_take (server : Server) (demand : Demand) :
    (server.take demand).documents = server.documents.carryOut (server.operation demand) := by
  cases demand with
  | didOpen uri text languageId version => rfl
  | didChange uri version changes =>
    refine server.documents.fst_withOpen_congr uri fun document => ?_
    rw [← followChanges_eq]
  | didClose uri => rfl
  | hover uri position => exact server.documents_query uri position _
  | scopeAt uri position => exact server.documents_query uri position _
  | reloadGrammars host => rfl

theorem documents_taken (server : Server) (demands : List Demand) :
    (demands.foldl take server).documents =
      (server.operations demands).foldl Store.carryOut server.documents := by
  induction demands generalizing server with
  | nil => rfl
  | cons demand later ih =>
    rw [List.foldl_cons, ih, documents_take, operations, List.foldl_cons]

/-- A server that starts with any configuration and no documents holds a document open exactly if
the editor opened it with a text that its grammar could tokenize, and did not close it since. -/
theorem isOpen_taken_iff (config : Config) (root : Option Path) (demands : List Demand)
    (uri : Uri) :
    let server : Server := { config, root }
    (demands.foldl take server).documents.isOpen uri ↔
      StoreOperation.Since uri (·.Creates uri) (server.operations demands) := by
  intro server
  rw [documents_taken]
  exact Store.isOpen_performed (server.operations demands) uri

end Server

end ScopeTracker
