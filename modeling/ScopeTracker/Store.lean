import ScopeTracker.Document
import ScopeTracker.Files.Uri

/-!
# The document store

The store holds the open documents by URI, in two tables: the tracked ones have a grammar and
answer queries, the untracked ones have none and only keep their text up to date, so that a
reload of the grammars can start to track them. Opening, closing and reloading move documents in
and out of the tables; which grammar a document gets is said by a resolver that is passed in.
-/

namespace ScopeTracker

/-- Values by URI. -/
abbrev UriTable (α : Type) := List (Uri × α)

namespace UriTable

variable {α : Type}

/-- The value of a URI. -/
def get? (table : UriTable α) (uri : Uri) : Option α := table.lookup uri

/-- Whether a URI has a value. -/
def contains (table : UriTable α) (uri : Uri) : Bool := (table.get? uri).isSome

/-- The URIs that have a value. -/
def keys (table : UriTable α) : List Uri := table.map (·.1)

/-- Takes away the value of a URI. -/
def erase (table : UriTable α) (uri : Uri) : UriTable α := table.filter (·.1 ≠ uri)

/-- Gives a URI a value, the only one it has. -/
def put (table : UriTable α) (uri : Uri) (value : α) : UriTable α :=
  (uri, value) :: table.erase uri

theorem get?_cons (entry : Uri × α) (table : UriTable α) (uri : Uri) :
    get? (entry :: table) uri = if uri = entry.1 then some entry.2 else table.get? uri := by
  obtain ⟨key, value⟩ := entry
  unfold get?
  rw [List.lookup_cons]
  by_cases h : uri = key
  · simp [h]
  · rw [if_neg h, beq_false_of_ne h]

theorem get?_erase (table : UriTable α) (uri other : Uri) :
    (table.erase uri).get? other = if other = uri then none else table.get? other := by
  induction table with
  | nil => simp [get?, erase]
  | cons entry rest ih =>
    by_cases h : entry.1 = uri
    · have : erase (entry :: rest) uri = erase rest uri := by simp [erase, h]
      rw [this, ih, get?_cons, h]
      split <;> rfl
    · have : erase (entry :: rest) uri = entry :: erase rest uri := by simp [erase, h]
      rw [this, get?_cons, get?_cons, ih]
      by_cases ho : other = entry.1
      · simp [ho, h]
      · simp [ho]

theorem get?_put (table : UriTable α) (uri other : Uri) (value : α) :
    (table.put uri value).get? other = if other = uri then some value else table.get? other := by
  rw [put, get?_cons, get?_erase]
  split <;> rfl

@[simp] theorem get?_put_self (table : UriTable α) (uri : Uri) (value : α) :
    (table.put uri value).get? uri = some value := by
  simp [get?_put]

end UriTable

/-- Finds the grammar for a language id and a path, if there is one. -/
abbrev GrammarResolver (σ : Type) := String → String → Option (Grammar σ)

/-- The open documents, those with a grammar and those without one. -/
structure Store (σ : Type) where
  tracked : UriTable (Document σ) := []
  untracked : UriTable (Document σ) := []

namespace Store

variable {σ : Type}

/-- The store without documents. -/
def empty : Store σ := {}

instance : Inhabited (Store σ) := ⟨empty⟩

/-- The number of tracked documents. -/
def size (store : Store σ) : Nat := store.tracked.length

/-- Whether no document is tracked. -/
def isEmpty (store : Store σ) : Bool := store.tracked.isEmpty

/-- Whether a document is tracked. -/
def isTracked (store : Store σ) (uri : Uri) : Bool := store.tracked.contains uri

/-- Whether a document is open, tracked or not. -/
def isOpen (store : Store σ) (uri : Uri) : Bool :=
  store.tracked.contains uri || store.untracked.contains uri

/-- An open document, tracked or not. -/
def find? (store : Store σ) (uri : Uri) : Option (Document σ) :=
  (store.tracked.get? uri).or (store.untracked.get? uri)

/-- Puts a document into the table of those with or of those without a grammar. -/
def insert (store : Store σ) (uri : Uri) (document : Document σ) (track : Bool) : Store σ :=
  if track then { store with tracked := store.tracked.put uri document }
  else { store with untracked := store.untracked.put uri document }

/-- Carries out an operation on a tracked document, and does nothing if there is none. -/
def withTracked {α : Type} (store : Store σ) (uri : Uri)
    (operation : Document σ → Document σ × α) : Store σ × Option α :=
  match store.tracked.get? uri with
  | some document =>
    let (document, answer) := operation document
    (store.insert uri document true, some answer)
  | none => (store, none)

/-- Carries out an operation on an open document, and does nothing if there is none. -/
def withOpen {α : Type} (store : Store σ) (uri : Uri)
    (operation : Document σ → Document σ × α) : Store σ × Option α :=
  match store.tracked.get? uri with
  | some _ => store.withTracked uri operation
  | none =>
    match store.untracked.get? uri with
    | some document =>
      let (document, answer) := operation document
      (store.insert uri document false, some answer)
    | none => (store, none)

/-- Opens a document. One that is open already keeps its language id, its grammar and its place;
it takes the new text and version. A new document is tracked if a grammar is found for it, and
stays closed if its text cannot be tokenized. -/
def openDocument (store : Store σ) (uri : Uri) (text : Text) (languageId : String)
    (version : Int) (resolve : GrammarResolver σ) (maxLineLength : Nat) :
    Outcome (Store σ) Unit :=
  let replace (document : Document σ) : Document σ × Except Fault Unit :=
    let replaced := { document with version }.replaceText text
    (replaced.state, replaced.result)
  match store.withOpen uri replace with
  | (store, some result) => ⟨store, result⟩
  | (store, none) =>
    let grammar := resolve languageId uri.path
    let created := Document.create text languageId version grammar maxLineLength
    match created.result with
    | .ok () => .ok (store.insert uri created.state grammar.isSome) ()
    | .error fault => .fail store fault

/-- Closes a document. The answer says whether it was tracked. -/
def close (store : Store σ) (uri : Uri) : Store σ × Bool :=
  ({ tracked := store.tracked.erase uri, untracked := store.untracked.erase uri },
    store.isTracked uri)

/-- Takes an open document out of its table. The untracked documents are looked at only if it is
not among the tracked ones. -/
def remove? (store : Store σ) (uri : Uri) : Option (Document σ × Store σ) :=
  match store.tracked.get? uri with
  | some document => some (document, { store with tracked := store.tracked.erase uri })
  | none =>
    (store.untracked.get? uri).map fun document =>
      (document, { store with untracked := store.untracked.erase uri })

/-- Finds the grammar of an open document anew, tokenizes its text with it and puts the document
into the table where it belongs. The answer says whether the text could be tokenized. -/
def reloadDocument (store : Store σ) (uri : Uri) (resolve : GrammarResolver σ)
    (maxLineLength : Nat) : Store σ × Bool :=
  match store.remove? uri with
  | none => (store, true)
  | some (document, others) =>
    let grammar := resolve document.languageId uri.path
    let reloaded := document.setGrammar grammar maxLineLength
    (others.insert uri reloaded.state grammar.isSome, reloaded.result.isOk)

/-- Reloads documents in the order given. The answer is the number of those whose text could not
be tokenized. -/
def reloadInOrder (resolve : GrammarResolver σ) (maxLineLength : Nat) :
    Store σ → List Uri → Store σ × Nat
  | store, [] => (store, 0)
  | store, uri :: rest =>
    let (store, tokenized) := store.reloadDocument uri resolve maxLineLength
    let (store, failures) := reloadInOrder resolve maxLineLength store rest
    (store, if tokenized then failures else failures + 1)

/-- The URIs of the open documents, the tracked ones first. -/
def openUris (store : Store σ) : List Uri := store.tracked.keys ++ store.untracked.keys

/-- Reloads all open documents. -/
def reload (store : Store σ) (resolve : GrammarResolver σ) (maxLineLength : Nat) :
    Store σ × Nat :=
  reloadInOrder resolve maxLineLength store store.openUris

end Store

end ScopeTracker
