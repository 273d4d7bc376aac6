import ScopeTracker.Proofs.Document.EditorChanges
import ScopeTracker.Store

/-!
# Runs of a store

What happens to the documents of a store is told apart from the grammars that are found for them:
opening and reloading may find any grammar each time, and a reload may visit the documents in any
order. A run is a list of events, and there are as many stores at its end as there are choices on
the way (`Reached`).

What an operation does is said by the document that is found for a URI afterwards. It does not
matter in which of the two tables the document is.
-/

namespace ScopeTracker

/-- Something that happens to the documents of a store. -/
inductive StoreEvent where
  | opened (uri : Uri) (text : Text) (languageId : String) (version : Int)
  | changed (uri : Uri) (version : Int) (changes : List ContentChange)
  | asked (uri : Uri) (position : Position)
  | reloaded
  | closed (uri : Uri)

variable {σ : Type}

/-- The document after changes, each on the text that the one before it left. A change is made also
if the grammar fails on it. -/
def Document.follow [BEq σ] (document : Document σ) (changes : List ContentChange) : Document σ :=
  changes.foldl
    (fun document change => (document.applyContentChange change.range change.text).state) document

/-- The text follows all changes, whether the grammar fails or not. -/
theorem Document.buffer_follow [BEq σ] (document : Document σ) (changes : List ContentChange) :
    (document.follow changes).buffer = changes.foldl Buffer.applyContentChange document.buffer := by
  induction changes generalizing document with
  | nil => rfl
  | cons change later ih =>
    rw [List.foldl_cons, ← buffer_applyContentChange]
    exact ih _

namespace Store

/-- What a store can become by an event. -/
inductive Step [BEq σ] (store : Store σ) : StoreEvent → Store σ → Prop where
  | opened (uri text languageId version resolve maxLineLength) :
      Step store (.opened uri text languageId version)
        (store.openDocument uri text languageId version resolve maxLineLength).state
  | changed (uri version changes) :
      Step store (.changed uri version changes)
        (store.withOpen uri fun document => ({ document.follow changes with version }, ())).1
  | asked (uri position) :
      Step store (.asked uri position)
        (store.withTracked uri fun document =>
          ((document.scopeAt position).state, (document.scopeAt position).result)).1
  | reloaded (order resolve maxLineLength) (horder : order.Perm store.openUris) :
      Step store .reloaded (reloadInOrder resolve maxLineLength store order).1
  | closed (uri) : Step store (.closed uri) (store.close uri).1

/-- The stores that a list of events can lead to. -/
inductive Reached [BEq σ] : List StoreEvent → Store σ → Prop where
  | empty : Reached [] .empty
  | step {events event store after} (h : Reached events store) (hstep : Step store event after) :
      Reached (events ++ [event]) after

variable {store : Store σ} {uri other : Uri} {document : Document σ}

/-! ## The document of a URI -/

theorem isOpen_eq_isSome (store : Store σ) (uri : Uri) :
    store.isOpen uri = (store.find? uri).isSome := by
  simp only [isOpen, find?, UriTable.contains, Option.isSome_or]

theorem find?_insert (store : Store σ) (uri other : Uri) (document : Document σ) {track : Bool}
    (h : track = false → store.tracked.get? uri = none) :
    (store.insert uri document track).find? other =
      if other = uri then some document else store.find? other := by
  cases track with
  | true =>
    simp only [insert, find?, if_true, UriTable.get?_put]
    split <;> rfl
  | false =>
    simp only [insert, find?, Bool.false_eq_true, if_false, UriTable.get?_put]
    split
    · rename_i heq
      rw [heq, h rfl]
      rfl
    · rfl

theorem find?_close (store : Store σ) (uri other : Uri) :
    (store.close uri).1.find? other = if other = uri then none else store.find? other := by
  simp only [close, find?, UriTable.get?_erase]
  split <;> rfl

/-- The document that is taken out is the one that is found. No other one goes with it. -/
theorem remove?_of_some (h : store.find? uri = some document) :
    ∃ others, store.remove? uri = some (document, others) ∧ others.tracked.get? uri = none ∧
      ∀ other, other ≠ uri → others.find? other = store.find? other := by
  cases htracked : store.tracked.get? uri with
  | some tracked =>
    obtain rfl : tracked = document := by
      rw [find?, htracked, Option.some_or] at h
      exact Option.some.inj h
    refine ⟨{ store with tracked := store.tracked.erase uri }, ?_, ?_, fun other hother => ?_⟩
    · rw [remove?, htracked]
    · rw [UriTable.get?_erase, if_pos rfl]
    · rw [find?, find?, UriTable.get?_erase, if_neg hother]
  | none =>
    rw [find?, htracked, Option.none_or] at h
    refine ⟨{ store with untracked := store.untracked.erase uri }, ?_, htracked,
      fun other hother => ?_⟩
    · rw [remove?, htracked, h]
      rfl
    · rw [find?, find?, UriTable.get?_erase, if_neg hother]

theorem remove?_of_none (h : store.find? uri = none) : store.remove? uri = none := by
  obtain ⟨htracked, huntracked⟩ := Option.or_eq_none_iff.mp h
  rw [remove?, htracked, huntracked]
  rfl

/-! ## Operations on the document of a URI -/

theorem withTracked_of_some {α : Type} (h : store.tracked.get? uri = some document)
    (operation : Document σ → Document σ × α) :
    store.withTracked uri operation =
      (store.insert uri (operation document).1 true, some (operation document).2) := by
  rw [withTracked, h]

theorem withTracked_of_none {α : Type} (h : store.tracked.get? uri = none)
    (operation : Document σ → Document σ × α) :
    store.withTracked uri operation = (store, none) := by
  rw [withTracked, h]

theorem find?_of_tracked (h : store.tracked.get? uri = some document) :
    store.find? uri = some document := by
  rw [find?, h]
  rfl

/-- An open document is put back into the table where it was. -/
theorem withOpen_of_some {α : Type} (h : store.find? uri = some document)
    (operation : Document σ → Document σ × α) :
    ∃ track, (track = false → store.tracked.get? uri = none) ∧
      store.withOpen uri operation =
        (store.insert uri (operation document).1 track, some (operation document).2) := by
  cases htracked : store.tracked.get? uri with
  | some tracked =>
    obtain rfl : tracked = document :=
      Option.some.inj ((find?_of_tracked htracked).symm.trans h)
    refine ⟨true, nofun, ?_⟩
    rw [withOpen, htracked]
    exact withTracked_of_some htracked operation
  | none =>
    rw [find?, htracked, Option.none_or] at h
    exact ⟨false, fun _ => rfl, by rw [withOpen, htracked, h]⟩

theorem withOpen_of_none {α : Type} (h : store.find? uri = none)
    (operation : Document σ → Document σ × α) : store.withOpen uri operation = (store, none) := by
  obtain ⟨htracked, huntracked⟩ := Option.or_eq_none_iff.mp h
  rw [withOpen, htracked, huntracked]

/-- The store does not depend on the answers of an operation. -/
theorem fst_withOpen_congr {α β : Type} (store : Store σ) (uri : Uri)
    {operation : Document σ → Document σ × α} {operation' : Document σ → Document σ × β}
    (hsame : ∀ document, (operation document).1 = (operation' document).1) :
    (store.withOpen uri operation).1 = (store.withOpen uri operation').1 := by
  cases htracked : store.tracked.get? uri with
  | some document =>
    simp only [withOpen, htracked, withTracked_of_some htracked, hsame]
  | none =>
    cases huntracked : store.untracked.get? uri with
    | some document => simp only [withOpen, htracked, huntracked, hsame]
    | none => simp only [withOpen, htracked, huntracked]

/-- What an operation on an open document leaves for each URI. -/
theorem find?_withOpen {α : Type} (store : Store σ) (uri other : Uri)
    (operation : Document σ → Document σ × α) :
    (store.withOpen uri operation).1.find? other =
      if other = uri then (store.find? uri).map fun document => (operation document).1
      else store.find? other := by
  cases hfind : store.find? uri with
  | some document =>
    obtain ⟨track, htrack, heq⟩ := withOpen_of_some hfind operation
    rw [heq, find?_insert _ _ _ _ htrack]
    rfl
  | none =>
    rw [withOpen_of_none hfind]
    split
    · rename_i heq
      rw [heq, hfind]
      rfl
    · rfl

/-- What an operation on a tracked document leaves for each URI. -/
theorem find?_withTracked {α : Type} (store : Store σ) (uri other : Uri)
    (operation : Document σ → Document σ × α) :
    (store.withTracked uri operation).1.find? other =
      if other = uri ∧ store.isTracked uri then
        (store.find? uri).map fun document => (operation document).1
      else store.find? other := by
  cases htracked : store.tracked.get? uri with
  | some document =>
    have htrue : store.isTracked uri = true := by rw [isTracked, UriTable.contains, htracked]; rfl
    rw [withTracked_of_some htracked, find?_of_tracked htracked]
    simp only [htrue, and_true, Option.map_some]
    exact store.find?_insert uri other _ nofun
  | none =>
    have hfalse : store.isTracked uri = false := by rw [isTracked, UriTable.contains, htracked]; rfl
    rw [withTracked_of_none htracked]
    simp only [hfalse, Bool.false_eq_true, and_false, if_false]

/-- What an operation on a tracked document leaves of the tracked documents. -/
theorem get?_tracked_withTracked {α : Type} (store : Store σ) (uri other : Uri)
    (operation : Document σ → Document σ × α) :
    (store.withTracked uri operation).1.tracked.get? other =
      if other = uri then (store.tracked.get? uri).map fun document => (operation document).1
      else store.tracked.get? other := by
  cases hfind : store.tracked.get? uri with
  | none =>
    rw [withTracked_of_none hfind]
    split
    · rename_i hother
      rw [hother, hfind]
      rfl
    · rfl
  | some document =>
    rw [withTracked_of_some hfind]
    exact UriTable.get?_put store.tracked uri other _

/-! ## Opening and reloading -/

/-- Opening a document that is open is an operation on it. -/
theorem openDocument_of_some (hopen : store.find? uri = some document) (text : Text)
    (languageId : String) (version : Int) (resolve : GrammarResolver σ) (maxLineLength : Nat) :
    store.openDocument uri text languageId version resolve maxLineLength =
      ⟨(store.withOpen uri fun document =>
          (({ document with version }.replaceText text).state,
            ({ document with version }.replaceText text).result)).1,
        ({ document with version }.replaceText text).result⟩ := by
  obtain ⟨track, _, heq⟩ := withOpen_of_some hopen fun document =>
    (({ document with version }.replaceText text).state,
      ({ document with version }.replaceText text).result)
  simp only [openDocument, heq]

/-- Opening a document that is not open creates it, unless its text cannot be tokenized. -/
theorem openDocument_of_none (hclosed : store.find? uri = none) (text : Text)
    (languageId : String) (version : Int) (resolve : GrammarResolver σ) (maxLineLength : Nat) :
    let created := Document.create text languageId version (resolve languageId uri.path)
      maxLineLength
    store.openDocument uri text languageId version resolve maxLineLength =
      ⟨if created.result = .ok () then
          store.insert uri created.state (resolve languageId uri.path).isSome
        else store,
        created.result⟩ := by
  intro created
  simp only [openDocument, withOpen_of_none hclosed]
  cases hresult : created.result with
  | ok _ =>
    simp only [if_true]
    rfl
  | error fault =>
    simp only [reduceCtorEq, if_false]
    rfl

/-- A document that is open takes the text, also if it cannot be tokenized. -/
theorem find?_openDocument_of_some (hopen : store.find? uri = some document) (text : Text)
    (languageId : String) (version : Int) (resolve : GrammarResolver σ) (maxLineLength : Nat)
    (other : Uri) :
    (store.openDocument uri text languageId version resolve maxLineLength).state.find? other =
      if other = uri then some ({ document with version }.replaceText text).state
      else store.find? other := by
  rw [openDocument_of_some hopen, find?_withOpen, hopen]
  rfl

/-- A document that is not open yet is created. It stays closed if it cannot be tokenized. -/
theorem find?_openDocument_of_none (hclosed : store.find? uri = none) (text : Text)
    (languageId : String) (version : Int) (resolve : GrammarResolver σ) (maxLineLength : Nat)
    (other : Uri) :
    let created := Document.create text languageId version (resolve languageId uri.path)
      maxLineLength
    (store.openDocument uri text languageId version resolve maxLineLength).state.find? other =
      if other = uri ∧ created.result = .ok () then some created.state
      else store.find? other := by
  intro created
  have htracked := (Option.or_eq_none_iff.mp hclosed).1
  rw [openDocument_of_none hclosed]
  by_cases hok : created.result = .ok ()
  · simp only [created] at hok
    simp only [created, hok, if_true, and_true]
    exact find?_insert _ _ _ _ fun _ => htracked
  · simp only [created] at hok
    simp only [created, hok, if_false, and_false]

/-- A reloaded document takes another grammar and keeps its place among the open ones. -/
theorem find?_reloadDocument (store : Store σ) (uri : Uri) (resolve : GrammarResolver σ)
    (maxLineLength : Nat) (other : Uri) :
    (store.reloadDocument uri resolve maxLineLength).1.find? other =
      if other = uri then
        (store.find? uri).map fun document =>
          (document.setGrammar (resolve document.languageId uri.path) maxLineLength).state
      else store.find? other := by
  cases hfind : store.find? uri with
  | none =>
    simp only [reloadDocument, remove?_of_none hfind]
    split
    · rename_i heq
      rw [heq, hfind]
      rfl
    · rfl
  | some document =>
    obtain ⟨others, hremove, hgone, hothers⟩ := remove?_of_some hfind
    simp only [reloadDocument, hremove, Option.map_some]
    rw [find?_insert _ _ _ _ fun _ => hgone]
    split
    · rfl
    · rename_i hother
      exact hothers other hother

end Store

end ScopeTracker
