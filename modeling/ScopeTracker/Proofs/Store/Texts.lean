import ScopeTracker.Proofs.Cache.Current
import ScopeTracker.Proofs.Store.Runs

/-!
# Texts of open documents

The text of a document follows the editor. Whether there is a grammar for it, which one, and where
the grammar fails, decides what is cached and whether queries are answered, but never what the
text is.

Main statement: the text of an open document is the one it was opened with last, taken through the
changes since then as a plain text is, so stores that see the same events and find different
grammars hold the same texts (`Reached.same_texts`).
-/

namespace ScopeTracker

namespace StoreEvent

/-- What an event makes of the text of a URI. -/
def follow (uri : Uri) (text? : Option Buffer) : StoreEvent → Option Buffer
  | opened other text _ _ => if uri = other then some (.ofText text) else text?
  | changed other _ changes =>
    if uri = other then text?.map fun text => changes.foldl Buffer.applyContentChange text
    else text?
  | asked _ _ | reloaded | closed _ => text?

/-- The text that a URI was opened with last, with the changes since then. -/
def lastText (uri : Uri) (events : List StoreEvent) : Option Buffer :=
  events.foldl (follow uri) none

end StoreEvent

namespace Store

variable {σ : Type} {store after : Store σ} {texts texts' : Uri → Option Buffer}
  {event : StoreEvent}

/-- Every open document holds the text that is given for its URI. -/
def Holds (store : Store σ) (texts : Uri → Option Buffer) : Prop :=
  ∀ uri document, store.find? uri = some document → texts uri = some document.buffer

/-! ## One event -/

/-- What leaves each document its text, or closes it, leaves the texts as they are. -/
theorem Holds.of_buffer (h : store.Holds texts)
    (hfind : ∀ uri document, after.find? uri = some document →
      ∃ before, store.find? uri = some before ∧ document.buffer = before.buffer) :
    after.Holds texts := by
  intro uri document hdocument
  obtain ⟨before, hbefore, hbuffer⟩ := hfind uri document hdocument
  rw [hbuffer]
  exact h uri before hbefore

section OneText

variable {uri : Uri} (h : store.Holds texts)
  (hothers : ∀ other, other ≠ uri → texts' other = texts other)
include h hothers

/-- Opening gives the document its text. If that fails for the first time the URI stays closed. -/
theorem Holds.openDocument {text : Text} (htext : texts' uri = some (.ofText text))
    (languageId : String) (version : Int) (resolve : GrammarResolver σ) (maxLineLength : Nat) :
    (store.openDocument uri text languageId version resolve maxLineLength).state.Holds texts' := by
  intro other document hdocument
  by_cases hother : other = uri
  · subst hother
    cases hopen : store.find? other with
    | some before =>
      rw [find?_openDocument_of_some hopen, if_pos rfl] at hdocument
      rw [htext, ← Option.some.inj hdocument]
      rfl
    | none =>
      rw [find?_openDocument_of_none hopen] at hdocument
      split at hdocument
      · rw [htext, ← Option.some.inj hdocument]
        rfl
      · rw [hopen] at hdocument
        cases hdocument
  · rw [hothers other hother]
    cases hopen : store.find? uri with
    | some before =>
      rw [find?_openDocument_of_some hopen, if_neg hother] at hdocument
      exact h other document hdocument
    | none =>
      rw [find?_openDocument_of_none hopen, if_neg fun hand => hother hand.1] at hdocument
      exact h other document hdocument

theorem Holds.follow [BEq σ] {changes : List ContentChange}
    (htext : texts' uri =
      (texts uri).map fun text => changes.foldl Buffer.applyContentChange text)
    (version : Int) :
    (store.withOpen uri fun document =>
      ({ document.follow changes with version }, ())).1.Holds texts' := by
  intro other document hdocument
  rw [find?_withOpen] at hdocument
  split at hdocument
  · rename_i hother
    obtain ⟨before, hbefore, rfl⟩ := Option.map_eq_some_iff.mp hdocument
    rw [hother, htext, h uri before hbefore, Option.map_some, ← Document.buffer_follow]
  · rename_i hother
    rw [hothers other hother]
    exact h other document hdocument

end OneText

theorem Holds.scopeAt (h : store.Holds texts) (uri : Uri) (position : Position) :
    (store.withTracked uri fun document =>
      ((document.scopeAt position).state, (document.scopeAt position).result)).1.Holds texts := by
  refine h.of_buffer fun other document hdocument => ?_
  rw [find?_withTracked] at hdocument
  split at hdocument
  · rename_i hother
    obtain ⟨before, hbefore, rfl⟩ := Option.map_eq_some_iff.mp hdocument
    exact ⟨before, hother.1 ▸ hbefore, rfl⟩
  · exact ⟨document, hdocument, rfl⟩

theorem Holds.close (h : store.Holds texts) (uri : Uri) : (store.close uri).1.Holds texts := by
  refine h.of_buffer fun other document hdocument => ?_
  rw [find?_close] at hdocument
  split at hdocument
  · cases hdocument
  · exact ⟨document, hdocument, rfl⟩

theorem Holds.reloadDocument (h : store.Holds texts) (uri : Uri) (resolve : GrammarResolver σ)
    (maxLineLength : Nat) : (store.reloadDocument uri resolve maxLineLength).1.Holds texts := by
  refine h.of_buffer fun other document hdocument => ?_
  rw [find?_reloadDocument] at hdocument
  split at hdocument
  · rename_i hother
    obtain ⟨before, hbefore, rfl⟩ := Option.map_eq_some_iff.mp hdocument
    exact ⟨before, hother ▸ hbefore, rfl⟩
  · exact ⟨document, hdocument, rfl⟩

theorem Holds.reloadInOrder (h : store.Holds texts) (order : List Uri)
    (resolve : GrammarResolver σ) (maxLineLength : Nat) :
    (reloadInOrder resolve maxLineLength store order).1.Holds texts := by
  induction order generalizing store with
  | nil => exact h
  | cons uri rest ih => exact ih (h.reloadDocument uri resolve maxLineLength)

theorem Holds.step [BEq σ] (h : store.Holds texts) (hstep : Step store event after) :
    after.Holds fun uri => event.follow uri (texts uri) := by
  cases hstep with
  | opened uri text languageId version resolve maxLineLength =>
    exact h.openDocument (fun other hother => if_neg hother) (if_pos rfl) languageId version
      resolve maxLineLength
  | changed uri version changes =>
    let texts' (other : Uri) := StoreEvent.follow other (texts other) (.changed uri version changes)
    have htext : texts' uri =
        (texts uri).map fun text => changes.foldl Buffer.applyContentChange text := if_pos rfl
    have hothers : ∀ other, other ≠ uri → texts' other = texts other :=
      fun _ hother => if_neg hother
    exact h.follow hothers htext version
  | asked uri position => exact h.scopeAt uri position
  | reloaded order resolve maxLineLength _ => exact h.reloadInOrder order resolve maxLineLength
  | closed uri => exact h.close uri

/-! ## Runs -/

theorem Reached.holds [BEq σ] {events : List StoreEvent} (h : Reached events store) :
    store.Holds fun uri => StoreEvent.lastText uri events := by
  induction h with
  | empty => exact fun _ _ hdocument => by cases hdocument
  | step _ hstep ih =>
    simp only [StoreEvent.lastText, List.foldl_append] at ih ⊢
    exact ih.step hstep

theorem exists_of_isOpen {uri : Uri} (hopen : store.isOpen uri) :
    ∃ document, store.find? uri = some document := by
  rw [isOpen_eq_isSome] at hopen
  exact Option.isSome_iff_exists.mp hopen

/-- The text of every open document is the one that it was opened with last, with all changes
since then, whatever grammars were found on the way and whatever failed. Of two stores that see
the same events, the documents that are open in both hold the same texts. -/
theorem Reached.same_texts {τ : Type} [BEq σ] [BEq τ] {events : List StoreEvent}
    {other : Store τ} (h : Reached events store) (h' : Reached events other) :
    (∀ uri, store.isOpen uri → ∃ document, store.find? uri = some document ∧
      StoreEvent.lastText uri events = some document.buffer) ∧
      ∀ uri, store.isOpen uri → other.isOpen uri → ∃ document document',
        store.find? uri = some document ∧ other.find? uri = some document' ∧
          document.buffer = document'.buffer := by
  refine ⟨fun uri hopen => ?_, fun uri hopen hopen' => ?_⟩
  · obtain ⟨document, hfind⟩ := exists_of_isOpen hopen
    exact ⟨document, hfind, h.holds uri document hfind⟩
  · obtain ⟨document, hfind⟩ := exists_of_isOpen hopen
    obtain ⟨document', hfind'⟩ := exists_of_isOpen hopen'
    refine ⟨document, document', hfind, hfind', ?_⟩
    exact Option.some.inj ((h.holds uri document hfind).symm.trans (h'.holds uri document' hfind'))

/-- A change on which the grammar fails, and a reload that fails after it, reach the text as they
do without a grammar. -/
theorem same_texts_after_failure :
    let uri : Uri := ⟨"file", none, "/a", none, none⟩
    let changed (resolve : GrammarResolver Bool) : Store Bool :=
      ((empty.openDocument uri ['a'] "toy" 1 resolve 20).state.withOpen uri fun document =>
        ({ document.follow [⟨some ⟨⟨0, 1⟩, ⟨0, 1⟩⟩, ['!']⟩] with version := 2 }, ())).1
    let comments : GrammarResolver Bool := fun _ _ => some .comments
    let nothing : GrammarResolver Bool := fun _ _ => none
    let tracking := reloadInOrder comments 20 (changed comments) [uri]
    let plain := reloadInOrder nothing 20 (changed nothing) [uri]
    tracking.2 = 1 ∧ plain.2 = 0 ∧ ∃ document document',
      tracking.1.find? uri = some document ∧ plain.1.find? uri = some document' ∧
        document.buffer = document'.buffer := by
  intro uri changed comments nothing tracking plain
  have hchanged (resolve) : Reached [.opened uri ['a'] "toy" 1,
      .changed uri 2 [⟨some ⟨⟨0, 1⟩, ⟨0, 1⟩⟩, ['!']⟩]] (changed resolve) :=
    (Reached.empty.step (.opened uri _ _ _ resolve 20)).step (.changed uri _ _)
  have htracking := (hchanged comments).step (.reloaded [uri] comments 20 (by decide +kernel))
  have hplain := (hchanged nothing).step (.reloaded [uri] nothing 20 (by decide +kernel))
  refine ⟨by decide +kernel, by decide +kernel, ?_⟩
  exact (htracking.same_texts hplain).2 uri (by decide +kernel) (by decide +kernel)

end Store

end ScopeTracker
