import ScopeTracker.Proofs.Store.Placement

/-!
# Reloading all documents

A reload takes the documents one by one, in any order. Each gets the grammar that is found for it
now, and a cache that is made of its text alone, so what a document becomes does not depend on its
old cache or on the documents that came before it. All of a reload is therefore said by one law for
the document of a URI (`find?_reloadInOrder`) and one for the count of failures
(`failures_reloadInOrder`); that a store is well placed turns them into equalities of tables.

Main statement: a reload loses no document, derives every cache anew, and comes to the same in any
order and when it is done once more (`Reached.reload_derives`).
-/

namespace ScopeTracker

variable {σ : Type}

/-! ## Tables up to order -/

namespace UriTable

variable {α : Type} {table other : UriTable α} {uri : Uri} {value : α}

theorem mem_iff_get? (h : table.keys.Nodup) :
    (uri, value) ∈ table ↔ table.get? uri = some value := by
  induction table with
  | nil => simp [get?]
  | cons entry rest ih =>
    obtain ⟨key, held⟩ := entry
    obtain ⟨hfresh, hrest⟩ : key ∉ keys rest ∧ (keys rest).Nodup := List.nodup_cons.mp h
    rw [List.mem_cons, get?_cons, ih hrest]
    by_cases hkey : uri = key
    · subst hkey
      have hnone : get? rest uri = none := by
        rw [mem_keys, contains] at hfresh
        simpa using hfresh
      simp [hnone, eq_comm]
    · simp [hkey]

theorem nodup_of_keys (h : table.keys.Nodup) : List.Nodup table :=
  List.Pairwise.of_map (·.1) (fun _ _ hkeys hsame => hkeys (congrArg (·.1) hsame)) h

/-- Tables that hold every URI once and answer alike differ in their order only. -/
theorem perm_of_get?_eq (h : table.keys.Nodup) (h' : other.keys.Nodup)
    (hsame : ∀ uri, table.get? uri = other.get? uri) : List.Perm table other := by
  refine (List.perm_ext_iff_of_nodup (nodup_of_keys h) (nodup_of_keys h')).mpr ?_
  rintro ⟨uri, value⟩
  rw [mem_iff_get? h, mem_iff_get? h', hsame]

end UriTable

/-! ## Reading a whole document -/

namespace LineCache

/-- How the reading of a whole document ends. Without a grammar nothing is read. Otherwise every
line is cached, or exactly the lines above the first one that the grammar fails on. -/
inductive ReadsWhole (outcome : Outcome (LineCache σ) Unit) (buffer : Buffer) : Prop where
  | without (hgrammar : outcome.state.grammar = none) (hempty : outcome.state.isEmpty)
      (hok : outcome.result = .ok ())
  | through (hcomplete : outcome.state.Complete buffer) (hok : outcome.result = .ok ())
  | upTo {failing error} (hlt : failing < buffer.lineCount) (hsize : outcome.state.size = failing)
      (hcurrent : outcome.state.CurrentBelow buffer failing)
      (hfails : outcome.state.FailsAt buffer failing error)
      (herror : outcome.result = .error (.grammar error))

theorem readsWhole_build (buffer : Buffer) (grammar : Option (Grammar σ)) (maxLineLength : Nat) :
    ReadsWhole (build buffer grammar maxLineLength) buffer := by
  cases grammar with
  | none =>
    have hasks : (untokenized (none : Option (Grammar σ)) maxLineLength).grammar = none := rfl
    rw [build, refresh_of_none hasks]
    exact .without rfl rfl rfl
  | some grammar =>
    have hasks : (untokenized (some grammar) maxLineLength).grammar = some grammar := rfl
    cases hresult : (build buffer (some grammar) maxLineLength).result with
    | ok _ => exact .through (complete_refresh hasks hresult) hresult
    | error fault =>
      obtain ⟨failing, error, hlt, rfl, hsize, hcurrent, hfails⟩ := refresh_of_error hasks hresult
      exact .upTo hlt hsize hcurrent hfails hresult

end LineCache

namespace Store

variable {store after : Store σ} {uri : Uri} {document : Document σ}

/-! ## What a store is told by -/

theorem mem_openUris : uri ∈ store.openUris ↔ store.isOpen uri = true := by
  rw [openUris, List.mem_append, UriTable.mem_keys, UriTable.mem_keys, isOpen, Bool.or_eq_true]

theorem WellPlaced.nodup_openUris (h : store.WellPlaced) : store.openUris.Nodup := by
  refine List.nodup_append.mpr ⟨h.nodup true, h.nodup false, ?_⟩
  rintro uri htracked _ huntracked rfl
  exact h.apart uri ⟨UriTable.mem_keys.mp htracked, UriTable.mem_keys.mp huntracked⟩

/-- A document is in the table that its grammar says. -/
theorem WellPlaced.get?_table (h : store.WellPlaced) (track : Bool) (uri : Uri) :
    (store.table track).get? uri =
      (store.find? uri).filter (·.cache.grammar.isSome == track) := by
  cases hplace : (store.table track).get? uri with
  | some document =>
    have hother := h.get?_other_table hplace
    have hfind : store.find? uri = some document := by
      cases track with
      | true => exact find?_of_tracked hplace
      | false => rwa [find?, show store.tracked.get? uri = none from hother, Option.none_or]
    have hgrammar := (h.belongs track uri document hplace).isSome_grammar
    rw [hfind, Option.filter_some, hgrammar, beq_self_eq_true, if_pos rfl]
  | none =>
    cases hfind : store.find? uri with
    | none => rfl
    | some document =>
      have hother : (store.table !track).get? uri = some document := by
        cases track with
        | true => rwa [find?, show store.tracked.get? uri = none from hplace] at hfind
        | false =>
          rwa [find?, show store.untracked.get? uri = none from hplace, Option.or_none] at hfind
      have hgrammar := (h.belongs _ uri document hother).isSome_grammar
      rw [Option.filter_some, hgrammar]
      cases track <;> rfl

theorem WellPlaced.isTracked_eq (h : store.WellPlaced) (hfind : store.find? uri = some document) :
    store.isTracked uri = document.cache.grammar.isSome := by
  have hget := h.get?_table true uri
  rw [hfind] at hget
  rw [isTracked, UriTable.contains, show store.tracked.get? uri = _ from hget, Option.filter_some]
  cases document.cache.grammar <;> rfl

/-- The same documents in the same tables. The order within a table says nothing. -/
def Same (store after : Store σ) : Prop :=
  ∀ track, List.Perm (store.table track) (after.table track)

theorem WellPlaced.same (h : store.WellPlaced) (h' : after.WellPlaced)
    (hfind : ∀ uri, store.find? uri = after.find? uri) : store.Same after := by
  intro track
  refine UriTable.perm_of_get?_eq (h.nodup track) (h'.nodup track) fun uri => ?_
  rw [h.get?_table, h'.get?_table, hfind]

/-! ## One reload -/

variable (resolve : GrammarResolver σ) (maxLineLength : Nat)

/-- What a reload reads: the text of a document with the grammar that is found for it. -/
def reading (uri : Uri) (document : Document σ) : Outcome (LineCache σ) Unit :=
  LineCache.build document.buffer (resolve document.languageId uri.path) maxLineLength

/-- The document with its text read anew. -/
def reread (uri : Uri) (document : Document σ) : Document σ :=
  { document with
    cache := (reading resolve maxLineLength uri document).state
    dense := LineCache.dense_refresh _ document.buffer }

/-- A document that was read before is read from the same text. -/
theorem reread_comp_reread (uri : Uri) :
    reread resolve maxLineLength uri ∘ reread resolve maxLineLength uri =
      reread resolve maxLineLength uri := rfl

/-- Whether the grammar that is found for a document fails on its text. -/
def failsOn (store : Store σ) (uri : Uri) : Bool :=
  (store.find? uri).any fun document => !(reading resolve maxLineLength uri document).result.isOk

theorem find?_reloadDocument_eq (store : Store σ) (uri other : Uri) :
    (store.reloadDocument uri resolve maxLineLength).1.find? other =
      if other = uri then (store.find? other).map (reread resolve maxLineLength other)
      else store.find? other := by
  rw [find?_reloadDocument]
  split
  · rename_i heq
    rw [heq]
    rfl
  · rfl

/-- What is found for a URI after some documents were reloaded. It does not matter how often and
in which order. -/
theorem find?_reloadInOrder (store : Store σ) (order : List Uri) (other : Uri) :
    (reloadInOrder resolve maxLineLength store order).1.find? other =
      if other ∈ order then (store.find? other).map (reread resolve maxLineLength other)
      else store.find? other := by
  induction order generalizing store with
  | nil => rfl
  | cons uri rest ih =>
    have hfirst : (reloadInOrder resolve maxLineLength store (uri :: rest)).1 =
        (reloadInOrder resolve maxLineLength (store.reloadDocument uri resolve maxLineLength).1
          rest).1 := rfl
    rw [hfirst, ih, find?_reloadDocument_eq]
    by_cases hother : other = uri
    · subst hother
      simp [reread_comp_reread]
    · simp [hother]

theorem isOpen_reloadInOrder (store : Store σ) (order : List Uri) (uri : Uri) :
    (reloadInOrder resolve maxLineLength store order).1.isOpen uri = store.isOpen uri := by
  rw [isOpen_eq_isSome, isOpen_eq_isSome, find?_reloadInOrder]
  split
  · rw [Option.isSome_map]
  · rfl

theorem failsOn_reloadDocument (store : Store σ) (uri other : Uri) :
    (store.reloadDocument uri resolve maxLineLength).1.failsOn resolve maxLineLength other =
      store.failsOn resolve maxLineLength other := by
  rw [failsOn, failsOn, find?_reloadDocument_eq]
  split
  · rw [Option.any_map]
    rfl
  · rfl

theorem failures_reloadInOrder (store : Store σ) (order : List Uri) :
    (reloadInOrder resolve maxLineLength store order).2 =
      order.countP (store.failsOn resolve maxLineLength) := by
  induction order generalizing store with
  | nil => rfl
  | cons uri rest ih =>
    have hfirst : (store.reloadDocument uri resolve maxLineLength).2 =
        !store.failsOn resolve maxLineLength uri := by
      rw [failsOn]
      cases hfind : store.find? uri with
      | none =>
        simp only [reloadDocument, remove?_of_none hfind]
        rfl
      | some document =>
        obtain ⟨others, hremove, _⟩ := remove?_of_some hfind
        simp only [reloadDocument, hremove]
        exact (Bool.not_not _).symm
    have hsame : (store.reloadDocument uri resolve maxLineLength).1.failsOn resolve maxLineLength =
        store.failsOn resolve maxLineLength :=
      funext (store.failsOn_reloadDocument resolve maxLineLength uri)
    rw [reloadInOrder]
    dsimp only
    rw [ih, hsame, hfirst, List.countP_cons]
    cases store.failsOn resolve maxLineLength uri <;> rfl

variable {resolve maxLineLength} {order : List Uri}

/-- After a reload of all open documents each of them was read anew. -/
theorem find?_reload (horder : order.Perm store.openUris) (uri : Uri) :
    (reloadInOrder resolve maxLineLength store order).1.find? uri =
      (store.find? uri).map (reread resolve maxLineLength uri) := by
  rw [find?_reloadInOrder]
  split
  · rfl
  · rename_i habsent
    rw [horder.mem_iff, mem_openUris, isOpen_eq_isSome] at habsent
    rw [Option.not_isSome_iff_eq_none.mp habsent]
    rfl

theorem failures_reload (horder : order.Perm store.openUris) :
    (Store.reloadInOrder resolve maxLineLength store order).2 =
      store.openUris.countP (store.failsOn resolve maxLineLength) := by
  rw [failures_reloadInOrder, horder.countP_eq]

theorem WellPlaced.same_reload (h : store.WellPlaced) (horder : order.Perm store.openUris)
    {order' : List Uri} (horder' : order'.Perm store.openUris) :
    (Store.reloadInOrder resolve maxLineLength store order').1.Same
      (Store.reloadInOrder resolve maxLineLength store order).1 := by
  refine (h.reloadInOrder order' resolve maxLineLength).same
    (h.reloadInOrder order resolve maxLineLength) fun uri => ?_
  rw [find?_reload horder', find?_reload horder]

/-- A second reload reads the same texts with the same grammars. -/
theorem WellPlaced.same_reload_again (h : store.WellPlaced) (horder : order.Perm store.openUris)
    {order' : List Uri}
    (horder' : order'.Perm (Store.reloadInOrder resolve maxLineLength store order).1.openUris) :
    let after := (Store.reloadInOrder resolve maxLineLength store order).1
    (Store.reloadInOrder resolve maxLineLength after order').1.Same after := by
  have hafter := h.reloadInOrder order resolve maxLineLength
  refine (hafter.reloadInOrder order' resolve maxLineLength).same hafter fun uri => ?_
  rw [find?_reload horder', find?_reload horder, Option.map_map, reread_comp_reread]

theorem WellPlaced.failures_reload_again (h : store.WellPlaced)
    (horder : order.Perm store.openUris) {order' : List Uri}
    (horder' : order'.Perm (Store.reloadInOrder resolve maxLineLength store order).1.openUris) :
    let after := Store.reloadInOrder resolve maxLineLength store order
    (Store.reloadInOrder resolve maxLineLength after.1 order').2 = after.2 := by
  intro after
  have hplaced : after.1.WellPlaced := h.reloadInOrder order resolve maxLineLength
  have hopen : after.1.openUris.Perm store.openUris := by
    refine (List.perm_ext_iff_of_nodup hplaced.nodup_openUris h.nodup_openUris).mpr fun uri => ?_
    rw [mem_openUris, mem_openUris, isOpen_reloadInOrder]
  have hfails : after.1.failsOn resolve maxLineLength = store.failsOn resolve maxLineLength := by
    funext uri
    rw [failsOn, failsOn, find?_reload horder, Option.any_map]
    rfl
  rw [failures_reload horder', hfails, hopen.countP_eq]
  exact (failures_reload horder).symm

/-- What a reload with any grammars does to the documents of a store, in whatever order it visits
them. The same documents are open. Each keeps its text, its language id and its version, is tracked
exactly if a grammar is found for it, and has the cache that reading its text with that grammar
gives, up to the first line that the grammar fails on. The number that is returned counts the
documents with such a line. Any other order comes to the same store and number, and so does a
second reload. The reload that the server runs visits the tracked documents first; it comes to that
store and number, too, and stays there when it is run again. -/
theorem Reached.reload_derives [BEq σ] {events : List StoreEvent} (h : Reached events store)
    (resolve : GrammarResolver σ) (maxLineLength : Nat) (horder : order.Perm store.openUris) :
    let after := reloadInOrder resolve maxLineLength store order
    (∀ uri, after.1.isOpen uri = store.isOpen uri) ∧
      (∀ uri document, store.find? uri = some document →
        let grammar := resolve document.languageId uri.path
        let outcome := LineCache.build document.buffer grammar maxLineLength
        let dense := LineCache.dense_refresh _ document.buffer
        after.1.find? uri = some { document with cache := outcome.state, dense } ∧
          after.1.isTracked uri = grammar.isSome ∧
          LineCache.SameSetup (.untokenized grammar maxLineLength) outcome.state ∧
          LineCache.ReadsWhole outcome document.buffer) ∧
      (store.openUris.Nodup ∧
        after.2 = store.openUris.countP (store.failsOn resolve maxLineLength)) ∧
      (∀ order', order'.Perm store.openUris →
        let other := reloadInOrder resolve maxLineLength store order'
        other.1.Same after.1 ∧ other.2 = after.2) ∧
      (∀ order', order'.Perm after.1.openUris →
        let again := reloadInOrder resolve maxLineLength after.1 order'
        again.1.Same after.1 ∧ again.2 = after.2) ∧
      let reloaded := store.reload resolve maxLineLength
      let again := reloaded.1.reload resolve maxLineLength
      (reloaded.1.Same after.1 ∧ reloaded.2 = after.2) ∧
        again.1.Same reloaded.1 ∧ again.2 = reloaded.2 := by
  intro after
  have hplaced := h.wellPlaced
  have hafter : after.1.WellPlaced := hplaced.reloadInOrder order resolve maxLineLength
  have hothers : ∀ order', order'.Perm store.openUris →
      let other := Store.reloadInOrder resolve maxLineLength store order'
      other.1.Same after.1 ∧ other.2 = after.2 := fun order' horder' =>
    ⟨hplaced.same_reload horder horder',
      (failures_reload horder').trans (failures_reload horder).symm⟩
  refine ⟨isOpen_reloadInOrder resolve maxLineLength store order, ?_,
    ⟨hplaced.nodup_openUris, failures_reload horder⟩, hothers, ?_, hothers _ (.refl _),
    hplaced.same_reload_again (.refl _) (.refl _),
    hplaced.failures_reload_again (.refl _) (.refl _)⟩
  · intro uri document hfind grammar outcome dense
    have hreread : after.1.find? uri = some { document with cache := outcome.state, dense } := by
      rw [find?_reload horder, hfind]
      rfl
    have setup := LineCache.setup_build document.buffer grammar maxLineLength
    refine ⟨hreread, ?_, setup, LineCache.readsWhole_build document.buffer grammar maxLineLength⟩
    rw [hafter.isTracked_eq hreread, ← setup.grammar]
    rfl
  · intro order' horder' again
    exact ⟨hplaced.same_reload_again horder horder', hplaced.failures_reload_again horder horder'⟩

/-- One document gains a grammar, one loses it, and one gains a grammar that fails on its second
line. -/
theorem reload_derives_mixed :
    let gains : Uri := ⟨"file", none, "/gains", none, none⟩
    let loses : Uri := ⟨"file", none, "/loses", none, none⟩
    let fails : Uri := ⟨"file", none, "/fails", none, none⟩
    let among (paths : List String) : GrammarResolver Bool := fun _ path =>
      if path ∈ paths then some .comments else none
    let before := among ["/loses"]
    let later := among ["/gains", "/fails"]
    let opened := ((empty.openDocument gains ['a'] "toy" 1 before 20).state.openDocument
      loses ['b'] "toy" 1 before 20).state
    let store := (opened.openDocument fails ['c', '\n', '!'] "toy" 1 before 20).state
    let after := reloadInOrder later 20 store [gains, loses, fails]
    let other := reloadInOrder later 20 store [fails, gains, loses]
    let again := reloadInOrder later 20 after.1 [loses, gains, fails]
    let reloaded := store.reload later 20
    store.isTracked loses = true ∧ after.1.isTracked gains = true ∧
      after.1.isTracked loses = false ∧ after.1.isTracked fails = true ∧ after.2 = 1 ∧
      (after.1.find? fails).map (·.cache.size) = some 1 ∧
      other.1.Same after.1 ∧ other.2 = 1 ∧ again.1.Same after.1 ∧ again.2 = 1 ∧
      store.openUris = [loses, fails, gains] ∧ reloaded.1.Same after.1 ∧ reloaded.2 = 1 ∧
      (reloaded.1.reload later 20).1.Same reloaded.1 ∧ (reloaded.1.reload later 20).2 = 1 := by
  intro gains loses fails among before later opened store after other again reloaded
  have hstore : Reached _ store :=
    ((Reached.empty.step (.opened gains _ _ _ _ _)).step (.opened loses _ _ _ _ _)).step
      (.opened fails _ _ _ _ _)
  have horder : [gains, loses, fails].Perm store.openUris := by decide +kernel
  obtain ⟨_, hderived, ⟨_, hcount⟩, hother, hagain, ⟨hwhole, hwholeCount⟩, htwice, htwiceCount⟩ :=
    hstore.reload_derives later 20 horder
  have htracked : ∀ uri document, store.find? uri = some document →
      after.1.isTracked uri = (later document.languageId uri.path).isSome :=
    fun uri document hfind => (hderived uri document hfind).2.1
  have hfailures : after.2 = 1 := hcount.trans (by decide +kernel)
  obtain ⟨hsame, hnumber⟩ := hother [fails, gains, loses] (by decide +kernel)
  obtain ⟨hsame', hnumber'⟩ := hagain [loses, gains, fails] (by decide +kernel)
  have hreloaded : reloaded.2 = 1 := hwholeCount.trans hfailures
  exact ⟨by decide +kernel, htracked gains _ rfl, htracked loses _ rfl, htracked fails _ rfl,
    hfailures, by decide +kernel, hsame, hnumber.trans hfailures, hsame',
    hnumber'.trans hfailures, by decide +kernel, hwhole, hreloaded, htwice,
    htwiceCount.trans hreloaded⟩

end Store

end ScopeTracker
