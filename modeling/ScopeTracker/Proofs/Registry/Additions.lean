import ScopeTracker.Registry.Folders

/-!
# Adding grammars

The grammar for a document is looked for by a few conditions, one after the other, and of the
grammars that satisfy a condition the one added last is taken. A grammar that is added can therefore
only win or lose: where it wins at one of the conditions it is the grammar of the document, and
where it does not, nothing tells that it is there.

Main statements: a grammar takes over the documents for which it satisfies a condition that no known
grammar is found by before, and all other documents keep their grammar (`resolve_add`); of many that
are added one takes over, or none (`resolveBy_append`).
-/

namespace ScopeTracker

namespace Registry

variable {ν : Type} [DecidableEq ν] {readScope : String → Option ν} {registry : Registry}
  {added : Definition} {searches : List (Definition → Bool)}

/-- The registry with one more grammar. -/
def add (registry : Registry) (definition : Definition) : Registry :=
  { registry with definitions := registry.definitions ++ [definition] }

/-- The registry without a root scope for a language id. -/
def unconfigure (registry : Registry) (languageId : String) : Registry :=
  { registry with languages := registry.languages.filter fun entry => entry.1 ≠ languageId }

/-! ## The conditions of a search -/

/-- Whether a grammar has the root scope of a name. What cannot be read is the name of none. -/
def hasScope (readScope : String → Option ν) (scope : String) (definition : Definition) : Bool :=
  (readScope scope).isSome && readScope definition.scope = readScope scope

/-- Whether a grammar is used for a file extension. -/
def hasExtension (extension : String) (definition : Definition) : Bool :=
  definition.extensions.any (sameName extension)

/-- Whether a grammar has a name. -/
def hasName (name : String) (definition : Definition) : Bool := sameName name definition.name

/-- The conditions by which the grammar for a document is looked for, in their order: by the root
scope that is configured, by the language id as an extension and as a name, and by the extension of
the path. -/
def searchesFor (readScope : String → Option ν) (registry : Registry) (languageId path : String) :
    List (Definition → Bool) :=
  ((registry.languages.lookup languageId).map (hasScope readScope)).toList ++
    ([hasExtension languageId, hasName languageId] ++
      ((Path.ofString path).extension?.map hasExtension).toList)

theorem forScopeBy?_eq (registry : Registry) (scope : String) :
    registry.forScopeBy? readScope scope = registry.findLast? (hasScope readScope scope) := by
  unfold forScopeBy? findLast? hasScope
  cases readScope scope with
  | none =>
    rw [Option.bind_none, eq_comm, List.find?_eq_none]
    simp
  | some wanted => simp

theorem configuredBy?_eq (registry : Registry) (languageId : String) :
    registry.configuredBy? readScope languageId =
      ((registry.languages.lookup languageId).map (hasScope readScope)).toList.findSome?
        registry.findLast? := by
  unfold configuredBy?
  cases registry.languages.lookup languageId with
  | none => rfl
  | some scope => simp [forScopeBy?_eq]

theorem forToken?_eq (registry : Registry) (token : String) :
    registry.forToken? token =
      [hasExtension token, hasName token].findSome? registry.findLast? := by
  unfold forToken?
  cases h : registry.findLast? (hasExtension token) with
  | none =>
    have hname : registry.forName? token = registry.findLast? (hasName token) := rfl
    have hextension : registry.forExtension? token = none := h
    cases hfound : registry.findLast? (hasName token) <;> simp [h, hname, hextension, hfound]
  | some found =>
    have hextension : registry.forExtension? token = some found := h
    simp [h, hextension]

theorem forPath?_eq (registry : Registry) (path : String) :
    registry.forPath? path =
      ((Path.ofString path).extension?.map hasExtension).toList.findSome? registry.findLast? := by
  unfold forPath?
  cases (Path.ofString path).extension? with
  | none => rfl
  | some extension =>
    have hextension : registry.forExtension? extension =
        registry.findLast? (hasExtension extension) := rfl
    simp [hextension]

/-- The grammar for a document is found by the first of its conditions that a grammar satisfies. -/
theorem resolveBy_eq (registry : Registry) (languageId path : String) :
    registry.resolveBy readScope languageId path =
      (registry.searchesFor readScope languageId path).findSome? registry.findLast? := by
  rw [resolveBy, searchesFor, List.findSome?_append, List.findSome?_append, configuredBy?_eq,
    forToken?_eq, forPath?_eq]

/-! ## One more grammar -/

/-- Whether a grammar that is added is found by a list of conditions: it satisfies one of them, and
none of the known grammars satisfies one before. -/
inductive TakesOver (registry : Registry) (added : Definition) :
    List (Definition → Bool) → Prop where
  | here {search later} (h : search added) : TakesOver registry added (search :: later)
  | next {search later} (hnone : ∀ known ∈ registry.definitions, search known = false)
      (h : TakesOver registry added later) : TakesOver registry added (search :: later)

theorem takesOver_cons_iff {search : Definition → Bool} :
    registry.TakesOver added (search :: searches) ↔ search added ∨
      (∀ known ∈ registry.definitions, search known = false) ∧
        registry.TakesOver added searches := by
  constructor
  · rintro (h | ⟨hnone, h⟩)
    · exact .inl h
    · exact .inr ⟨hnone, h⟩
  · rintro (h | ⟨hnone, h⟩)
    · exact .here h
    · exact .next hnone h

instance decidableTakesOver (registry : Registry) (added : Definition) :
    (searches : List (Definition → Bool)) → Decidable (registry.TakesOver added searches)
  | [] => isFalse (nomatch ·)
  | _ :: searches =>
    have := decidableTakesOver registry added searches
    decidable_of_iff _ takesOver_cons_iff.symm

theorem findLast?_add (registry : Registry) (added : Definition) (search : Definition → Bool) :
    (registry.add added).findLast? search =
      if search added then some added else registry.findLast? search := by
  rw [findLast?, add, List.reverse_append, List.reverse_singleton, List.singleton_append,
    List.find?_cons, findLast?]
  cases search added <;> rfl

theorem findLast?_eq_none_iff {search : Definition → Bool} :
    registry.findLast? search = none ↔ ∀ known ∈ registry.definitions, search known = false := by
  simp [findLast?]

theorem findSome?_add_of_takesOver (h : registry.TakesOver added searches) :
    searches.findSome? (registry.add added).findLast? = some added := by
  induction h with
  | here h => rw [List.findSome?_cons, findLast?_add, if_pos h]
  | @next search later hnone h ih =>
    rw [List.findSome?_cons, findLast?_add, findLast?_eq_none_iff.mpr hnone]
    by_cases hadded : search added
    · rw [if_pos hadded]
    · rw [if_neg hadded, ih]

theorem findSome?_add_of_not_takesOver (h : ¬ registry.TakesOver added searches) :
    searches.findSome? (registry.add added).findLast? = searches.findSome? registry.findLast? := by
  induction searches with
  | nil => rfl
  | cons search later ih =>
    have hadded : ¬ search added := fun hadded => h (.here hadded)
    rw [List.findSome?_cons, List.findSome?_cons, findLast?_add, if_neg hadded]
    cases hfound : registry.findLast? search with
    | some found => rfl
    | none =>
      -- no grammar is found by this condition, so the next one decides
      exact ih fun hlater => h (.next (findLast?_eq_none_iff.mp hfound) hlater)

theorem resolveBy_add_of_takesOver {languageId path : String}
    (h : registry.TakesOver added (registry.searchesFor readScope languageId path)) :
    (registry.add added).resolveBy readScope languageId path = some added := by
  rw [resolveBy_eq]
  exact findSome?_add_of_takesOver h

theorem resolveBy_add_of_not_takesOver {languageId path : String}
    (h : ¬ registry.TakesOver added (registry.searchesFor readScope languageId path)) :
    (registry.add added).resolveBy readScope languageId path =
      registry.resolveBy readScope languageId path := by
  rw [resolveBy_eq, resolveBy_eq]
  exact findSome?_add_of_not_takesOver h

theorem forScopeBy?_add (registry : Registry) (added : Definition) (scope : String) :
    (registry.add added).forScopeBy? readScope scope =
      if hasScope readScope scope added then some added
      else registry.forScopeBy? readScope scope := by
  rw [forScopeBy?_eq, forScopeBy?_eq, findLast?_add]

/-- Of many grammars that are added, a document gets one of them or keeps the one that it had. -/
theorem resolveBy_append (registry : Registry) (added : List Definition)
    (languageId path : String) :
    let larger : Registry := { registry with definitions := registry.definitions ++ added }
    (∃ definition ∈ added, larger.resolveBy readScope languageId path = some definition) ∨
      larger.resolveBy readScope languageId path =
        registry.resolveBy readScope languageId path := by
  induction added generalizing registry with
  | nil => exact .inr (by simp only [List.append_nil])
  | cons first rest ih =>
    have hlarger : registry.definitions ++ first :: rest =
        (registry.add first).definitions ++ rest := by
      simp only [add, List.append_assoc, List.singleton_append]
    rw [hlarger]
    rcases ih (registry.add first) with ⟨definition, hmem, hfound⟩ | hkept
    · exact .inl ⟨definition, List.mem_cons_of_mem _ hmem, hfound⟩
    · by_cases h : registry.TakesOver first (registry.searchesFor readScope languageId path)
      · exact .inl ⟨first, List.mem_cons_self, hkept.trans (resolveBy_add_of_takesOver h)⟩
      · exact .inr (hkept.trans (resolveBy_add_of_not_takesOver h))

/-! ## Configured root scopes -/

theorem lookup_unconfigure (registry : Registry) (languageId other : String) :
    (registry.unconfigure languageId).languages.lookup other =
      if other = languageId then none else registry.languages.lookup other := by
  unfold unconfigure
  induction registry.languages with
  | nil => simp
  | cons entry rest ih =>
    obtain ⟨key, wanted⟩ := entry
    rw [List.filter_cons, List.lookup_cons]
    by_cases hkey : key = languageId
    · rw [if_neg (by simpa using hkey), ih]
      by_cases hother : other = languageId
      · rw [if_pos hother, if_pos hother]
      · have hne : (other == key) = false := by simpa [hkey] using hother
        rw [if_neg hother, if_neg hother, hne]
    · rw [if_pos (by simpa using hkey), List.lookup_cons, ih]
      by_cases hother : other = key
      · simp [hother, hkey]
      · have hne : (other == key) = false := by simpa using hother
        rw [hne]

/-- A root scope that no grammar has may as well not be configured. -/
theorem resolveBy_unconfigure {languageId : String}
    (h : ∀ wanted, registry.languages.lookup languageId = some wanted →
      registry.forScopeBy? readScope wanted = none) (other path : String) :
    (registry.unconfigure languageId).resolveBy readScope other path =
      registry.resolveBy readScope other path := by
  have hconfigured : (registry.unconfigure languageId).configuredBy? readScope other =
      registry.configuredBy? readScope other := by
    unfold configuredBy?
    rw [lookup_unconfigure]
    by_cases hother : other = languageId
    · subst hother
      rw [if_pos rfl, Option.bind_none, eq_comm, Option.bind_eq_none_iff]
      exact h
    · rw [if_neg hother]
      rfl
  rw [resolveBy, resolveBy, hconfigured]
  rfl

/-- One more grammar, at the end, whatever names of scopes are taken for the same. It becomes the
grammar of a document if it satisfies a condition of the search and no grammar was found by one
before; otherwise the document has the grammar that it had, or none as before. The same holds for a
root scope, which is the only condition then. So either the added grammar is found or what would be
found without it. A root scope that no grammar has, configured for a language id, is as if it were
not configured. -/
theorem resolve_add (readScope : String → Option ν) (registry : Registry) (added : Definition)
    (languageId path scope : String) :
    let larger := registry.add added
    (let known := registry.resolveBy readScope languageId path
      let found := larger.resolveBy readScope languageId path
      let searches := registry.searchesFor readScope languageId path
      (found = some added ∨ found = known) ∧
        (registry.TakesOver added searches → found = some added) ∧
        (¬ registry.TakesOver added searches → found = known)) ∧
    (let known := registry.forScopeBy? readScope scope
      let found := larger.forScopeBy? readScope scope
      (found = some added ∨ found = known) ∧
        (hasScope readScope scope added → found = some added) ∧
        (¬ hasScope readScope scope added → found = known)) ∧
    ((∀ wanted, registry.languages.lookup languageId = some wanted →
        registry.forScopeBy? readScope wanted = none) →
      ∀ other otherPath,
        (registry.unconfigure languageId).resolveBy readScope other otherPath =
          registry.resolveBy readScope other otherPath) := by
  intro larger
  refine ⟨⟨?_, resolveBy_add_of_takesOver, resolveBy_add_of_not_takesOver⟩,
    ⟨?_, fun h => ?_, fun h => ?_⟩, resolveBy_unconfigure⟩
  · by_cases h : registry.TakesOver added (registry.searchesFor readScope languageId path)
    · exact .inl (resolveBy_add_of_takesOver h)
    · exact .inr (resolveBy_add_of_not_takesOver h)
  · by_cases h : hasScope readScope scope added
    · exact .inl (by rw [forScopeBy?_add, if_pos h])
    · exact .inr (by rw [forScopeBy?_add, if_neg h])
  · rw [forScopeBy?_add, if_pos h]
  · rw [forScopeBy?_add, if_neg h]

/-- The language has a configured scope that no grammar has. The grammar that is added has the
extension of the path but not the name of the language, so it gets the document of another language
only. -/
theorem resolve_add_by_extension :
    let known : Definition := ⟨"Rust", "source.rust", ["rs"], []⟩
    let added : Definition := ⟨"Toy", "source.toy", ["toy", "RS"], []⟩
    let registry : Registry := ⟨[known], [("rust", "source.nope")]⟩
    ((registry.add added).resolve "rust" "/p/a.rs" = some known ∧
        (registry.unconfigure "rust").resolve "rust" "/p/a.rs" = some known) ∧
      (registry.add added).resolve "other" "/p/a.rs" = some added ∧
      (registry.add added).forScope? "source.toy." = some added := by
  intro known added registry
  have hknown : registry.resolve "rust" "/p/a.rs" = some known := by decide +kernel
  have hunknown : ∀ wanted, registry.languages.lookup "rust" = some wanted →
      registry.forScope? wanted = none := by
    rintro wanted ⟨⟩
    decide +kernel
  obtain ⟨⟨-, -, hkept⟩, ⟨-, hscope, -⟩, hunconfigured⟩ :=
    registry.resolve_add ScopeName.ofString? added "rust" "/p/a.rs" "source.toy."
  obtain ⟨⟨-, htaken, -⟩, -, -⟩ :=
    registry.resolve_add ScopeName.ofString? added "other" "/p/a.rs" "source.toy."
  exact ⟨⟨(hkept (by decide +kernel)).trans hknown, (hunconfigured hunknown _ _).trans hknown⟩,
    htaken (by decide +kernel), hscope (by decide +kernel)⟩

end Registry

end ScopeTracker
