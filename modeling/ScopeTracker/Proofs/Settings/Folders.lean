import Mathlib.Control.Monad.Basic
import ScopeTracker.Settings.Discovery

/-!
# The registry of the settings

The settings name folders with grammar files. Those that do not exist are passed over. The others
are added to the bundled grammars one after the other, and if one of them cannot be loaded, what has
been added before it is given up again. The root scopes for language ids are kept in any case. It
does not matter how the grammars of a folder are found.

Main statement: the registry has the bundled grammars and those of all folders that exist, or the
bundled ones alone (`buildRegistry_all_or_nothing`).
-/

namespace ScopeTracker

namespace Settings

variable {read : FolderReader} {files : FileTree} {directory : Path} {entries : List String}
  {added : List Definition}

/-- The folders as the settings list them. -/
def folderEntries (settings : Settings) : List String :=
  match settings.grammars with
  | some grammars => grammars.paths
  | none => []

/-- The settings with other folders. -/
def withFolders (settings : Settings) (entries : List String) : Settings :=
  { settings with grammars := some { paths := entries } }

/-- Whether there is a directory where an entry points to from the directory of the settings. -/
def folderExists (files : FileTree) (directory : Path) (entry : String) : Bool :=
  files.isDirectoryAt (directory.join (.ofString entry))

/-- The grammars that a list of entries adds: those of all folders that exist, in the order of the
list. It adds none if one of these folders cannot be loaded. -/
inductive Gathers (read : FolderReader) (files : FileTree) (directory : Path) :
    List String → List Definition → Prop where
  | nil : Gathers read files directory [] []
  | missing {entry entries added} (hmissing : folderExists files directory entry = false)
      (hrest : Gathers read files directory entries added) :
      Gathers read files directory (entry :: entries) added
  | folder {entry entries found added} (hexists : folderExists files directory entry)
      (hfound : read (directory.join (.ofString entry)) = .ok found)
      (hrest : Gathers read files directory entries added) :
      Gathers read files directory (entry :: entries) (found ++ added)

/-- A folder that exists and cannot be loaded. -/
def Spoils (read : FolderReader) (files : FileTree) (directory : Path) (entry : String) :
    Prop :=
  folderExists files directory entry ∧
    ∃ error, read (directory.join (.ofString entry)) = .error error

theorem gathers_or_spoils (read : FolderReader) (files : FileTree) (directory : Path)
    (entries : List String) :
    (∃ added, Gathers read files directory entries added) ∨
      ∃ entry ∈ entries, Spoils read files directory entry := by
  induction entries with
  | nil => exact .inl ⟨[], .nil⟩
  | cons entry entries ih =>
    rcases ih with ⟨added, hadded⟩ | ⟨spoiling, hmem, hspoils⟩
    · cases hexists : folderExists files directory entry with
      | false => exact .inl ⟨added, .missing hexists hadded⟩
      | true =>
        cases hread : read (directory.join (.ofString entry)) with
        | ok found => exact .inl ⟨found ++ added, .folder hexists hread hadded⟩
        | error error => exact .inr ⟨entry, List.mem_cons_self, hexists, error, hread⟩
    · exact .inr ⟨spoiling, List.mem_cons_of_mem entry hmem, hspoils⟩

theorem Gathers.not_spoils (h : Gathers read files directory entries added) {entry : String}
    (hmem : entry ∈ entries) : ¬ Spoils read files directory entry := by
  rintro ⟨hexists, error, herror⟩
  induction h with
  | nil => cases hmem
  | missing hmissing hrest ih =>
    rcases List.mem_cons.mp hmem with rfl | hmem
    · rw [hmissing] at hexists
      cases hexists
    · exact ih hmem
  | folder hfolder hfound hrest ih =>
    rcases List.mem_cons.mp hmem with rfl | hmem
    · rw [hfound] at herror
      cases herror
    · exact ih hmem

/-! ## Adding folders -/

/-- The folders that a list of entries points to, as far as they exist. -/
def existingFolders (files : FileTree) (directory : Path) (entries : List String) : List Path :=
  (entries.filter (folderExists files directory)).map fun entry => directory.join (.ofString entry)

theorem grammarFolders_eq (settings : Settings) (files : FileTree) (directory : Path) :
    settings.grammarFolders files directory =
      existingFolders files directory settings.folderEntries := by
  have hentries : (settings.grammars.map (·.paths)).getD [] = settings.folderEntries := by
    unfold folderEntries
    cases settings.grammars <;> rfl
  rw [grammarFolders, hentries, List.filter_map]
  rfl

theorem existingFolders_of_missing {entry : String}
    (h : folderExists files directory entry = false) (entries : List String) :
    existingFolders files directory (entry :: entries) =
      existingFolders files directory entries := by
  rw [existingFolders, List.filter_cons_of_neg (by simp [h]), existingFolders]

theorem existingFolders_of_exists {entry : String} (h : folderExists files directory entry)
    (entries : List String) :
    existingFolders files directory (entry :: entries) =
      directory.join (.ofString entry) :: existingFolders files directory entries := by
  rw [existingFolders, List.filter_cons_of_pos h, List.map_cons, existingFolders]

/-- Folders that can all be loaded are added behind what is known. -/
theorem Gathers.foldlM_addFolder (h : Gathers read files directory entries added)
    (known : List Definition) :
    (existingFolders files directory entries).foldlM (Registry.addFolder read) known =
      .ok (known ++ added) := by
  induction h generalizing known with
  | nil => rw [List.append_nil]; rfl
  | missing hmissing hrest ih => rw [existingFolders_of_missing hmissing, ih]
  | folder hexists hfound hrest ih =>
    rw [existingFolders_of_exists hexists, List.foldlM_cons, Registry.addFolder, hfound,
      ← List.append_assoc]
    exact ih _

/-- A folder that cannot be loaded ends the loading, wherever it stands. -/
theorem Spoils.foldlM_addFolder {entry : String} (h : Spoils read files directory entry)
    (hmem : entry ∈ entries) (known : List Definition) :
    ∃ error, (existingFolders files directory entries).foldlM (Registry.addFolder read)
      known = .error error := by
  induction entries generalizing known with
  | nil => cases hmem
  | cons first entries ih =>
    obtain ⟨hexists, error, hread⟩ := h
    rcases List.mem_cons.mp hmem with rfl | hmem
    · rw [existingFolders_of_exists hexists, List.foldlM_cons, Registry.addFolder, hread]
      exact ⟨error, rfl⟩
    · cases hfirst : folderExists files directory first with
      | false =>
        rw [existingFolders_of_missing hfirst]
        exact ih hmem known
      | true =>
        rw [existingFolders_of_exists hfirst, List.foldlM_cons, Registry.addFolder]
        cases read (directory.join (.ofString first)) with
        | ok found => exact ih hmem (known ++ found)
        | error firstError => exact ⟨firstError, rfl⟩

/-! ## The registry -/

theorem buildRegistry_of_gathers {settings : Settings}
    (h : Gathers read files directory settings.folderEntries added) :
    settings.buildRegistryFrom read files directory =
      { definitions := Definition.bundled ++ added, languages := settings.languages.getD [] } := by
  rw [buildRegistryFrom, Registry.loadFrom, grammarFolders_eq, h.foldlM_addFolder]
  rfl

theorem buildRegistry_of_spoils {settings : Settings} {entry : String}
    (hmem : entry ∈ settings.folderEntries) (h : Spoils read files directory entry) :
    settings.buildRegistryFrom read files directory =
      { definitions := Definition.bundled, languages := settings.languages.getD [] } := by
  obtain ⟨error, herror⟩ := h.foldlM_addFolder hmem Definition.bundled
  rw [buildRegistryFrom, Registry.loadFrom, grammarFolders_eq, herror]
  rfl

theorem buildRegistry_withFolders {settings : Settings} (read : FolderReader)
    (h : entries.filter (folderExists files directory) =
      settings.folderEntries.filter (folderExists files directory)) :
    (settings.withFolders entries).buildRegistryFrom read files directory =
      settings.buildRegistryFrom read files directory := by
  have hfolders : (settings.withFolders entries).grammarFolders files directory =
      settings.grammarFolders files directory := by
    rw [grammarFolders_eq, grammarFolders_eq, existingFolders, existingFolders, ← h]
    rfl
  rw [buildRegistryFrom, buildRegistryFrom, hfolders]
  rfl

/-- The registry that settings describe, for any files and any way to load a folder; `buildRegistry`
is the case of `Registry.readFolder`. The root scopes for language ids are the configured ones. If
every listed folder that exists can be loaded, the grammars are the bundled ones followed by those
of these folders in the order of the list; if one of them cannot, they are the bundled ones alone,
so there are never those of some of the folders only. Entries that lead to no directory may be put
in or left out anywhere. -/
theorem buildRegistry_all_or_nothing (settings : Settings) (read : FolderReader)
    (files : FileTree) (directory : Path) :
    let registry := settings.buildRegistryFrom read files directory
    registry.languages = settings.languages.getD [] ∧
      (∀ added, Gathers read files directory settings.folderEntries added →
        registry.definitions = Definition.bundled ++ added) ∧
      ((∃ entry ∈ settings.folderEntries, Spoils read files directory entry) →
        registry.definitions = Definition.bundled) ∧
      ((∃ added, Gathers read files directory settings.folderEntries added) ↔
        ∀ entry ∈ settings.folderEntries, ¬ Spoils read files directory entry) ∧
      ∀ entries, entries.filter (folderExists files directory) =
          settings.folderEntries.filter (folderExists files directory) →
        (settings.withFolders entries).buildRegistryFrom read files directory = registry := by
  intro registry
  refine ⟨?_, fun added hadded => ?_, ?_, ⟨?_, fun h => ?_⟩,
    fun entries => buildRegistry_withFolders read⟩
  · rcases gathers_or_spoils read files directory settings.folderEntries with
      ⟨added, hadded⟩ | ⟨entry, hmem, hspoils⟩
    · exact congrArg Registry.languages (buildRegistry_of_gathers hadded)
    · exact congrArg Registry.languages (buildRegistry_of_spoils hmem hspoils)
  · exact congrArg Registry.definitions (buildRegistry_of_gathers hadded)
  · rintro ⟨entry, hmem, hspoils⟩
    exact congrArg Registry.definitions (buildRegistry_of_spoils hmem hspoils)
  · rintro ⟨added, hadded⟩ entry hmem
    exact hadded.not_spoils hmem
  · rcases gathers_or_spoils read files directory settings.folderEntries with
      hgathers | ⟨entry, hmem, hspoils⟩
    · exact hgathers
    · exact absurd hspoils (h entry hmem)

/-- The list names a folder that is missing, one with a grammar, and a file. A folder behind these
whose only grammar file cannot be read takes the grammar away again. -/
theorem buildRegistry_all_or_nothing_spoiled :
    let toy : Definition := ⟨"Toy", "source.toy", ["toy"], []⟩
    let reader : DefinitionReader := fun _ => some toy
    let files : FileTree := .directory [("w", .directory [
      ("a", .directory [("toy.sublime-syntax", .file ⟨#[1]⟩)]),
      ("b", .directory [("sub", .directory [("broken.sublime-syntax", .unreadable)])]),
      ("notes", .file ⟨#[1]⟩)])]
    let settings : Settings :=
      { grammars := some { paths := ["gone", "a", "notes"] }
        languages := some [("x", "source.toy")] }
    let registry := settings.buildRegistry reader files (.ofString "/w")
    let spoiled := (settings.withFolders ["gone", "a", "notes", "/w/b"]).buildRegistry reader files
      (.ofString "/w")
    (registry.definitions = Definition.bundled ++ [toy] ∧
        registry.languages = [("x", "source.toy")]) ∧
      (settings.withFolders ["a"]).buildRegistry reader files (.ofString "/w") = registry ∧
      spoiled.definitions = Definition.bundled ∧ spoiled.languages = [("x", "source.toy")] := by
  intro toy reader files settings registry spoiled
  have hread : Registry.readFolder reader files
      ((Path.ofString "/w").join (.ofString "a")) = .ok [toy] := by decide +kernel
  have hgathers : Gathers (Registry.readFolder reader files) files (.ofString "/w")
      settings.folderEntries ([toy] ++ []) :=
    .missing (by decide +kernel) (.folder (by decide +kernel) hread
      (.missing (by decide +kernel) .nil))
  have hspoils : Spoils (Registry.readFolder reader files) files (.ofString "/w") "/w/b" :=
    ⟨by decide +kernel, .folder (.ofString "/w/b"), by decide +kernel⟩
  obtain ⟨hlanguages, hadded, -, -, hfilter⟩ :=
    buildRegistry_all_or_nothing settings (Registry.readFolder reader files) files (.ofString "/w")
  obtain ⟨hkept, -, hnone, -, -⟩ :=
    buildRegistry_all_or_nothing (settings.withFolders ["gone", "a", "notes", "/w/b"])
      (Registry.readFolder reader files) files (.ofString "/w")
  refine ⟨⟨hadded _ hgathers, hlanguages⟩, hfilter ["a"] (by decide +kernel),
    hnone ⟨"/w/b", by decide +kernel, hspoils⟩, hkept⟩

end Settings

end ScopeTracker
