import ScopeTracker.Proofs.Files.Following
import ScopeTracker.Settings.Discovery

/-!
# The settings that are found

A settings file counts for everything below its directory, unless there is another one nearer. The
search stops at the nearest file even if that cannot be used, and what lies elsewhere does not
matter then. Only without a file at or above the start are the directories in it looked at, and
nothing below them.

Main statement: the search for settings takes the nearest file above, else one in a directory right
below, else none (`discover_takes_nearest`).
-/

namespace ScopeTracker

namespace Settings

variable {files : FileTree} {start directory child : Path} {file : FileTree}

/-- The settings file in a directory, whatever it holds. A directory of that name does not count. -/
def fileIn? (files : FileTree) (directory : Path) : Option FileTree :=
  (files.find? directory).bind fun tree =>
    (tree.children.lookup fileName).filter FileTree.isFile

/-- The settings that a file holds. It holds none if it cannot be read, is not a text, or if the
text is not one of settings. -/
def ofFile? (file : FileTree) : Option Settings :=
  file.content?.bind fun bytes => (String.fromUTF8? bytes).bind fun s => ofText? s.toList

/-- The nearest of the directories with a settings file that a path is within. -/
structure IsNearest (files : FileTree) (start directory : Path) : Prop where
  isWithin : start.IsWithin directory
  hasFile : (fileIn? files directory).isSome
  isWithin_of_hasFile : ∀ other, start.IsWithin other → (fileIn? files other).isSome →
    directory.IsWithin other

/-- A directory right in another one. -/
def IsSubdirectory (files : FileTree) (directory child : Path) : Prop :=
  ∃ name, name ≠ Path.above ∧ child = directory.child name ∧ files.isDirectoryAt child

/-- The settings for a path are those of the file in a directory: what the file holds, or the
default settings if it holds none. -/
def TakenFrom (files : FileTree) (start directory : Path) : Prop :=
  ∃ file, fileIn? files directory = some file ∧
    discover files start = (load files (directory.child fileName), directory) ∧
    load files (directory.child fileName) = (ofFile? file).getD {}

/-! ## Settings files -/

theorem fileName_ne_above : fileName ≠ Path.above := by decide

theorem isIn_eq (files : FileTree) (directory : Path) :
    isIn files directory = (fileIn? files directory).isSome := by
  rw [isIn, FileTree.isFileAt, FileTree.find?_child fileName_ne_above, fileIn?]
  cases files.find? directory with
  | none => rfl
  | some tree =>
    rw [Option.bind_some, Option.bind_some]
    cases tree.children.lookup fileName with
    | none => rfl
    | some file => cases h : file.isFile <;> simp [h, Option.filter_some]

/-- What cannot be used stands for the default settings. -/
theorem load_of_fileIn? (h : fileIn? files directory = some file) :
    load files (directory.child fileName) = (ofFile? file).getD {} := by
  obtain ⟨tree, htree, hfile⟩ := Option.bind_eq_some_iff.mp h
  have hlookup := (Option.filter_eq_some_iff.mp hfile).1
  have hread : files.read? (directory.child fileName) = file.content? := by
    rw [FileTree.read?, FileTree.find?_child fileName_ne_above, htree, Option.bind_some, hlookup,
      Option.bind_some]
  rw [load, hread, ofFile?]
  cases file.content? <;> rfl

theorem isDirectoryAt_of_fileIn? (h : (fileIn? files directory).isSome) :
    files.isDirectoryAt directory := by
  obtain ⟨file, hfile⟩ := Option.isSome_iff_exists.mp h
  obtain ⟨tree, htree, hfile⟩ := Option.bind_eq_some_iff.mp hfile
  have hlookup := (Option.filter_eq_some_iff.mp hfile).1
  exact FileTree.isDirectoryAt_iff.mpr ⟨tree, htree, FileTree.isDirectory_of_lookup hlookup⟩

/-! ## Upwards -/

theorem nearest?_eq (files : FileTree) (start : Path) :
    nearest? files start =
      if isIn files start then some start else start.parent?.bind (nearest? files) := by
  rw [nearest?]
  split
  · rfl
  · cases start.parent? <;> rfl

/-- A file that is not in the start itself is further up. -/
theorem exists_parent_of_not_isIn {upper : Path} (hhere : ¬ isIn files start)
    (hwithin : start.IsWithin upper) (hfile : (fileIn? files upper).isSome) :
    ∃ parent, start.parent? = some parent ∧ parent.IsWithin upper := by
  obtain rfl | h := Path.isWithin_iff.mp hwithin
  · exact absurd ((isIn_eq files upper).trans hfile) hhere
  · exact h

theorem isNearest_of_nearest? (h : nearest? files start = some directory) :
    IsNearest files start directory := by
  fun_induction nearest? files start with
  | case1 start hhere =>
    cases h
    exact ⟨.self, (isIn_eq files _).symm.trans hhere, fun _ hother _ => hother⟩
  | case2 start hhere upper hupper ih =>
    obtain ⟨hwithin, hfile, hnearest⟩ := ih h
    refine ⟨Path.isWithin_of_parent? hupper hwithin, hfile, fun other hother hfile => ?_⟩
    obtain ⟨parent, hparent, hother⟩ := exists_parent_of_not_isIn hhere hother hfile
    rw [hupper] at hparent
    cases hparent
    exact hnearest other hother hfile
  | case3 start hhere hnone => cases h

theorem not_hasFile_of_nearest?_eq_none (h : nearest? files start = none) {upper : Path}
    (hwithin : start.IsWithin upper) : ¬ (fileIn? files upper).isSome := by
  intro hfile
  fun_induction nearest? files start with
  | case1 start hhere => cases h
  | case2 start hhere parent hparent ih =>
    obtain ⟨other, hother, hwithin⟩ := exists_parent_of_not_isIn hhere hwithin hfile
    rw [hparent] at hother
    cases hother
    exact ih h hwithin
  | case3 start hhere hnone =>
    obtain ⟨other, hother, -⟩ := exists_parent_of_not_isIn hhere hwithin hfile
    rw [hnone] at hother
    cases hother

theorem nearest?_eq_none_iff :
    nearest? files start = none ↔
      ∀ upper, start.IsWithin upper → ¬ (fileIn? files upper).isSome := by
  constructor
  · exact fun h upper => not_hasFile_of_nearest?_eq_none h
  · intro hnone
    cases h : nearest? files start with
    | none => rfl
    | some nearest =>
      have hnearest := isNearest_of_nearest? h
      exact absurd hnearest.hasFile (hnone nearest hnearest.isWithin)

/-- The search upwards depends on the files between the start and the directory it ends at only. -/
theorem nearest?_congr {other : FileTree} (h : nearest? files start = some directory)
    (hsame : ∀ between, start.IsWithin between → between.IsWithin directory →
      fileIn? other between = fileIn? files between) :
    nearest? other start = some directory := by
  fun_induction nearest? files start with
  | case1 start hfile =>
    cases h
    rw [isIn_eq, ← hsame _ .self .self, ← isIn_eq] at hfile
    rw [nearest?_eq, if_pos hfile]
  | case2 start hfile upper hupper ih =>
    have hwithin := Path.isWithin_of_parent? hupper (isNearest_of_nearest? h).isWithin
    rw [isIn_eq, ← hsame _ .self hwithin, ← isIn_eq] at hfile
    rw [nearest?_eq, if_neg hfile, hupper]
    exact ih h fun between hbetween => hsame between (Path.isWithin_of_parent? hupper hbetween)
  | case3 start hfile hnone => cases h

/-! ## Downwards -/

theorem mem_subdirectories (h : IsSubdirectory files start child) :
    child ∈ subdirectories files start := by
  obtain ⟨name, hname, rfl, hdirectory⟩ := h
  obtain ⟨found, hfound, hdirectory⟩ := FileTree.isDirectoryAt_iff.mp hdirectory
  rw [FileTree.find?_child hname] at hfound
  obtain ⟨tree, htree, hlookup⟩ := Option.bind_eq_some_iff.mp hfound
  obtain ⟨before, after, hchildren, -⟩ := List.lookup_eq_some_iff.mp hlookup
  have hmem : (name, found) ∈ tree.children := by simp [hchildren]
  rw [subdirectories, htree]
  exact List.mem_map.mpr ⟨(name, found), List.mem_filter.mpr ⟨hmem, hdirectory⟩, rfl⟩

/-- A directory that is listed in a path and has a settings file is not called `..`: that name leads
to a directory that the path is within, and none of those has a file. -/
theorem isSubdirectory_of_mem (hmem : child ∈ subdirectories files start)
    (hfile : (fileIn? files child).isSome)
    (hnone : ∀ upper, start.IsWithin upper → ¬ (fileIn? files upper).isSome) :
    IsSubdirectory files start child := by
  have hdirectory := isDirectoryAt_of_fileIn? hfile
  unfold subdirectories at hmem
  split at hmem
  · obtain ⟨⟨name, found⟩, -, rfl⟩ := List.mem_map.mp hmem
    refine ⟨name, ?_, rfl, hdirectory⟩
    rintro rfl
    obtain ⟨above, habove, hdirectory⟩ := FileTree.isDirectoryAt_iff.mp hdirectory
    obtain ⟨upper, hwithin, hupper⟩ := FileTree.exists_isWithin_of_find?_above habove hdirectory
    have hsame : fileIn? files upper = fileIn? files (start.child Path.above) := by
      rw [fileIn?, fileIn?, hupper, habove]
    exact hnone upper hwithin (hsame ▸ hfile)
  · cases hmem

/-! ## The directory whose file counts -/

theorem discover_of_directory? (h : directory? files start = some directory) :
    discover files start = (load files (directory.child fileName), directory) := by
  rw [discover, h]

theorem directory?_of_nearest? (h : nearest? files start = some directory) :
    directory? files start = some directory := by
  rw [directory?, h, Option.some_or]

theorem takenFrom_of_directory? (h : directory? files start = some directory)
    (hfile : (fileIn? files directory).isSome) : TakenFrom files start directory := by
  obtain ⟨file, hfile⟩ := Option.isSome_iff_exists.mp hfile
  exact ⟨file, hfile, discover_of_directory? h, load_of_fileIn? hfile⟩

/-- If a file is found upwards, what lies further up or below the start makes no difference. -/
theorem discover_congr {other : FileTree} (h : nearest? files start = some directory)
    (hsame : ∀ between, start.IsWithin between → between.IsWithin directory →
      fileIn? other between = fileIn? files between) :
    discover other start = discover files start := by
  have hnearest := isNearest_of_nearest? h
  obtain ⟨file, hfile⟩ := Option.isSome_iff_exists.mp hnearest.hasFile
  have hother := (hsame directory hnearest.isWithin .self).trans hfile
  rw [discover_of_directory? (directory?_of_nearest? h), load_of_fileIn? hfile,
    discover_of_directory? (directory?_of_nearest? (nearest?_congr h hsame)),
    load_of_fileIn? hother]

/-- The settings that count for a path. If the path is within directories with a settings file,
these are the settings in the nearest one, be it of any use or not, and nothing that lies further up
or below the start makes a difference. Otherwise they are those in one of the directories right in
the start, and if none of these has a file, the default settings, seen from the start. -/
theorem discover_takes_nearest (files : FileTree) (start : Path) :
    ((∃ upper, start.IsWithin upper ∧ (fileIn? files upper).isSome) →
      ∃ nearest, IsNearest files start nearest ∧ TakenFrom files start nearest ∧
        ∀ other : FileTree, (∀ between, start.IsWithin between → between.IsWithin nearest →
            fileIn? other between = fileIn? files between) →
          discover other start = discover files start) ∧
    ((∀ upper, start.IsWithin upper → ¬ (fileIn? files upper).isSome) →
      ((∃ child, IsSubdirectory files start child ∧ (fileIn? files child).isSome) →
        ∃ child, IsSubdirectory files start child ∧ TakenFrom files start child) ∧
      ((∀ child, IsSubdirectory files start child → ¬ (fileIn? files child).isSome) →
        discover files start = ({}, start))) := by
  constructor
  · rintro ⟨upper, hwithin, hfile⟩
    cases h : nearest? files start with
    | none => exact absurd hfile (nearest?_eq_none_iff.mp h upper hwithin)
    | some nearest =>
      have hnearest := isNearest_of_nearest? h
      exact ⟨nearest, hnearest,
        takenFrom_of_directory? (directory?_of_nearest? h) hnearest.hasFile,
        fun other => discover_congr h⟩
  · intro hnone
    have hdirectory : directory? files start = (subdirectories files start).find? (isIn files) := by
      rw [directory?, nearest?_eq_none_iff.mpr hnone, Option.none_or]
    constructor
    · rintro ⟨child, hchild, hfile⟩
      have hsome : ((subdirectories files start).find? (isIn files)).isSome :=
        List.find?_isSome.mpr ⟨child, mem_subdirectories hchild, (isIn_eq files child).trans hfile⟩
      obtain ⟨found, hfound⟩ := Option.isSome_iff_exists.mp hsome
      have hfile := (isIn_eq files found).symm.trans (List.find?_some hfound)
      have hmem := List.mem_of_find?_eq_some hfound
      exact ⟨found, isSubdirectory_of_mem hmem hfile hnone,
        takenFrom_of_directory? (hdirectory.trans hfound) hfile⟩
    · intro hchildren
      have hfound : (subdirectories files start).find? (isIn files) = none := by
        rw [List.find?_eq_none]
        intro child hmem hfile
        rw [isIn_eq] at hfile
        exact hchildren child (isSubdirectory_of_mem hmem hfile hnone) hfile
      rw [discover, hdirectory, hfound]

/-- The nearest file is malformed. There are files of use above and below it, and a directory of the
name of one on the way. From further up the nearest file is of use. -/
theorem discover_takes_nearest_malformed :
    let useful : FileTree := .file "[tokenizer]\nmax_line_length = 2\n".toUTF8
    let malformed : FileTree := .file "[tokenizer\nmax_line_length = ".toUTF8
    let files : FileTree := .directory [("p", .directory [(fileName, useful),
      ("q", .directory [(fileName, malformed),
        ("r", .directory [(fileName, .directory []), ("s", .directory [(fileName, useful)])])])])]
    discover files (.ofString "/p/q/r") = ({}, .ofString "/p/q") ∧
      discover files (.ofString "/p") =
        ({ tokenizer := some { maxLineLength := some 2 } }, .ofString "/p") := by
  intro useful malformed files
  constructor
  · have hwithin : (Path.ofString "/p/q/r").IsWithin (.ofString "/p/q") :=
      Path.isWithin_of_parent? rfl .self
    have hfile : fileIn? files (.ofString "/p/q") = some malformed := by rfl
    obtain ⟨nearest, hnearest, ⟨file, hfound, hdiscover, hload⟩, -⟩ :=
      (discover_takes_nearest files (.ofString "/p/q/r")).1 ⟨_, hwithin, hfile ▸ rfl⟩
    have hbelow : (Path.ofString "/p/q").IsWithin nearest := by
      obtain rfl | ⟨parent, hparent, h⟩ := Path.isWithin_iff.mp hnearest.isWithin
      · exact absurd hnearest.hasFile (by decide +kernel)
      · cases hparent
        exact h
    obtain rfl := hbelow.antisymm (hnearest.isWithin_of_hasFile _ hwithin (hfile ▸ rfl))
    obtain rfl := Option.some.inj (hfile.symm.trans hfound)
    rw [hdiscover, hload, show ofFile? malformed = none by decide +kernel, Option.getD_none]
  · have hfile : fileIn? files (.ofString "/p") = some useful := by rfl
    obtain ⟨nearest, hnearest, ⟨file, hfound, hdiscover, hload⟩, -⟩ :=
      (discover_takes_nearest files (.ofString "/p")).1 ⟨_, .self, hfile ▸ rfl⟩
    obtain rfl := hnearest.isWithin.antisymm
      (hnearest.isWithin_of_hasFile _ .self (hfile ▸ rfl))
    obtain rfl := Option.some.inj (hfile.symm.trans hfound)
    have hread : ofFile? useful = some { tokenizer := some { maxLineLength := some 2 } } := by
      decide +kernel
    rw [hdiscover, hload, hread, Option.getD_some]

end Settings

end ScopeTracker
