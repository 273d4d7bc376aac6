import ScopeTracker.Registry.Folders
import ScopeTracker.Settings.Basic

/-!
# Finding the settings

The settings of a directory are in the nearest settings file at or above it. If there is none,
one in a directory right below it will do. Folders that the settings name are seen from the
directory where the file was found.
-/

namespace ScopeTracker

namespace Settings

/-- The settings in a file, the default ones if it cannot be read. -/
def load (files : FileTree) (path : Path) : Settings :=
  match files.read? path with
  | some bytes => ofBytes bytes
  | none => {}

/-- Whether a directory holds a settings file. -/
def isIn (files : FileTree) (directory : Path) : Bool :=
  files.isFileAt (directory.child fileName)

/-- The nearest directory at or above a path that holds a settings file. The path is left for the
one above until a file is found or there is none above. -/
def nearest? (files : FileTree) (start : Path) : Option Path :=
  if isIn files start then some start
  else
    match _h : start.parent? with
    | some upper => nearest? files upper
    | none => none
termination_by start.components.length
decreasing_by exact Path.length_lt_of_parent? _h

/-- The directories right below a path. -/
def subdirectories (files : FileTree) (start : Path) : List Path :=
  match files.find? start with
  | some tree => (tree.children.filter (·.2.isDirectory)).map fun (name, _) => start.child name
  | none => []

/-- The directory whose settings file counts for a path. -/
def directory? (files : FileTree) (start : Path) : Option Path :=
  (nearest? files start).or ((subdirectories files start).find? (isIn files))

/-- The settings for a path, and the directory of their file. Without a file these are the
default settings and the path itself. -/
def discover (files : FileTree) (start : Path) : Settings × Path :=
  match directory? files start with
  | some directory => (load files (directory.child fileName), directory)
  | none => ({}, start)

/-- The folders with grammar files that the settings name, as far as they exist. -/
def grammarFolders (settings : Settings) (files : FileTree) (directory : Path) : List Path :=
  let paths := (settings.grammars.map (·.paths)).getD []
  (paths.map fun path => directory.join (.ofString path)).filter files.isDirectoryAt

/-- The registry that the settings describe, with a way to load a folder. If one of the folders
cannot be loaded, none of them counts; the root scopes for language ids count in any case. -/
def buildRegistryFrom (settings : Settings) (read : FolderReader) (files : FileTree)
    (directory : Path) : Registry :=
  let languages := settings.languages.getD []
  match Registry.loadFrom read (settings.grammarFolders files directory) languages with
  | .ok registry => registry
  | .error _ => { Registry.bundled with languages }

/-- The registry that the settings describe, with the grammar files below their folders. -/
def buildRegistry (settings : Settings) (reader : DefinitionReader) (files : FileTree)
    (directory : Path) : Registry :=
  settings.buildRegistryFrom (Registry.readFolder reader files) files directory

end Settings

end ScopeTracker
