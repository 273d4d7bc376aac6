import ScopeTracker.Registry.Basic

/-!
# Grammars from folders

Grammars are added folder by folder, by any function that gives the definitions of a folder. The one
that is used looks for files with the extension `sublime-syntax`, anywhere below a folder. What a
grammar file says is not decided here: the function takes a reader that turns the bytes of a file
into a definition, or refuses them.
-/

namespace ScopeTracker

/-- Turns the bytes of a grammar file into a definition. -/
abbrev DefinitionReader := ByteArray → Option Definition

/-- Why grammars could not be loaded. -/
inductive LoadError where
  /-- The folder does not exist, or holds something that is not a grammar file although it has
  the extension of one. -/
  | folder (path : Path)
deriving DecidableEq, Repr

/-- Gives the definitions of a folder, or says why they cannot be loaded. -/
abbrev FolderReader := Path → Except LoadError (List Definition)

namespace Registry

/-- The extension of grammar files. -/
def grammarExtension : String := "sublime-syntax"

/-- Whether something found at a path passes for a grammar file. -/
def isGrammarFile (path : Path) : Bool := path.extension? = some grammarExtension

/-- The path of something below a folder. -/
def below (folder : Path) (components : List String) : Path :=
  folder.join { isAbsolute := false, components }

/-- The definition at a path, refused if that is a directory. -/
def readDefinition (reader : DefinitionReader) (tree : FileTree) : Option Definition :=
  tree.content?.bind reader

/-- The definitions below a folder in the order of the file names. One file that cannot be read
spoils the folder. -/
def readFolder (reader : DefinitionReader) (files : FileTree) : FolderReader := fun folder =>
  let found := (files.find? folder).bind fun tree =>
    (tree.walk.filter fun (components, _) => isGrammarFile (below folder components)).mapM
      fun (_, tree) => readDefinition reader tree
  match found with
  | some definitions => .ok definitions
  | none => .error (.folder folder)

/-- Adds the definitions of a folder to those that are known. -/
def addFolder (read : FolderReader) (known : List Definition) (folder : Path) :
    Except LoadError (List Definition) := do
  return known ++ (← read folder)

/-- The bundled grammars, to which those of folders are added in the order given. -/
def loadFrom (read : FolderReader) (folders : List Path) (languages : List (String × String)) :
    Except LoadError Registry := do
  let definitions ← folders.foldlM (addFolder read) Definition.bundled
  return { definitions, languages }

/-- The bundled grammars with those of the grammar files below folders. -/
def load (reader : DefinitionReader) (files : FileTree) (folders : List Path)
    (languages : List (String × String)) : Except LoadError Registry :=
  loadFrom (readFolder reader files) folders languages

end Registry

end ScopeTracker
