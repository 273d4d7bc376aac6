import ScopeTracker.Files.Path

/-!
# File trees

A file tree is a file, or a directory with its children. A file may refuse to be read. A path is
followed from the root: a component leads into a directory, `..` back to the directory above, and at
the root to the root itself.
-/

namespace ScopeTracker

/-- A file, or a directory with its children by name. -/
inductive FileTree where
  | file (content : ByteArray)
  /-- A file whose bytes cannot be read. -/
  | unreadable
  | directory (children : List (String × FileTree))

namespace FileTree

/-- A directory without children. -/
def emptyDirectory : FileTree := directory []

instance : Inhabited FileTree := ⟨emptyDirectory⟩

/-- Whether the tree is a directory. -/
def isDirectory : FileTree → Bool
  | directory _ => true
  | file _ | unreadable => false

/-- Whether the tree is a file. -/
def isFile (tree : FileTree) : Bool := !tree.isDirectory

/-- The bytes of a file, if they can be read. -/
def content? : FileTree → Option ByteArray
  | file content => some content
  | unreadable | directory _ => none

/-- The children of a directory, none for a file. -/
def children : FileTree → List (String × FileTree)
  | directory children => children
  | file _ | unreadable => []

/-- Follows components from a tree, below the trees that lead to it, the nearest first. -/
def follow (tree : FileTree) (outer : List FileTree) : List String → Option FileTree
  | [] => some tree
  | name :: rest =>
    if name = Path.above then
      if tree.isDirectory then
        match outer with
        | [] => follow tree [] rest
        | nearest :: outer => follow nearest outer rest
      else none
    else
      match tree.children.lookup name with
      | some child => follow child (tree :: outer) rest
      | none => none

/-- What a path leads to. Paths are followed from the root. -/
def find? (root : FileTree) (path : Path) : Option FileTree :=
  (root.follow [] path.components).filter fun tree => tree.isDirectory || !path.needsDirectory

/-- The bytes of the file that a path leads to. -/
def read? (root : FileTree) (path : Path) : Option ByteArray := (root.find? path).bind content?

/-- Whether a path leads to a file. -/
def isFileAt (root : FileTree) (path : Path) : Bool := (root.find? path).any isFile

/-- Whether a path leads to a directory. -/
def isDirectoryAt (root : FileTree) (path : Path) : Bool :=
  match root.find? path with
  | some tree => tree.isDirectory
  | none => false

/-- Puts a child in the place of the one of its name, or behind the others. -/
def putChild (name : String) (child : FileTree) :
    List (String × FileTree) → List (String × FileTree)
  | [] => [(name, child)]
  | (other, tree) :: rest =>
    if other = name then (name, child) :: rest else (other, tree) :: putChild name child rest

/-- Puts a tree at the end of a row of components. Directories that are missing are made; what
is there already is replaced, except that a directory stays if a directory is to be put. -/
def insert (tree : FileTree) (new : FileTree) : List String → FileTree
  | [] => if tree.isDirectory && new.children.isEmpty && new.isDirectory then tree else new
  | name :: rest =>
    let child := (tree.children.lookup name).getD emptyDirectory
    directory (putChild name (child.insert new rest) tree.children)

/-- Orders children by the bytes of their names. -/
def byName {α : Type} (children : List (String × α)) : List (String × α) :=
  children.mergeSort fun a b => a.1 ≤ b.1

mutual

/-- Everything in a tree with the components that lead there: the tree itself, and below a
directory its children in the order of their names. -/
def walk : FileTree → List (List String × FileTree)
  | file content => [([], file content)]
  | unreadable => [([], unreadable)]
  | directory children =>
    ([], directory children) :: ((byName (walkChildren children)).map (·.2)).flatten

/-- What is in each child of a directory. -/
def walkChildren : List (String × FileTree) → List (String × List (List String × FileTree))
  | [] => []
  | (name, child) :: rest =>
    (name, (walk child).map fun (components, tree) => (name :: components, tree)) ::
      walkChildren rest

end

end FileTree

end ScopeTracker
