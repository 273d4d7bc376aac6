import ScopeTracker.Text.Split

/-!
# Paths

A path is a list of components below the root, or below a place that is given elsewhere. Empty
components and `.` are left out when a path is read; `..` stays, since what it leads to depends
on the directories that exist. A path that ends in a slash or in `.` leads to a directory only.
-/

namespace ScopeTracker

/-- A path. -/
structure Path where
  isAbsolute : Bool
  components : List String
  /-- Whether the path leads to a directory only. -/
  needsDirectory : Bool := false
deriving DecidableEq, Repr, Inhabited

namespace Path

/-- The component that leads to the directory above. -/
def above : String := ".."

/-- Whether a part of a path stays where it is: it is empty or `.`. -/
def isStay (part : String) : Bool := part = "" || part = "."

/-- The root of the file tree. -/
def root : Path := { isAbsolute := true, components := [] }

/-- A path in its parts between the slashes. One that starts with a slash has an empty part in
front of it. -/
def ofParts (parts : List String) : Path :=
  { isAbsolute := parts.head? = some "" && 1 < parts.length
    components := parts.filter (!isStay ·)
    needsDirectory := (parts.getLast?.map isStay).getD false }

/-- Reads a path. -/
def ofString (s : String) : Path :=
  ofParts ((Text.splitAtChar '/' s.toList).map String.ofList)

/-- The text of a path. -/
def toString (path : Path) : String :=
  (if path.isAbsolute then "/" else "") ++ "/".intercalate path.components

/-- A path seen from a directory. An absolute path stays as it is. -/
def join (directory path : Path) : Path :=
  if path.isAbsolute then path
  else { path with
    isAbsolute := directory.isAbsolute
    components := directory.components ++ path.components }

/-- The path of a file in a directory. -/
def child (directory : Path) (name : String) : Path :=
  { isAbsolute := directory.isAbsolute, components := directory.components ++ [name] }

/-- The path without its last component, nothing for a path without components. -/
def parent? (path : Path) : Option Path :=
  if path.components.isEmpty then none
  else some { isAbsolute := path.isAbsolute, components := path.components.dropLast }

theorem parent?_eq_some_iff {path parent : Path} :
    path.parent? = some parent ↔ ∃ components last,
      parent = { isAbsolute := path.isAbsolute, components } ∧
        path.components = components ++ [last] := by
  unfold parent?
  constructor
  · intro h
    split at h
    · cases h
    · next hcomponents =>
      have hne : path.components ≠ [] := by simpa using hcomponents
      exact ⟨_, _, (Option.some.inj h).symm, (List.dropLast_concat_getLast hne).symm⟩
  · rintro ⟨components, last, rfl, hpath⟩
    simp [hpath]

theorem length_lt_of_parent? {path parent : Path} (h : path.parent? = some parent) :
    parent.components.length < path.components.length := by
  obtain ⟨components, last, rfl, hpath⟩ := parent?_eq_some_iff.mp h
  rw [hpath, List.length_append]
  exact Nat.lt_succ_self _

/-- The last component, unless that is `..`. -/
def fileName? (path : Path) : Option String :=
  path.components.getLast?.filter (· ≠ above)

/-- What follows the last dot of a file name, if the dot is not its first character. -/
def extensionOf? (name : String) : Option String :=
  match (Text.splitAtChar '.' name.toList).reverse with
  | _ :: [] => none
  | _ :: [[]] => none
  | last :: _ => some (String.ofList last)
  | [] => none

/-- The extension of the last component. -/
def extension? (path : Path) : Option String := path.fileName?.bind extensionOf?

end Path

end ScopeTracker
