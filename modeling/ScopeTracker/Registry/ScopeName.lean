import ScopeTracker.Text.Blank
import ScopeTracker.Text.Split

/-!
# Scope names

A scope name is a sequence of atoms with dots between them. Two spellings name the same scope if
their atoms are equal.
-/

namespace ScopeTracker

/-- A scope as the list of its atoms. -/
abbrev ScopeName := List Text

namespace ScopeName

/-- The number of atoms that a scope name may have. -/
def maxAtoms : Nat := 8

/-- Reads a scope name. Blanks around it and dots at its end do not count; a name with too many
atoms is refused. -/
def ofString? (name : String) : Option ScopeName :=
  let name := Text.trimBlanks name.toList
  if name.isEmpty then some []
  else
    let atoms := Text.splitAtChar '.' (name.reverse.dropWhile (· = '.')).reverse
    if atoms.length ≤ maxAtoms then some atoms else none

end ScopeName

end ScopeTracker
