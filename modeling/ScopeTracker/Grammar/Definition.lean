import ScopeTracker.Grammar.Pattern

/-!
# Grammar definitions

A definition describes a language by contexts. Each context has rules that are tried at every
place of a line; a rule gives scopes to what it matches and may lead into another context. The
rules see a line together with the line feed at its end.
-/

namespace ScopeTracker

/-- Where a rule leads. -/
inductive ContextChange where
  /-- The context stays. -/
  | stay
  /-- A context is entered on top of the present one. -/
  | push (context : String)
  /-- The present context is left. -/
  | pop
  /-- The present context is left and another one is entered in its place. -/
  | set (context : String)
deriving DecidableEq, Repr

/-- A rule of a context. -/
structure Rule where
  pattern : Pattern
  /-- The scopes of the whole match. -/
  scopes : List String := []
  /-- The scopes of single pieces of the pattern, by their index. -/
  captures : List (Nat × List String) := []
  change : ContextChange := .stay
deriving DecidableEq, Repr

/-- A context: its scopes and its rules in the order in which they are tried. -/
structure Context where
  /-- The scopes from the match that enters the context to the match that leaves it. -/
  metaScope : List String := []
  /-- The scopes of what lies between these two matches. -/
  contentScope : List String := []
  /-- How many of the scopes outside are taken off inside. -/
  clearScopes : Option Nat := none
  rules : List Rule := []
deriving DecidableEq, Repr

/-- A grammar definition: a language with its name, its root scope, the file extensions it is
used for, and its contexts by name. -/
structure Definition where
  name : String
  scope : String
  extensions : List String
  contexts : List (String × Context) := []
deriving DecidableEq, Repr

namespace Definition

/-- The context in which every text starts. -/
def mainContext : String := "main"

/-- A context that a rule leads to. -/
def context? (definition : Definition) (name : String) : Option Context :=
  definition.contexts.lookup name

/-- The context of a name, one without rules if there is none. -/
def context (definition : Definition) (name : String) : Context :=
  (definition.context? name).getD {}

end Definition

end ScopeTracker
