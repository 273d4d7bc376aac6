import ScopeTracker.Files.Tree
import ScopeTracker.Grammar.Bundled
import ScopeTracker.Grammar.Contexts
import ScopeTracker.Registry.ScopeName

/-!
# The grammar registry

The registry knows the grammars, the bundled ones first, and which root scope the user wants for
a language id. A grammar is looked up by its root scope, by its name or by a file extension; of
several that match the one added last is taken, so that a user's grammar takes the place of a
bundled one. Which spellings name the same root scope is left open until the end, where scope names
are read by `ScopeName.ofString?`.
-/

namespace ScopeTracker

/-- The known grammars in the order in which they were added, and the root scopes that are
configured for language ids. -/
structure Registry where
  definitions : List Definition
  languages : List (String × String) := []
deriving DecidableEq, Repr

namespace Registry

/-- The registry of the bundled grammars. -/
def bundled : Registry := { definitions := Definition.bundled }

instance : Inhabited Registry := ⟨bundled⟩

/-- The number of known grammars. -/
def size (registry : Registry) : Nat := registry.definitions.length

/-- Whether no grammar is known. -/
def isEmpty (registry : Registry) : Bool := registry.definitions.isEmpty

/-- The grammar added last of those that satisfy a condition. -/
def findLast? (registry : Registry) (condition : Definition → Bool) : Option Definition :=
  registry.definitions.reverse.find? condition

/-- Whether two names differ at most in the case of ASCII letters. -/
def sameName (a b : String) : Bool := Text.asciiLower a.toList = Text.asciiLower b.toList

/-- The grammar for a file extension. -/
def forExtension? (registry : Registry) (extension : String) : Option Definition :=
  registry.findLast? fun definition => definition.extensions.any (sameName extension)

/-- The grammar with a name. -/
def forName? (registry : Registry) (name : String) : Option Definition :=
  registry.findLast? fun definition => sameName name definition.name

/-- The grammar for a word that is an extension or, failing that, a name. -/
def forToken? (registry : Registry) (token : String) : Option Definition :=
  (registry.forExtension? token).or (registry.forName? token)

/-- The grammar for the extension of a path. -/
def forPath? (registry : Registry) (path : String) : Option Definition :=
  (Path.ofString path).extension?.bind registry.forExtension?

section ScopeNames

variable {ν : Type} [DecidableEq ν] (readScope : String → Option ν)

/-- The grammar with a root scope, with a way to read scope names. A name that cannot be read has no
grammar. -/
def forScopeBy? (registry : Registry) (scope : String) : Option Definition :=
  (readScope scope).bind fun wanted =>
    registry.findLast? fun definition => readScope definition.scope = some wanted

/-- The grammar with the root scope that is configured for a language id. -/
def configuredBy? (registry : Registry) (languageId : String) : Option Definition :=
  (registry.languages.lookup languageId).bind (registry.forScopeBy? readScope)

/-- The grammar for a document: the configured one, else the one that goes by the language id,
else the one for the extension of the path. -/
def resolveBy (registry : Registry) (languageId path : String) : Option Definition :=
  (registry.configuredBy? readScope languageId).or
    ((registry.forToken? languageId).or (registry.forPath? path))

end ScopeNames

/-- The grammar with a root scope. -/
def forScope? (registry : Registry) (scope : String) : Option Definition :=
  registry.forScopeBy? ScopeName.ofString? scope

/-- The grammar for a document. -/
def resolve (registry : Registry) (languageId path : String) : Option Definition :=
  registry.resolveBy ScopeName.ofString? languageId path

/-- The grammar, as a tokenizer, for a document. -/
def resolveGrammar (registry : Registry) (languageId path : String) :
    Option (Grammar ReadState) :=
  (registry.resolve languageId path).map Definition.grammar

end Registry

end ScopeTracker
