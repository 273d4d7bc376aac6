import ScopeTracker.Grammar.Tiling
import ScopeTracker.Text.Column

/-!
# Grammars from readers

A reader goes over one line at a time and says where along it scopes are opened and closed. It keeps
a place of its own between lines; the scope stack is kept beside it. What the reader finds cuts the
line into tokens, which makes it a grammar.
-/

namespace ScopeTracker

/-- What is kept between two lines: the place of the reader, and the open scopes. -/
structure LineState (π : Type) where
  place : π
  scopes : ScopeStack
deriving DecidableEq, Repr

/-- A reader of lines with places in `π`. It is given a line with the line feed at its end, and its
place at the end of the line before, none where it starts anew. It gives the changes of the scope
stack along the line, and its new place. What a change makes of the stack is up to the reader,
too. -/
structure LineReader (π : Type) where
  read : Text → Option π → Except GrammarError (List ScopeChange × π)
  apply : ScopeEffect

namespace LineReader

variable {π : Type}

/-- The scope stack at the start of a line. -/
def scopesBefore (prior : Option (LineState π)) : ScopeStack :=
  (prior.map LineState.scopes).getD .empty

/-- Tokenizes a line: reads it, and tiles it with tokens. -/
def tokenizeLine (reader : LineReader π) (line : Text) (prior : Option (LineState π)) :
    Except GrammarError (LineTokens (LineState π)) := do
  let (changes, place) ← reader.read (line ++ ['\n']) (prior.map LineState.place)
  match Token.tile reader.apply line.byteLength (scopesBefore prior) changes with
  | .ok (tokens, scopes) => return ⟨tokens, ⟨place, scopes⟩⟩
  | .error error => throw (.scopeStack error.name)

/-- The grammar that reads lines with a reader. -/
def grammar (reader : LineReader π) : Grammar (LineState π) := ⟨reader.tokenizeLine⟩

end LineReader

end ScopeTracker
