import ScopeTracker.Text.Lines

/-!
# Grammars

A grammar cuts one line at a time into tokens. It sees the text of the line and the state that
it left at the end of the line before, and answers with the tokens and its new state. Grammars
are functions: one text and one state always give one answer.
-/

namespace ScopeTracker

/-- A stretch of a line, in byte columns, with the names of its scopes from the root inwards. -/
structure Token where
  start : Nat
  stop : Nat
  scopes : List String
deriving DecidableEq, Repr, Inhabited

/-- What a grammar makes of a line: its tokens, and the state for the next line. -/
structure LineTokens (σ : Type) where
  tokens : List Token
  endState : σ
deriving DecidableEq, Repr

/-- Why a grammar could not tokenize a line. -/
inductive GrammarError where
  /-- The line has no tokens for the reason given. -/
  | tokenize (detail : String)
  /-- The scopes of the line do not nest. -/
  | scopeStack (detail : String)
deriving DecidableEq, Repr, Inhabited

/-- The text of a grammar error as it is shown to the user. -/
def GrammarError.message : GrammarError → String
  | .tokenize detail => "failed to tokenize line: " ++ detail
  | .scopeStack detail => "unbalanced scope stack: " ++ detail

/-- A line tokenizer with states in `σ`. No prior state is given for the first line of a
document, and where the line before has none. -/
structure Grammar (σ : Type) where
  tokenizeLine : Text → Option σ → Except GrammarError (LineTokens σ)

end ScopeTracker
