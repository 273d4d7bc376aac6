import ScopeTracker.Cache.Basic

/-!
# Asking for the scopes at a position

A query answers with the token that covers a position. It first makes sure that the line is
cached with the text it has now.
-/

namespace ScopeTracker

/-- The answer to a query: the span of a token, its text, and its scopes from the root
inwards. -/
structure TokenInfo where
  range : Range
  text : Text
  scopes : List String
deriving DecidableEq, Repr, Inhabited

namespace TokenInfo

/-- The answer where there is no token. -/
def empty (position : Position) : TokenInfo := ⟨.empty position, [], []⟩

/-- Whether the answer carries neither text nor scopes. -/
def isEmpty (info : TokenInfo) : Bool := info.scopes.isEmpty && info.text.isEmpty

/-- A token of a line as an answer. A token that reaches past the line is cut to it; one whose
ends are not on character boundaries has no text. -/
def ofToken (line : Nat) (text : Text) (token : Token) : TokenInfo :=
  let stop := min token.stop text.byteLength
  let start := min token.start stop
  { range := ⟨⟨line, start⟩, ⟨line, stop⟩⟩
    text := (text.slice? start stop).getD []
    scopes := token.scopes }

end TokenInfo

/-- The last token that starts at or before a column. -/
def Token.covering? (tokens : List Token) (column : Nat) : Option Token :=
  tokens.reverse.find? (·.start ≤ column)

namespace LineCache

variable {σ : Type}

/-- Tokenizes a line unless it is cached with the text it has now. -/
def ensureLine (cache : LineCache σ) (buffer : Buffer) (index : Nat) :
    Outcome (LineCache σ) Unit :=
  if cache.snapshot? index = some (buffer.line index) then .ok cache ()
  else cache.reparseRange buffer (.lines index index)

/-- The answer that the cached tokens give at a position of the document. -/
def tokenAt (cache : LineCache σ) (buffer : Buffer) (position : Position) : TokenInfo :=
  let tokens := ((cache.line? position.line).map CachedLine.tokens).getD []
  match Token.covering? tokens position.column with
  | none => .empty position
  | some token => .ofToken position.line (buffer.line position.line) token

/-- The token at a position. The position is clamped to the document, except without a grammar:
then the answer is empty where it was asked for. -/
def scopeAt (cache : LineCache σ) (buffer : Buffer) (position : Position) :
    Outcome (LineCache σ) TokenInfo :=
  if cache.grammar.isNone then .ok cache (.empty position)
  else
    let position := buffer.clamp position
    (cache.ensureLine buffer position.line).andThen fun cache _ =>
      .ok cache (cache.tokenAt buffer position)

end LineCache

end ScopeTracker
