import ScopeTracker.Cache.Query
import ScopeTracker.Text.Blank

/-!
# Answers for an editor

A token is shown to an editor in two ways: as a hover, a piece of Markdown that lists its
scopes, and as a scope record. Both give its range in UTF-16 columns.
-/

namespace ScopeTracker

/-- A hover: Markdown, and the range it belongs to. -/
structure Hover where
  markdown : String
  range : Utf16Range
deriving DecidableEq, Repr

/-- A token with its range in UTF-16 columns. -/
structure ScopeInfo where
  range : Utf16Range
  text : Text
  scopes : List String
deriving DecidableEq, Repr

namespace TokenInfo

/-- A line of the list of scopes. -/
def scopeItem (scope : String) : String := "- \x60" ++ scope ++ "\x60\n"

/-- The text of a hover: the token, unless it is blank, and its scopes, the innermost first. -/
def markdown (info : TokenInfo) : String :=
  let heading :=
    if info.text.isBlank then ""
    else "**Token** \x60" ++ String.ofList info.text ++ "\x60\n\n"
  heading ++ "Scopes (innermost first):\n" ++ String.join (info.scopes.reverse.map scopeItem)

/-- The hover over a token, none if it has no scopes. -/
def hover? (info : TokenInfo) (buffer : Buffer) : Option Hover :=
  if info.scopes.isEmpty then none
  else some { markdown := info.markdown, range := buffer.rangeToUtf16 info.range }

/-- The scope record of a token. -/
def scopeInfo (info : TokenInfo) (buffer : Buffer) : ScopeInfo :=
  { range := buffer.rangeToUtf16 info.range, text := info.text, scopes := info.scopes }

end TokenInfo

end ScopeTracker
