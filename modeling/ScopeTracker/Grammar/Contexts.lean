import ScopeTracker.Grammar.Definition
import ScopeTracker.Grammar.Reader

/-!
# Reading a line through contexts

A line is read from left to right. Of the rules of the present context, the one that matches
first in the line is taken, and of several at one place the first in the list. Its scopes are
opened and closed around the match and the context changes as it says; then reading goes on
behind the match. What lies between matches changes nothing.

The result is a list of changes of the scope stack (`Definition.reader`), from which the line is
tiled with tokens (`Definition.grammar`).
-/

namespace ScopeTracker

/-- The contexts that are open, the innermost first, and the open scopes. -/
abbrev ReadState := LineState (List String)

/-- A rule together with the text that its pieces took, what was passed over before it, and what
is left behind it. -/
structure RuleMatch where
  passed : Text
  rule : Rule
  pieces : List Text
  rest : Text

namespace Rule

/-- The match of a rule at the start of a text. It must take at least one character. -/
def matchAt? (t : Text) (rule : Rule) : Option RuleMatch :=
  (rule.pattern.matchPieces t).bind fun pieces =>
    if pieces.flatten.isEmpty then none
    else some { passed := [], rule, pieces, rest := t.drop pieces.flatten.length }

/-- The first match in a text, of several at one place that of the first rule. -/
def firstMatch? (rules : List Rule) : Text → Option RuleMatch
  | [] => none
  | c :: rest =>
    match rules.findSome? (matchAt? (c :: rest)) with
    | some found => some found
    | none =>
      (firstMatch? rules rest).map fun found => { found with passed := c :: found.passed }

/-- The number of open contexts at which no further one is entered. The context below `main`,
which holds the root scope, is one of them. -/
def contextLimit : Nat := 100

/-- Whether a rule takes part when `depth` contexts are open above the root. -/
def isAllowed (depth : Nat) (rule : Rule) : Bool :=
  match rule.change with
  | .push _ => depth + 1 < contextLimit
  | _ => true

end Rule

/-- A change of context with the context that is entered. -/
inductive ContextStep where
  | stay
  | push (name : String) (entered : Context)
  | pop
  | set (name : String) (entered : Context)

namespace ContextStep

/-- Opens scopes one after the other. -/
def opens (scopes : List String) : List ScopeOp := scopes.map .push

/-- Closes a number of scopes. -/
def closes (count : Nat) : List ScopeOp := if count = 0 then [] else [.pop count]

/-- Takes off the scopes that a context clears. -/
def clears (context : Context) : List ScopeOp :=
  match context.clearScopes with
  | some count => [.clear (some count)]
  | none => []

/-- Puts back the scopes that a context cleared. -/
def restores (context : Context) : List ScopeOp :=
  if context.clearScopes.isSome then [.restore] else []

/-- The changes at the start of a match, made before its own scopes are opened. -/
def before (present : Context) : ContextStep → List ScopeOp
  | stay => []
  | pop => closes present.contentScope.length
  | push _ entered => clears entered ++ opens entered.metaScope
  | set _ entered => restores present ++ opens entered.metaScope

/-- The changes at the end of a match, made after its own scopes are closed. An entered context
that has content scopes gets its scopes anew, and so does one that replaces the present
context and its scopes. -/
def after (present : Context) : ContextStep → List ScopeOp
  | stay => []
  | pop => closes present.metaScope.length ++ restores present
  | push _ entered =>
    if entered.contentScope.isEmpty then []
    else closes entered.metaScope.length ++ opens (entered.metaScope ++ entered.contentScope)
  | set _ entered =>
    if present.metaScope.isEmpty && present.contentScope.isEmpty &&
        entered.contentScope.isEmpty && entered.clearScopes.isNone then []
    else
      closes (entered.metaScope.length + present.contentScope.length + present.metaScope.length)
        ++ clears entered ++ opens (entered.metaScope ++ entered.contentScope)

/-- The open contexts after the change. -/
def contexts (open_ : List String) : ContextStep → List String
  | stay => open_
  | pop => open_.tail
  | push name _ => name :: open_
  | set name _ => name :: open_.tail

end ContextStep

namespace Definition

/-- The reason that is given when a rule leads to a context that does not exist. -/
def missingContext (name : String) : String :=
  "Tried to use a ContextReference that has not bee resolved yet: Named(\"" ++ name ++ "\")"

/-- Finds the context that a rule leads to. -/
def step (definition : Definition) : ContextChange → Except GrammarError ContextStep
  | .stay => .ok .stay
  | .pop => .ok .pop
  | .push name =>
    match definition.context? name with
    | some context => .ok (.push name context)
    | none => .error (.tokenize (missingContext name))
  | .set name =>
    match definition.context? name with
    | some context => .ok (.set name context)
    | none => .error (.tokenize (missingContext name))

/-- The changes inside a match: each piece that is not empty opens and closes its scopes. -/
def captureChanges (captures : List (Nat × List String)) :
    Nat → Nat → List Text → List ScopeChange
  | _, _, [] => []
  | index, start, piece :: pieces =>
    let stop := start + piece.byteLength
    let scopes := if piece.isEmpty then [] else (captures.lookup index).getD []
    (ContextStep.opens scopes).map (start, ·) ++
      (ContextStep.closes scopes.length).map (stop, ·) ++
      captureChanges captures (index + 1) stop pieces

/-- The changes of the scope stack that a match makes in the present context. -/
def matchChanges (present : Context) (start : Nat) (found : RuleMatch) (step : ContextStep) :
    List ScopeChange :=
  let rule := found.rule
  let stop := start + Text.byteLength found.pieces.flatten
  (step.before present ++ ContextStep.opens rule.scopes).map (start, ·) ++
    captureChanges rule.captures 0 start found.pieces ++
    (ContextStep.closes rule.scopes.length ++ step.after present).map (stop, ·)

/-- Reads a text that starts at a byte offset of its line. Every match takes a character, so
that as many steps as there are characters are enough. -/
def readFrom (definition : Definition) :
    Nat → List String → Nat → Text → Except GrammarError (List ScopeChange × List String)
  | 0, contexts, _, _ => .ok ([], contexts)
  | steps + 1, contexts, offset, t => do
    let present := definition.context (contexts.headD mainContext)
    match Rule.firstMatch? (present.rules.filter (Rule.isAllowed contexts.length)) t with
    | none => return ([], contexts)
    | some found =>
      let step ← definition.step found.rule.change
      let start := offset + found.passed.byteLength
      let stop := start + Text.byteLength found.pieces.flatten
      let (changes, last) ← definition.readFrom steps (step.contexts contexts) stop found.rest
      return (matchChanges present start found step ++ changes, last)

/-- Reads lines through the contexts. The first line of a text opens the root scope. -/
def reader (definition : Definition) : LineReader (List String) where
  read line contexts := do
    let opening := if contexts.isNone then [(0, .push definition.scope)] else []
    let (changes, last) ←
      definition.readFrom line.length (contexts.getD [mainContext]) 0 line
    return (opening ++ changes, last)
  apply := ScopeStack.apply

/-- The grammar that a definition describes. -/
def grammar (definition : Definition) : Grammar ReadState := definition.reader.grammar

end Definition

end ScopeTracker
