/-!
# The scope stack

While a line is read, scopes are opened and closed at offsets of the line. The stack holds the
open scopes from the root inwards. A context may take some of them off for as long as it lasts;
they are remembered and put back at its end.
-/

namespace ScopeTracker

/-- A change of the open scopes. -/
inductive ScopeOp where
  /-- Opens a scope. -/
  | push (scope : String)
  /-- Closes the innermost scopes, at most as many as are open. -/
  | pop (count : Nat)
  /-- Takes off the innermost scopes, or all of them, and remembers them. -/
  | clear (count : Option Nat)
  /-- Puts back the scopes that were taken off last. -/
  | restore
  /-- Leaves the scopes as they are. -/
  | noop
deriving DecidableEq, Repr

/-- Why a change of the open scopes is impossible. -/
inductive ScopeStackError where
  /-- There is nothing that could be put back. -/
  | noClearedScopes
deriving DecidableEq, Repr

/-- The name under which an impossible change is reported. -/
def ScopeStackError.name : ScopeStackError → String
  | .noClearedScopes => "NoClearedScopesToRestore"

/-- The open scopes from the root inwards, and those taken off, the latest first. -/
structure ScopeStack where
  scopes : List String := []
  cleared : List (List String) := []
deriving DecidableEq, Repr, Inhabited

/-- What a change makes of the open scopes, if it is possible. -/
abbrev ScopeEffect := ScopeStack → ScopeOp → Except ScopeStackError ScopeStack

namespace ScopeStack

/-- The stack without open scopes. -/
def empty : ScopeStack := {}

/-- Carries out a change. -/
def apply : ScopeEffect
  | stack, .push scope => .ok { stack with scopes := stack.scopes ++ [scope] }
  | stack, .pop count =>
    .ok { stack with scopes := stack.scopes.take (stack.scopes.length - count) }
  | stack, .clear count =>
    let kept := stack.scopes.length - count.getD stack.scopes.length
    .ok ⟨stack.scopes.take kept, stack.scopes.drop kept :: stack.cleared⟩
  | stack, .restore =>
    match stack.cleared with
    | [] => .error .noClearedScopes
    | scopes :: cleared => .ok ⟨stack.scopes ++ scopes, cleared⟩
  | stack, .noop => .ok stack

end ScopeStack

end ScopeTracker
