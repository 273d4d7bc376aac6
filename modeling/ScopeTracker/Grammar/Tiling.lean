import ScopeTracker.Grammar.Basic
import ScopeTracker.Grammar.ScopeStack

/-!
# Tiling a line with tokens

The changes of the scope stack along a line cut it into tokens: a token ends wherever a change
is made, also if the scopes are the same before and after. Changes past the end of the line
count as made at its end. What a change makes of the stack is not said here.
-/

namespace ScopeTracker

/-- A change of the scope stack at a byte offset of a line. -/
abbrev ScopeChange := Nat × ScopeOp

namespace Token

/-- Cuts a line of `length` bytes at the changes from `start` on. Gives the tokens that end at a
change, the end of the last one, and the scope stack after all changes. -/
def cutAt (effect : ScopeEffect) (length : Nat) : Nat → ScopeStack → List ScopeChange →
    Except ScopeStackError (List Token × Nat × ScopeStack)
  | start, stack, [] => .ok ([], start, stack)
  | start, stack, (offset, op) :: rest => do
    let offset := min offset length
    let next ← effect stack op
    if start < offset then
      let (tokens, stop, last) ← cutAt effect length offset next rest
      return (⟨start, offset, stack.scopes⟩ :: tokens, stop, last)
    else cutAt effect length start next rest

/-- The tokens of a line of `length` bytes and the scope stack at its end, from the stack at its
start and the changes along it. What follows the last change is a token too, and an empty line
has one empty token. -/
def tile (effect : ScopeEffect) (length : Nat) (stack : ScopeStack) (changes : List ScopeChange) :
    Except ScopeStackError (List Token × ScopeStack) := do
  let (tokens, stop, last) ← cutAt effect length 0 stack changes
  if stop < length || tokens.isEmpty then
    return (tokens ++ [⟨stop, length, last.scopes⟩], last)
  else return (tokens, last)

end Token

end ScopeTracker
