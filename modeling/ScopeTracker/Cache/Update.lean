import ScopeTracker.Cache.Basic

/-!
# Following edits

After a batch of edits most lines keep their tokens. Each edit, from the lowest to the highest,
has its own lines tokenized again. If that leaves the line count and the state at the edit's
last line as they were, nothing below the edit can have changed and the next edit is looked at.
Otherwise everything from there on, the remaining edits included, is tokenized to the end of the
document.
-/

namespace ScopeTracker

/-- What is known about the grammar's state at the end of a line. -/
inductive Boundary (σ : Type) where
  /-- The line is not cached. -/
  | unknown
  /-- The line was too long to be tokenized. -/
  | skipped
  /-- The line was tokenized and ended in the state. -/
  | state (endState : σ)
deriving DecidableEq, Repr

namespace Boundary

variable {σ : Type}

/-- The boundary below a cached line. -/
def ofLine? : Option (CachedLine σ) → Boundary σ
  | none => unknown
  | some .skipped => skipped
  | some (.tokenized line) => state line.endState

/-- Whether what follows the boundary still holds after a change. An unknown boundary vouches
for nothing, not even for itself. -/
def isStable [BEq σ] : Boundary σ → Boundary σ → Bool
  | state before, state after => before == after
  | skipped, skipped => true
  | _, _ => false

end Boundary

namespace LineCache

variable {σ : Type}

/-- The boundary at the end of a line. -/
def boundary (cache : LineCache σ) (index : Nat) : Boundary σ := .ofLine? (cache.line? index)

/-- Keeps the first `count` lines and their texts. -/
def truncate (cache : LineCache σ) (count : Nat) : LineCache σ :=
  { cache with lines := cache.lines.take count, snapshots := cache.snapshots.take count }

/-- The line from which everything is tokenized when an edit is not contained: the line below
it, or the highest start of the edits that are left. The sum has no bound here. On words of 64 bits
it is the same as long as it fits, which it does for every edit that starts in a document. -/
def wideningStart (edit : Edit) (later : List Edit) : Nat :=
  later.foldl (fun first edit => min first edit.range.start.line)
    (edit.range.start.line + edit.insertedBreaks + 1)

/-- Tokenizes from a line to the end of the document and drops what lies below it. -/
def reparseFrom (cache : LineCache σ) (buffer : Buffer) (first : Nat) :
    Outcome (LineCache σ) Unit :=
  let widened :=
    if first < buffer.lineCount then cache.reparseRange buffer (.lines first buffer.lastLine)
    else .ok cache ()
  widened.andThen fun cache _ => .ok (cache.truncate buffer.lineCount) ()

/-- Tokenizes the lines that an edit put into the document. The range is clamped only after its last
line is summed up, and as in `wideningStart` the sum has no bound here. -/
def reparseEdit (cache : LineCache σ) (buffer : Buffer) (edit : Edit) :
    Outcome (LineCache σ) Unit :=
  let first := edit.range.start.line
  cache.reparseRange buffer (.lines first (first + edit.insertedBreaks))

/-- Whether an edit that turned the cache `before` into `after` leaves the lines below it as
they were: it keeps the line count and the state at its last line. -/
def isContained [BEq σ] (before after : LineCache σ) (edit : Edit) : Bool :=
  edit.insertedBreaks == edit.removedBreaks &&
    (before.boundary edit.range.stop.line).isStable (after.boundary edit.range.stop.line)

/-- Follows the edits of a batch sorted by descending start. -/
def applySorted [BEq σ] (cache : LineCache σ) (buffer : Buffer) :
    List Edit → Outcome (LineCache σ) Unit
  | [] => .ok cache ()
  | edit :: later =>
    (cache.reparseEdit buffer edit).andThen fun reparsed _ =>
      if isContained cache reparsed edit then reparsed.applySorted buffer later
      else reparsed.reparseFrom buffer (wideningStart edit later)

/-- Brings the cache up to date with a buffer to which the edits of one batch were applied. The
edits give their ranges in the text before the batch, sorted by descending start. -/
def applyChanges [BEq σ] (cache : LineCache σ) (buffer : Buffer) (edits : List Edit) :
    Outcome (LineCache σ) Unit :=
  if cache.grammar.isNone then .ok cache ()
  else if Edit.Descending edits then cache.applySorted buffer edits
  else .fail cache .editsNotSorted

end LineCache

end ScopeTracker
