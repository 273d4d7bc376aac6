import ScopeTracker.Outcome
import ScopeTracker.Text.Buffer

/-!
# The line cache

The cache keeps what the grammar made of the first lines of a document, one entry a line without
gaps, and in a second list the text each of these lines had then. It does not hold the document;
every operation is handed the buffer as it is now.

Beside the two lists the cache keeps a counter of the lines it tokenized and a journal of its
calls of the grammar, failed ones included.
-/

namespace ScopeTracker

/-- What is known about a line: its tokens and end state, or that it was passed over because it
is too long. -/
inductive CachedLine (σ : Type) where
  | tokenized (line : LineTokens σ)
  | skipped
deriving DecidableEq, Repr

namespace CachedLine

variable {σ : Type}

/-- The grammar's state at the end of the line. -/
def endState? : CachedLine σ → Option σ
  | tokenized line => some line.endState
  | skipped => none

/-- The tokens of the line, none for a skipped one. -/
def tokens : CachedLine σ → List Token
  | tokenized line => line.tokens
  | skipped => []

end CachedLine

/-- A call of the grammar: the text of the line and the state handed over. -/
structure GrammarCall (σ : Type) where
  text : Text
  prior : Option σ
deriving DecidableEq, Repr

/-- The length in bytes above which lines are skipped unless another one is configured. -/
def defaultMaxLineLength : Nat := 20000

/-- The tokens of the first lines of a document. -/
structure LineCache (σ : Type) where
  /-- Nothing is cached without a grammar. -/
  grammar : Option (Grammar σ)
  /-- Lines with more bytes than this are skipped. -/
  maxLineLength : Nat
  /-- The cached lines, from the first line of the document on. -/
  lines : List (CachedLine σ) := []
  /-- The texts that the cached lines had when they were tokenized. -/
  snapshots : List Text := []
  /-- The number of lines tokenized since the cache was made. -/
  tokenizedLines : Nat := 0
  /-- The calls of the grammar, the latest first. -/
  journal : List (GrammarCall σ) := []

namespace LineCache

variable {σ : Type}

/-- A cache that holds no line yet. -/
def untokenized (grammar : Option (Grammar σ)) (maxLineLength : Nat) : LineCache σ :=
  { grammar, maxLineLength }

/-- The number of cached lines. -/
def size (cache : LineCache σ) : Nat := cache.lines.length

/-- Whether no line is cached. -/
def isEmpty (cache : LineCache σ) : Bool := cache.lines.isEmpty

/-- What is cached for a line. -/
def line? (cache : LineCache σ) (index : Nat) : Option (CachedLine σ) := cache.lines[index]?

/-- The text that a cached line had when it was tokenized. -/
def snapshot? (cache : LineCache σ) (index : Nat) : Option Text := cache.snapshots[index]?

/-- The calls of the grammar in the order in which they were made. -/
def calls (cache : LineCache σ) : List (GrammarCall σ) := cache.journal.reverse

/-- The cache with an empty journal. -/
def forgetCalls (cache : LineCache σ) : LineCache σ := { cache with journal := [] }

/-- The grammar's state before a line: the end state of the line above, if that is tokenized. -/
def stateBefore (cache : LineCache σ) : Nat → Option σ
  | 0 => none
  | above + 1 => (cache.line? above).bind CachedLine.endState?

/-- Stores a line and its text in place of a cached line, or right below the cached ones. The line
is written first, and stays if there is no snapshot to overwrite. -/
def store (cache : LineCache σ) (index : Nat) (text : Text) (line : CachedLine σ) :
    Outcome (LineCache σ) Unit :=
  if index < cache.lines.length then
    let written := { cache with lines := cache.lines.set index line }
    if index < cache.snapshots.length then
      .ok { written with snapshots := cache.snapshots.set index text } ()
    else .fail written (.indexOutOfBounds cache.snapshots.length index)
  else if index = cache.lines.length then
    .ok { cache with lines := cache.lines ++ [line], snapshots := cache.snapshots ++ [text] } ()
  else .fail cache .cacheNotDense

/-- Tokenizes a line of the buffer from the state before it, and stores the result. A line that
is too long is stored as skipped without a call of the grammar. -/
def reparseLine (cache : LineCache σ) (buffer : Buffer) (index : Nat) :
    Outcome (LineCache σ) Unit :=
  match cache.grammar with
  | none => .ok cache ()
  | some grammar =>
    let text := buffer.line index
    if cache.maxLineLength < text.byteLength then cache.store index text .skipped
    else
      let prior := cache.stateBefore index
      let called := { cache with journal := ⟨text, prior⟩ :: cache.journal }
      match grammar.tokenizeLine text prior with
      | .error error => .fail called (.grammar error)
      | .ok line =>
        { called with tokenizedLines := called.tokenizedLines + 1 }.store index text
          (.tokenized line)

/-- Tokenizes `count` lines from `first` on, one after the other, up to the first failure. -/
def reparseLines (cache : LineCache σ) (buffer : Buffer) (first : Nat) :
    Nat → Outcome (LineCache σ) Unit
  | 0 => .ok cache ()
  | count + 1 =>
    (cache.reparseLine buffer first).andThen fun cache _ =>
      cache.reparseLines buffer (first + 1) count

/-- Tokenizes the lines of a range, clamped to the document. If the range starts below the
cached lines, the lines between are tokenized first. -/
def reparseRange (cache : LineCache σ) (buffer : Buffer) (range : Range) :
    Outcome (LineCache σ) Unit :=
  if cache.grammar.isNone then .ok cache ()
  else
    let range := buffer.clampRange range
    let first := min range.start.line cache.size
    cache.reparseLines buffer first (range.stop.line + 1 - first)

/-- The cache without its lines and their texts. -/
def clear (cache : LineCache σ) : LineCache σ := { cache with lines := [], snapshots := [] }

/-- Forgets all lines and tokenizes the whole document. -/
def refresh (cache : LineCache σ) (buffer : Buffer) : Outcome (LineCache σ) Unit :=
  cache.clear.reparseRange buffer (.lines 0 buffer.lastLine)

/-- The cache of a whole document. -/
def build (buffer : Buffer) (grammar : Option (Grammar σ)) (maxLineLength : Nat) :
    Outcome (LineCache σ) Unit :=
  (untokenized grammar maxLineLength).refresh buffer

end LineCache

end ScopeTracker
