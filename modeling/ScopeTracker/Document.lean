import ScopeTracker.Cache.Dense

/-!
# Documents

A document is a buffer with the cache of its tokens, and what the editor said about it: its
language id and its version. The text always follows the editor; a failure of the grammar only
leaves the cache behind, and queries make up for that line by line.
-/

namespace ScopeTracker

/-- An open document and the cache of its tokens. -/
structure Document (σ : Type) where
  buffer : Buffer
  cache : LineCache σ
  languageId : String
  version : Int
  /-- No operation on the cache leaves a line without its text. -/
  dense : cache.Dense

namespace Document

variable {σ : Type}

/-- The outcome of an operation on the cache as one of the document that holds it. -/
def withCache {α : Type} (document : Document σ) (outcome : Outcome (LineCache σ) α)
    (dense : outcome.state.Dense) : Outcome (Document σ) α :=
  ⟨{ document with cache := outcome.state, dense }, outcome.result⟩

/-- A document with a text that is tokenized as a whole. -/
def create (text : Text) (languageId : String) (version : Int) (grammar : Option (Grammar σ))
    (maxLineLength : Nat) : Outcome (Document σ) Unit :=
  let buffer := Buffer.ofText text
  let built := LineCache.build buffer grammar maxLineLength
  ⟨{ buffer, cache := built.state, languageId, version, dense := LineCache.dense_refresh _ buffer },
    built.result⟩

/-- Tokenizes the whole text again. -/
def refresh (document : Document σ) : Outcome (Document σ) Unit :=
  document.withCache (document.cache.refresh document.buffer) (LineCache.dense_refresh _ _)

/-- Puts a text in place of the old one and tokenizes it. -/
def replaceText (document : Document σ) (text : Text) : Outcome (Document σ) Unit :=
  { document with buffer := .ofText text }.refresh

/-- Carries out a batch of edits that all refer to the text before the batch, in any order. -/
def onEdits [BEq σ] (document : Document σ) (edits : List Edit) : Outcome (Document σ) Unit :=
  let edits := Edit.sortDescending edits
  let buffer := document.buffer.applyEdits edits
  { document with buffer }.withCache (document.cache.applyChanges buffer edits)
    (document.dense.applyChanges buffer edits)

/-- Carries out a change that an editor reports: a replacement of a range in UTF-16 columns, or
of the whole text if there is no range. -/
def applyContentChange [BEq σ] (document : Document σ) (range : Option Utf16Range)
    (text : Text) : Outcome (Document σ) Unit :=
  match range with
  | some range => document.onEdits [⟨document.buffer.rangeOfUtf16 range, text⟩]
  | none => document.replaceText text

/-- Takes another grammar and tokenizes the whole text with it. The grammar stays also if that
fails. -/
def setGrammar (document : Document σ) (grammar : Option (Grammar σ)) (maxLineLength : Nat) :
    Outcome (Document σ) Unit :=
  { document with
    cache := .untokenized grammar maxLineLength
    dense := LineCache.dense_untokenized grammar maxLineLength }.refresh

/-- The token and its scopes at a byte position. -/
def scopeAt (document : Document σ) (position : Position) : Outcome (Document σ) TokenInfo :=
  document.withCache (document.cache.scopeAt document.buffer position)
    (document.dense.scopeAt document.buffer position)

/-- The document without the journal of its grammar calls. -/
def forgetCalls (document : Document σ) : Document σ :=
  { document with cache := document.cache.forgetCalls, dense := document.dense.forgetCalls }

end Document

end ScopeTracker
