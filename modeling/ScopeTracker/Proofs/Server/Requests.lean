import Mathlib.Data.List.DropRight
import ScopeTracker.Proofs.Cache.Queries
import ScopeTracker.Proofs.Store.Openings

/-!
# Hovers and scope records

An editor asks about a position in two ways, for a hover and for a scope record. A request may read
lines of the document, also if it fails in the end, so the next one finds another cache. But it
finds the same token there, or the same fault: the line that was asked about is settled, or the
grammar still fails where it failed before. What one of the two requests shows can therefore be told
from what the other one shows, in whatever order they are made.

Main statement: requests about a position do not depend on those before them, and the hover and the
scope record show one token (`hover_scopeAt_agree`).
-/

namespace ScopeTracker

/-- A text is blank if nothing is left of it when it is trimmed. -/
theorem Text.isBlank_iff_trimBlanks (t : Text) : t.isBlank ↔ t.trimBlanks = [] := by
  rw [isBlank, trimBlanks, List.all_eq_true, List.reverse_eq_nil_iff, List.dropWhile_eq_nil_iff]
  simp only [List.mem_reverse]
  rw [← List.dropWhile_eq_nil_iff, ← List.dropWhile_eq_nil_iff, List.dropWhile_idempotent]

namespace Server

variable {α : Type} {server after : Server} {uri : Uri} {position : Utf16Position}
  {demand : Demand} {demands : List Demand}

/-- A request for a hover or for a scope record. If it is about the given document it is about the
given position. -/
def Demand.AsksAt (uri : Uri) (position : Utf16Position) : Demand → Prop
  | .hover other place | .scopeAt other place => other = uri → place = position
  | _ => False

/-- What a request about a position finds: the text of the document, and the token or the fault.
There is nothing to find in a document that is not tracked. -/
def found? (server : Server) (uri : Uri) (position : Utf16Position) :
    Option (Buffer × Except Fault TokenInfo) :=
  (server.documents.tracked.get? uri).map fun document =>
    (document.buffer, (document.scopeAt (document.buffer.positionOfUtf16 position)).result)

/-- Both requests about a position are answered alike by two servers, and log the same. -/
structure RepliesAlike (server after : Server) (uri : Uri) (position : Utf16Position) :
    Prop where
  hover : (after.hover uri position).answer = (server.hover uri position).answer
  hoverNotices : (after.hover uri position).notices = (server.hover uri position).notices
  record : (after.scopeAt uri position).answer = (server.scopeAt uri position).answer
  recordNotices : (after.scopeAt uri position).notices = (server.scopeAt uri position).notices

/-! ## One request -/

theorem answer_query (server : Server) (uri : Uri) (position : Utf16Position)
    (render : TokenInfo → Buffer → α) :
    (server.query uri position render).answer =
      (server.found? uri position).bind fun found =>
        found.2.toOption.map fun info => render info found.1 := by
  cases htracked : server.documents.tracked.get? uri with
  | none =>
    simp only [query, found?, Store.withTracked_of_none htracked, htracked]
    rfl
  | some document =>
    simp only [query, found?, Store.withTracked_of_some htracked, htracked, Option.map_some,
      Option.bind_some]
    cases (document.scopeAt (document.buffer.positionOfUtf16 position)).result <;> rfl

/-- A fault goes into the log, and nothing else does. -/
theorem notices_query (server : Server) (uri : Uri) (position : Utf16Position)
    (render : TokenInfo → Buffer → α) :
    (server.query uri position render).notices =
      match server.found? uri position with
      | some (_, .error fault) => [failureNotice uri fault]
      | _ => [] := by
  cases htracked : server.documents.tracked.get? uri with
  | none =>
    simp only [query, found?, Store.withTracked_of_none htracked, htracked]
    rfl
  | some document =>
    simp only [query, found?, Store.withTracked_of_some htracked, htracked, Option.map_some]
    cases (document.scopeAt (document.buffer.positionOfUtf16 position)).result <;> rfl

theorem answer_hover (server : Server) (uri : Uri) (position : Utf16Position) :
    (server.hover uri position).answer =
      (server.found? uri position).bind fun found =>
        found.2.toOption.bind fun info => info.hover? found.1 := by
  show (server.query uri position TokenInfo.hover?).answer.join = _
  rw [answer_query]
  rcases server.found? uri position with _ | ⟨_, _ | _⟩ <;> rfl

theorem answer_scopeAt (server : Server) (uri : Uri) (position : Utf16Position) :
    (server.scopeAt uri position).answer =
      (server.found? uri position).bind fun found =>
        found.2.toOption.map fun info => info.scopeInfo found.1 :=
  answer_query server uri position TokenInfo.scopeInfo

/-- There is no scope record if the document is not tracked or the grammar fails. -/
theorem answer_scopeAt_eq_none_iff (server : Server) (uri : Uri) (position : Utf16Position) :
    (server.scopeAt uri position).answer = none ↔ server.documents.isTracked uri = false ∨
      ∃ document error, server.documents.tracked.get? uri = some document ∧
        (document.scopeAt (document.buffer.positionOfUtf16 position)).result =
          .error (.grammar error) := by
  rw [answer_scopeAt, found?, Store.isTracked, UriTable.contains]
  cases server.documents.tracked.get? uri with
  | none => simp
  | some document =>
    cases hresult : (document.scopeAt (document.buffer.positionOfUtf16 position)).result with
    | ok info => simp [hresult, Except.toOption]
    | error fault =>
      -- nothing but the grammar fails in a query
      have hgrammar := LineCache.failsByGrammar_scopeAt document.dense document.buffer
      obtain ⟨error, rfl⟩ := hgrammar _ fault hresult
      simp [hresult, Except.toOption]

/-- There is no hover if there is no scope record, or one without scopes. -/
theorem answer_hover_eq_none_iff (server : Server) (uri : Uri) (position : Utf16Position) :
    (server.hover uri position).answer = none ↔ (server.scopeAt uri position).answer = none ∨
      ∃ info, (server.scopeAt uri position).answer = some info ∧ info.scopes = [] := by
  rw [answer_hover, answer_scopeAt]
  rcases server.found? uri position with _ | ⟨buffer, fault | info⟩
  · simp
  · simp [Except.toOption]
  · simp [Except.toOption, TokenInfo.hover?, TokenInfo.scopeInfo]

/-- What a hover shows is what the scope record says. -/
theorem hover_of_scopeAt {shown : Hover} {info : ScopeInfo}
    (hshown : (server.hover uri position).answer = some shown)
    (hinfo : (server.scopeAt uri position).answer = some info) :
    shown.range = info.range ∧
      shown.markdown =
        (if info.text.trimBlanks = [] then ""
          else "**Token** \x60" ++ String.ofList info.text ++ "\x60\n\n") ++
        "Scopes (innermost first):\n" ++
        String.join (info.scopes.reverse.map fun scope => "- \x60" ++ scope ++ "\x60\n") := by
  rw [answer_hover] at hshown
  rw [answer_scopeAt] at hinfo
  generalize server.found? uri position = asked at hshown hinfo
  rcases asked with _ | ⟨buffer, fault | found⟩
  · cases hshown
  · cases hshown
  · -- both are made of the token that was found
    obtain rfl : found.scopeInfo buffer = info := Option.some.inj hinfo
    change found.hover? buffer = some shown at hshown
    rw [TokenInfo.hover?] at hshown
    split at hshown
    · cases hshown
    · obtain rfl := Option.some.inj hshown
      refine ⟨rfl, ?_⟩
      simp only [TokenInfo.markdown, TokenInfo.scopeInfo, Text.isBlank_iff_trimBlanks]
      rfl

/-- Both requests log the fault that there is to find. -/
theorem notices_hover (server : Server) (uri : Uri) (position : Utf16Position) :
    (server.hover uri position).notices = (server.scopeAt uri position).notices :=
  (notices_query server uri position TokenInfo.hover?).trans
    (notices_query server uri position TokenInfo.scopeInfo).symm

theorem repliesAlike_of_found? (h : after.found? uri position = server.found? uri position) :
    RepliesAlike server after uri position where
  hover := by rw [answer_hover, answer_hover, h]
  hoverNotices := by
    show (after.query _ _ TokenInfo.hover?).notices = (server.query _ _ TokenInfo.hover?).notices
    rw [notices_query, notices_query, h]
  record := by rw [answer_scopeAt, answer_scopeAt, h]
  recordNotices := by rw [scopeAt, scopeAt, notices_query, notices_query, h]

/-! ## Requests in any order -/

/-- A request leaves behind what the same request finds again. -/
theorem found?_of_asked {other : Uri} {place : Utf16Position}
    (hplace : other = uri → place = position)
    (hafter : after.documents = server.documents.carryOut (.asked other place)) :
    after.found? uri position = server.found? uri position := by
  rw [found?, found?, hafter, Store.carryOut, Store.get?_tracked_withTracked]
  split
  · rename_i hother
    obtain rfl := hother
    obtain rfl := hplace rfl
    cases server.documents.tracked.get? uri with
    | none => rfl
    | some document =>
      have hagain := LineCache.result_scopeAt_again document.dense document.buffer
        (document.buffer.positionOfUtf16 place)
      exact congrArg (fun result => some (document.buffer, result)) hagain
  · rfl

theorem found?_take (h : demand.AsksAt uri position) :
    (server.take demand).found? uri position = server.found? uri position := by
  have hdocuments := server.documents_take demand
  cases demand with
  | hover other place => exact found?_of_asked h hdocuments
  | scopeAt other place => exact found?_of_asked h hdocuments
  | _ => exact h.elim

theorem found?_taken (h : ∀ demand ∈ demands, demand.AsksAt uri position) :
    (demands.foldl take server).found? uri position = server.found? uri position := by
  induction demands generalizing server with
  | nil => rfl
  | cons demand later ih =>
    rw [List.foldl_cons, ih fun next hnext => h next (List.mem_cons_of_mem demand hnext)]
    exact found?_take (h demand List.mem_cons_self)

/-- Requests for a hover and for a scope record of one position, in any order and any number of
times, and with any requests about other documents in between. Whatever happened to the server
before, both are answered as they were the first time, and log the same. There is no scope record if
the document is not tracked or the grammar fails. There is no hover if there is no scope record, or
one without scopes. Otherwise both have the same range, and the hover lists the scopes of the
record, the innermost first, below its text unless nothing is left of that when it is trimmed. -/
theorem hover_scopeAt_agree (server : Server) (uri : Uri) (position : Utf16Position)
    (hdemands : ∀ demand ∈ demands, demand.AsksAt uri position) :
    let hover := server.hover uri position
    let record := server.scopeAt uri position
    RepliesAlike server (demands.foldl take server) uri position ∧
      hover.notices = record.notices ∧
      (record.answer = none ↔ server.documents.isTracked uri = false ∨
        ∃ document error, server.documents.tracked.get? uri = some document ∧
          (document.scopeAt (document.buffer.positionOfUtf16 position)).result =
            .error (.grammar error)) ∧
      (hover.answer = none ↔
        record.answer = none ∨ ∃ info, record.answer = some info ∧ info.scopes = []) ∧
      ∀ shown info, hover.answer = some shown → record.answer = some info →
        shown.range = info.range ∧
          shown.markdown =
            (if info.text.trimBlanks = [] then ""
              else "**Token** \x60" ++ String.ofList info.text ++ "\x60\n\n") ++
            "Scopes (innermost first):\n" ++
            String.join (info.scopes.reverse.map fun scope => "- \x60" ++ scope ++ "\x60\n") := by
  intro hover record
  exact ⟨repliesAlike_of_found? (found?_taken hdemands), notices_hover server uri position,
    answer_scopeAt_eq_none_iff server uri position, answer_hover_eq_none_iff server uri position,
    fun _ _ => hover_of_scopeAt⟩

/-- The grammar fails on the second of three lines, so the cache ends there. The first line is
answered for, the last one is not, however often there is a request about either. -/
theorem hover_scopeAt_agree_failing :
    let missing : Rule := { pattern := [.char '!'], change := .push "nowhere" }
    let toy : Definition :=
      { name := "toy", scope := "source.toy", extensions := []
        contexts := [("main", { rules := [missing] })] }
    let uri : Uri := ⟨"file", none, "/a", none, none⟩
    let other : Uri := ⟨"file", none, "/b", none, none⟩
    let server : Server := [.didOpen uri ['a'] "toy" 1,
      .didChange uri 2 [⟨none, ['a', '\n', '!', '\n', 'b']⟩]].foldl take
        { config := ⟨{ definitions := [toy] }, 20⟩ }
    let above : List Demand := [.hover uri ⟨0, 0⟩, .hover other ⟨1, 1⟩, .scopeAt uri ⟨0, 0⟩]
    let below : List Demand := [.scopeAt uri ⟨2, 0⟩, .hover uri ⟨2, 0⟩]
    (server.scopeAt uri ⟨0, 0⟩).answer = some ⟨⟨⟨0, 0⟩, ⟨0, 1⟩⟩, ['a'], ["source.toy"]⟩ ∧
      RepliesAlike server (above.foldl take server) uri ⟨0, 0⟩ ∧
      (server.scopeAt uri ⟨2, 0⟩).answer = none ∧ (server.hover uri ⟨2, 0⟩).answer = none ∧
      RepliesAlike server (below.foldl take server) uri ⟨2, 0⟩ := by
  intro missing toy uri other server above below
  have habove : ∀ demand ∈ above, demand.AsksAt uri ⟨0, 0⟩ := by
    simp [above, Demand.AsksAt, uri, other]
  have hbelow : ∀ demand ∈ below, demand.AsksAt uri ⟨2, 0⟩ := by
    simp [below, Demand.AsksAt]
  have hfails : (server.scopeAt uri ⟨2, 0⟩).answer = none := by decide +kernel
  obtain ⟨hfirst, _⟩ := hover_scopeAt_agree server uri ⟨0, 0⟩ habove
  obtain ⟨hlast, _, _, hhover, _⟩ := hover_scopeAt_agree server uri ⟨2, 0⟩ hbelow
  exact ⟨by decide +kernel, hfirst, hfails, hhover.mpr (.inl hfails), hlast⟩

end Server

end ScopeTracker
