import Mathlib.Logic.ExistsUnique
import ScopeTracker.Proofs.Cache.Queries
import ScopeTracker.Proofs.Grammar.Tokens
import ScopeTracker.Proofs.Text.Units

/-!
# Answers from tokens

An answer is looked up among the tokens of the line that a query finds cached or reads anew. Where
the tokens follow each other without gaps and are cut between characters, the lookup finds the token
around the column that was asked for, and it needs no cutting to the line.

Main statement: after any run an answer is a token of the line as it is now, and over a line that
the grammar tiles the answers are its tiles, which can be sent in UTF-16 and come back
(`scopeAt_covers`).
-/

namespace ScopeTracker

namespace Text

variable {line : Text} {start stop : Nat}

/-- Whether a text is what a line holds between two byte columns. -/
def Holds (line : Text) (start stop : Nat) (part : Text) : Prop :=
  ∃ before after, line = before ++ (part ++ after) ∧ before.byteLength = start ∧
    (before ++ part).byteLength = stop

theorem slice?_eq_some (hstart : line.isBoundary start) (hstop : line.isBoundary stop)
    (hle : start ≤ stop) :
    ∃ part, line.slice? start stop = some part ∧ line.Holds start stop part := by
  obtain ⟨before, rest, hline, hbefore⟩ := isBoundary_iff_exists.mp hstart
  have hcut := takeColumn_append_dropColumn line stop
  have hlength := isBoundary_iff.mp hstop
  obtain ⟨part, hpart, -⟩ :=
    exists_append_of_byteLength_le (hline.symm.trans hcut.symm) (by omega)
  refine ⟨part, ?_, before, line.dropColumn stop, ?_, hbefore, ?_⟩
  · rw [slice?, if_pos (by simp [hle, hstart, hstop]), hpart, ← hbefore, dropColumn_append]
  · rw [← List.append_assoc, ← hpart, hcut]
  · rw [← hpart, hlength]

end Text

/-- The tokens that a line is to have: in order, without gaps from its start to its end, and cut
between characters. -/
structure Token.Tiles (tokens : List Token) (line : Text) : Prop where
  contiguous : Contiguous 0 tokens line.byteLength
  boundaries : ∀ token ∈ tokens, line.isBoundary token.start ∧ line.isBoundary token.stop

/-- Whether a grammar gives a line the tokens it is to have, after any state, if it gives it any. -/
def Grammar.Tiles {σ : Type} (grammar : Grammar σ) (line : Text) : Prop :=
  ∀ prior answer, grammar.tokenizeLine line prior = .ok answer → answer.tokens ≠ [] →
    Token.Tiles answer.tokens line

namespace TokenInfo

variable {info : TokenInfo} {text : Text} {token : Token} {index column : Nat}

/-- An answer on one line, with its ends in order and not past the end of the line. -/
structure LiesOn (info : TokenInfo) (index length : Nat) : Prop where
  start_line : info.range.start.line = index
  stop_line : info.range.stop.line = index
  start_le_stop : info.range.start.column ≤ info.range.stop.column
  stop_le : info.range.stop.column ≤ length

/-- An answer around a column, with the text that the line has there. Only at the end of the line
it may end at the column. -/
structure Covers (info : TokenInfo) (line : Text) (column : Nat) : Prop where
  start_le : info.range.start.column ≤ column
  le_stop : column ≤ info.range.stop.column
  lt_stop : column < line.byteLength → column < info.range.stop.column
  text : line.Holds info.range.start.column info.range.stop.column info.text

theorem liesOn_empty {place : Position} {length : Nat} (h : place.column ≤ length) :
    (TokenInfo.empty place).LiesOn place.line length :=
  ⟨rfl, rfl, Nat.le_refl _, h⟩

theorem liesOn_ofToken (index : Nat) (text : Text) (token : Token) :
    (ofToken index text token).LiesOn index text.byteLength :=
  ⟨rfl, rfl, Nat.min_le_right _ _, Nat.min_le_right _ _⟩

/-- A token inside its line is not cut. -/
theorem range_ofToken (hle : token.start ≤ token.stop) (hstop : token.stop ≤ text.byteLength) :
    (ofToken index text token).range = ⟨⟨index, token.start⟩, ⟨index, token.stop⟩⟩ := by
  simp only [ofToken, Nat.min_eq_left hstop, Nat.min_eq_left hle]

/-- A token that lies around a column is an answer around it. -/
theorem covers_ofToken (hstart : text.isBoundary token.start) (hstop : text.isBoundary token.stop)
    (hafter : token.start ≤ column) (hbefore : column ≤ token.stop)
    (hlt : column < text.byteLength → column < token.stop) :
    (ofToken index text token).Covers text column := by
  have hle := Nat.le_trans hafter hbefore
  have hlength := Text.le_byteLength_of_isBoundary hstop
  obtain ⟨part, hslice, hholds⟩ := Text.slice?_eq_some hstart hstop hle
  have htext : (ofToken index text token).text = part := by
    simp only [ofToken, Nat.min_eq_left hlength, Nat.min_eq_left hle, hslice, Option.getD_some]
  constructor
  all_goals rw [range_ofToken hle hlength]
  case start_le => exact hafter
  case le_stop => exact hbefore
  case lt_stop => exact hlt
  case text => exact htext ▸ hholds

end TokenInfo

namespace LineCache

variable {σ : Type} {cache : LineCache σ} {grammar : Grammar σ} {buffer : Buffer}
  {position place : Position} {read : LineTokens σ} {text : Text}

/-! ## Looking up a column -/

theorem tokenAt_of_tokenized (h : cache.line? place.line = some (.tokenized read)) :
    cache.tokenAt buffer place =
      match Token.covering? read.tokens place.column with
      | none => .empty place
      | some token => .ofToken place.line (buffer.line place.line) token := by
  rw [tokenAt, h]
  rfl

theorem tokenAt_of_skipped (h : cache.line? place.line = some .skipped) :
    cache.tokenAt buffer place = .empty place := by
  rw [tokenAt, h]
  rfl

theorem liesOn_tokenAt (cache : LineCache σ)
    (h : place.column ≤ (buffer.line place.line).byteLength) :
    (cache.tokenAt buffer place).LiesOn place.line (buffer.line place.line).byteLength := by
  unfold tokenAt
  dsimp only
  split
  · exact TokenInfo.liesOn_empty h
  · exact TokenInfo.liesOn_ofToken _ _ _

/-- On a tiled line a token around the column is found. -/
theorem tokenAt_of_tiles (hcached : cache.line? place.line = some (.tokenized read))
    (htiles : Token.Tiles read.tokens (buffer.line place.line)) (hne : read.tokens ≠ [])
    (hplace : buffer.HasPlace place) :
    ∃ token ∈ read.tokens,
      cache.tokenAt buffer place = .ofToken place.line (buffer.line place.line) token ∧
        token.start ≤ place.column ∧ place.column ≤ token.stop ∧
        (place.column < (buffer.line place.line).byteLength → place.column < token.stop) := by
  have hcolumn := Text.le_byteLength_of_isBoundary hplace.boundary
  obtain ⟨token, hfound, hbounds⟩ :=
    htiles.contiguous.covering?_eq_some hne (Nat.zero_le _) hcolumn
  refine ⟨token, Token.mem_of_covering? hfound, ?_, hbounds⟩
  rw [tokenAt_of_tokenized hcached, hfound]

/-! ## Queries on one line -/

/-- The query at one column of a line has done what is to be done for the other columns. -/
theorem result_scopeAt_of_line (hgrammar : cache.grammar = some grammar) {info : TokenInfo}
    (hok : (cache.scopeAt buffer position).result = .ok info) {other : Position}
    (hline : (buffer.clamp other).line = (buffer.clamp position).line) :
    (cache.scopeAt buffer other).result =
      .ok ((cache.scopeAt buffer position).state.tokenAt buffer (buffer.clamp other)) := by
  rw [scopeAt_of_some hgrammar] at hok
  rw [state_scopeAt hgrammar, scopeAt_of_some hgrammar, hline,
    Outcome.andThen_of_ok (Outcome.ok_of_andThen hok)]
  rfl

/-- Whether some query on a line is answered with a range. -/
def AnswersRange (cache : LineCache σ) (buffer : Buffer) (index : Nat) (range : Range) : Prop :=
  ∃ column info, (cache.scopeAt buffer ⟨index, column⟩).result = .ok info ∧ info.range = range

/-- After one query has been answered, all queries on its line are looked up in the cache it left.
-/
theorem answersRange_iff (hgrammar : cache.grammar = some grammar) {info : TokenInfo}
    (hok : (cache.scopeAt buffer position).result = .ok info) {range : Range} :
    cache.AnswersRange buffer (buffer.clamp position).line range ↔
      ∃ place, buffer.HasPlace place ∧ place.line = (buffer.clamp position).line ∧
        ((cache.scopeAt buffer position).state.tokenAt buffer place).range = range := by
  constructor
  · rintro ⟨column, other, hother, hrange⟩
    have hline : (buffer.clamp ⟨(buffer.clamp position).line, column⟩).line =
        (buffer.clamp position).line := by
      rw [buffer.line_clamp]
      exact Nat.min_eq_left (line_clamp_le_lastLine buffer position)
    rw [result_scopeAt_of_line hgrammar hok hline] at hother
    obtain rfl := Except.ok.inj hother
    exact ⟨_, buffer.hasPlace_clamp _, hline, hrange⟩
  · rintro ⟨place, hplace, hline, hrange⟩
    have hclamp : buffer.clamp ⟨(buffer.clamp position).line, place.column⟩ = place := by
      rw [← hline, Buffer.clamp_of_hasPlace hplace]
    have hanswer := result_scopeAt_of_line hgrammar hok (hclamp ▸ hline)
    rw [hclamp] at hanswer
    exact ⟨place.column, _, hanswer, hrange⟩

/-- The ranges that are found on a tiled line are tokens, and each byte lies in one of them. -/
theorem existsUnique_range {index byte : Nat} (hindex : index < buffer.lineCount)
    (hcached : cache.line? index = some (.tokenized read))
    (htiles : Token.Tiles read.tokens (buffer.line index))
    (hbyte : byte < (buffer.line index).byteLength) :
    ∃! range : Range,
      (∃ place, buffer.HasPlace place ∧ place.line = index ∧
        (cache.tokenAt buffer place).range = range) ∧
      range.start.column ≤ byte ∧ byte < range.stop.column := by
  have hcontiguous := htiles.contiguous
  obtain ⟨token, htoken, hcovers⟩ := hcontiguous.exists_covers (Nat.zero_le byte) hbyte
  have hne := List.ne_nil_of_mem htoken
  have hfinds : ∀ place, buffer.HasPlace place → place.line = index → ∃ found ∈ read.tokens,
      (cache.tokenAt buffer place).range = ⟨⟨index, found.start⟩, ⟨index, found.stop⟩⟩ ∧
        found.start ≤ place.column ∧
        (place.column < (buffer.line index).byteLength → place.column < found.stop) := by
    rintro place hplace rfl
    obtain ⟨found, hfound, hanswer, hstart, -, hstop⟩ :=
      tokenAt_of_tiles hcached htiles hne hplace
    have hbounds := hcontiguous.bounds hfound
    exact ⟨found, hfound, by rw [hanswer, TokenInfo.range_ofToken hbounds.2.1 hbounds.2.2],
      hstart, hstop⟩
  refine ⟨⟨⟨index, token.start⟩, ⟨index, token.stop⟩⟩,
    ⟨⟨⟨index, token.start⟩, ⟨hindex, (htiles.boundaries token htoken).1⟩, rfl, ?_⟩, hcovers⟩, ?_⟩
  · -- the token that is found for its first byte is the token itself
    obtain ⟨found, hfound, hrange, hstart, hstop⟩ :=
      hfinds ⟨index, token.start⟩ ⟨hindex, (htiles.boundaries token htoken).1⟩ rfl
    have hlt := Nat.lt_of_le_of_lt hcovers.1 hbyte
    obtain rfl := hcontiguous.eq_of_covers hfound htoken ⟨hstart, hstop hlt⟩
      ⟨Nat.le_refl _, Nat.lt_of_le_of_lt hcovers.1 hcovers.2⟩
    exact hrange
  · rintro range ⟨⟨place, hplace, hline, rfl⟩, hstart, hstop⟩
    obtain ⟨found, hfound, hrange, -⟩ := hfinds place hplace hline
    rw [hrange] at hstart hstop ⊢
    obtain rfl := hcontiguous.eq_of_covers hfound htoken ⟨hstart, hstop⟩ hcovers
    rfl

/-! ## Any query after any run -/

/-- The tokens of a line were asked of the grammar, and given by it, for the text of the line. -/
theorem Accounted.answered {maxLineLength index : Nat}
    (h : Accounted (some grammar) maxLineLength cache)
    (hsnapshot : cache.snapshot? index = some text)
    (hcached : cache.line? index = some (.tokenized read)) :
    ∃ prior, ⟨text, prior⟩ ∈ cache.calls ∧ grammar.tokenizeLine text prior = .ok read := by
  obtain ⟨-, asked, prior, hasks, hcalled, hanswer⟩ :=
    h.justified index text _ (Prod.ext hcached hsnapshot)
  obtain rfl : grammar = asked := Option.some.inj (h.setup.grammar.trans hasks)
  exact ⟨prior, List.mem_reverse.mpr hcalled, hanswer⟩

/-- Answers after any run, with documents that have nothing to do with each other. An answer lies on
the line that is asked about, and is empty or has the scopes of a token that the grammar was asked
for and gave for the text of this line. If the tokens that the grammar gives for this text always
tile it, and it gave some, then the answer is around the column that was asked for and has the text
of the line there; of the ranges that are answered over all columns of the line, each byte lies in
exactly one; and the range comes back as it was from UTF-16, if 32-bit numbers are enough for the
document. -/
theorem scopeAt_covers [BEq σ] (grammar : Grammar σ) (maxLineLength : Nat)
    (operations : List CacheOperation) (buffer : Buffer) (position : Position) {info : TokenInfo}
    (hok : (((untokenized (some grammar) maxLineLength).performed operations).scopeAt buffer
      position).result = .ok info) :
    let cache := (untokenized (some grammar) maxLineLength).performed operations
    let after := (cache.scopeAt buffer position).state
    let place := buffer.clamp position
    let line := buffer.line place.line
    info.LiesOn place.line line.byteLength ∧
      (info = .empty place ∨ ∃ prior answer, ⟨line, prior⟩ ∈ after.calls ∧
        grammar.tokenizeLine line prior = .ok answer ∧
          ∃ token ∈ answer.tokens, info.scopes = token.scopes) ∧
      ∀ read, after.line? place.line = some (.tokenized read) → read.tokens ≠ [] →
        grammar.Tiles line →
          info.Covers line place.column ∧
          (∀ byte < line.byteLength, ∃! range, cache.AnswersRange buffer place.line range ∧
            range.start.column ≤ byte ∧ byte < range.stop.column) ∧
          (buffer.FitsWords →
            buffer.rangeOfUtf16 (buffer.rangeToUtf16 info.range).toWords = info.range) := by
  intro cache after place line
  have haccount : Accounted (some grammar) maxLineLength cache :=
    kept_accounted.performed (accounted_untokenized _ _) operations
  have hafter : Accounted (some grammar) maxLineLength after :=
    kept_accounted.scopeAt haccount buffer position
  have hgrammar : cache.grammar = some grammar := haccount.setup.grammar.symm
  have hplace : buffer.HasPlace place := buffer.hasPlace_clamp position
  have hinfo : info = after.tokenAt buffer place := eq_tokenAt_of_scopeAt hgrammar hok
  have hsettled : after.Settled buffer place.line :=
    settled_of_scopeAt hgrammar haccount.dense hok
  obtain ⟨cached, hcached⟩ := hafter.dense.exists_line hsettled
  have hcolumn := Text.le_byteLength_of_isBoundary hplace.boundary
  refine ⟨hinfo ▸ liesOn_tokenAt after hcolumn, ?_, ?_⟩
  · cases cached with
    | skipped => exact .inl (hinfo.trans (tokenAt_of_skipped hcached))
    | tokenized read =>
      obtain ⟨prior, hcalled, hanswer⟩ := hafter.answered hsettled hcached
      rw [tokenAt_of_tokenized hcached] at hinfo
      split at hinfo
      · exact .inl hinfo
      · rename_i token hfound
        exact .inr ⟨prior, read, hcalled, hanswer, token, Token.mem_of_covering? hfound,
          by rw [hinfo]; rfl⟩
  · intro read hread hne htiles
    obtain ⟨prior, -, hanswer⟩ := hafter.answered hsettled hread
    have htiles : Token.Tiles read.tokens line := htiles prior read hanswer hne
    obtain ⟨token, htoken, hfound, hstart, hstop, hlt⟩ :=
      tokenAt_of_tiles hread htiles hne hplace
    have hbounds := htiles.contiguous.bounds htoken
    obtain ⟨hstart', hstop'⟩ := htiles.boundaries token htoken
    rw [hfound] at hinfo
    refine ⟨?_, fun byte hbyte => ?_, fun hfits => ?_⟩
    · rw [hinfo]
      exact TokenInfo.covers_ofToken hstart' hstop' hstart hstop hlt
    · have hranges : ∀ range, cache.AnswersRange buffer place.line range ↔
          ∃ found, buffer.HasPlace found ∧ found.line = place.line ∧
            (after.tokenAt buffer found).range = range := fun _ => answersRange_iff hgrammar hok
      simp only [hranges]
      exact existsUnique_range hplace.line_lt hread htiles hbyte
    · rw [hinfo, TokenInfo.range_ofToken hbounds.2.1 hbounds.2.2]
      exact Buffer.rangeOfUtf16_toWords hfits ⟨hplace.line_lt, hstart'⟩ ⟨hplace.line_lt, hstop'⟩

end LineCache

/-- One token for each character from an offset on, and an empty one for the end of the line. -/
def Token.ofCharacters (start : Nat) : Text → List Token
  | [] => [⟨start, start, ["end"]⟩]
  | c :: rest =>
    ⟨start, start + c.utf8Size, ["character"]⟩ :: ofCharacters (start + c.utf8Size) rest

/-- The grammar whose tokens are the characters. -/
def Grammar.characters : Grammar Unit where
  tokenizeLine text _ := .ok ⟨Token.ofCharacters 0 text, ()⟩

/-- The cache was read from another text, and the column lies inside of a character. -/
theorem LineCache.scopeAt_covers_inside :
    let cache := (untokenized (some .characters) 20).performed [.refresh (.ofText ['x', '\n', 'y'])]
    let line : Text := ['a', 'é', '𝄞']
    let buffer : Buffer := .ofText line
    let info : TokenInfo := ⟨⟨⟨0, 1⟩, ⟨0, 3⟩⟩, ['é'], ["character"]⟩
    (cache.scopeAt buffer ⟨0, 2⟩).result = .ok info ∧ info.Covers line 1 ∧
      (∀ byte < 7, ∃! range, cache.AnswersRange buffer 0 range ∧
        range.start.column ≤ byte ∧ byte < range.stop.column) ∧
      buffer.rangeOfUtf16 (buffer.rangeToUtf16 info.range).toWords = info.range := by
  intro cache line buffer info
  have hok : (cache.scopeAt buffer ⟨0, 2⟩).result = .ok info := by decide +kernel
  have hcovers := (scopeAt_covers .characters 20 _ buffer ⟨0, 2⟩ hok).2.2
    ⟨Token.ofCharacters 0 line, ()⟩ (by decide +kernel) (by decide +kernel)
  have htiles : Grammar.characters.Tiles line := by
    intro prior answer hanswer _
    obtain rfl := Except.ok.inj hanswer
    exact ⟨by decide +kernel, by decide +kernel⟩
  obtain ⟨haround, hparts, hsent⟩ := hcovers htiles
  exact ⟨hok, haround, hparts, hsent ⟨by decide +kernel, by decide +kernel⟩⟩

end ScopeTracker
