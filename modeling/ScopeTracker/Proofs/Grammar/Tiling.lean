import ScopeTracker.Grammar.Contexts
import ScopeTracker.Proofs.Grammar.Tokens

/-!
# The scopes of a tiling

A reader gives the changes of the scope stack along a line in order, some of them perhaps behind its
end, at the line feed, and says what each makes of the stack. Between two changes the stack stays as
it is, so a token that ends where a change is made holds the stack from the changes before, and the
change itself counts for the next token.

Main statements: cutting a line at its changes gives tokens without gaps, each with the scopes that
are open there (`cutAt_of_ok`); so a grammar that is made from a reader tiles each line, and fails
exactly if a change of the stack is impossible (`tokenizeLine_tiles`).
-/

namespace ScopeTracker

namespace ScopeStack

/-- Carries out changes one after the other. -/
def applyAll (stack : ScopeStack) (effect : ScopeEffect) (ops : List ScopeOp) :
    Except ScopeStackError ScopeStack :=
  ops.foldlM effect stack

/-- The changes at or before an offset of a line. -/
def opsUpTo (changes : List ScopeChange) (place : Nat) : List ScopeOp :=
  (changes.filter fun change => change.1 ≤ place).map Prod.snd

variable {effect : ScopeEffect} {stack next last : ScopeStack} {op : ScopeOp} {ops : List ScopeOp}
  {error : ScopeStackError}

theorem applyAll_cons_of_ok (h : effect stack op = .ok next) (ops : List ScopeOp) :
    stack.applyAll effect (op :: ops) = next.applyAll effect ops := by
  rw [applyAll, List.foldlM_cons, h]
  rfl

theorem applyAll_cons_of_error (h : effect stack op = .error error) (ops : List ScopeOp) :
    stack.applyAll effect (op :: ops) = .error error := by
  rw [applyAll, List.foldlM_cons, h]
  rfl

end ScopeStack

namespace Token

variable {effect : ScopeEffect} {length start : Nat} {stack next last : ScopeStack}
  {change : ScopeChange} {changes : List ScopeChange} {error : ScopeStackError}

/-! ## Cutting at a change -/

theorem cutAt_cons_of_lt (happly : effect stack change.2 = .ok next)
    (hlt : start < min change.1 length) {tokens : List Token} {stop : Nat}
    (hrest : cutAt effect length (min change.1 length) next changes = .ok (tokens, stop, last)) :
    cutAt effect length start stack (change :: changes) =
      .ok (⟨start, min change.1 length, stack.scopes⟩ :: tokens, stop, last) := by
  obtain ⟨offset, op⟩ := change
  simp only at happly hlt hrest
  simp only [cutAt, happly, hlt, hrest, if_true, bind, Except.bind, pure, Except.pure]

theorem cutAt_cons_of_not_lt (happly : effect stack change.2 = .ok next)
    (hlt : ¬ start < min change.1 length) :
    cutAt effect length start stack (change :: changes) =
      cutAt effect length start next changes := by
  obtain ⟨offset, op⟩ := change
  simp only at happly hlt
  simp only [cutAt, happly, hlt, if_false, bind, Except.bind]

/-- What is impossible when the changes are carried out is impossible when the line is cut. -/
theorem cutAt_of_error (h : stack.applyAll effect (changes.map Prod.snd) = .error error) :
    cutAt effect length start stack changes = .error error := by
  induction changes generalizing start stack with
  | nil => cases h
  | cons change rest ih =>
    rw [List.map_cons] at h
    cases happly : effect stack change.2 with
    | error fault =>
      rw [ScopeStack.applyAll_cons_of_error happly] at h
      obtain rfl : fault = error := Except.error.inj h
      obtain ⟨offset, op⟩ := change
      simp only at happly
      simp only [cutAt, happly, bind, Except.bind]
    | ok next =>
      rw [ScopeStack.applyAll_cons_of_ok happly] at h
      by_cases hlt : start < min change.1 length
      · obtain ⟨offset, op⟩ := change
        simp only at happly hlt
        simp only [cutAt, happly, hlt, ih h, if_true, bind, Except.bind]
      · rw [cutAt_cons_of_not_lt happly hlt]
        exact ih h

/-- The tokens that a line is cut into at changes from `start` on. They end where the last of the
changes is made, and each holds the scopes that are open at its bytes. -/
structure CutsAt (effect : ScopeEffect) (length start : Nat) (stack : ScopeStack)
    (changes : List ScopeChange) (tokens : List Token) (stop : Nat) : Prop where
  contiguous : Contiguous start tokens stop
  stop_le : stop ≤ length
  nonempty : ∀ token ∈ tokens, token.start < token.stop
  passed : ∀ change ∈ changes, min change.1 length ≤ stop
  scopes : ∀ token ∈ tokens, ∀ place, token.Covers place →
    ∃ opened, stack.applyAll effect (ScopeStack.opsUpTo changes place) = .ok opened ∧
      token.scopes = opened.scopes

theorem cutAt_of_ok (hsorted : changes.Pairwise fun a b => a.1 ≤ b.1)
    (hstart : ∀ change ∈ changes, start ≤ min change.1 length) (hle : start ≤ length)
    (h : stack.applyAll effect (changes.map Prod.snd) = .ok last) :
    ∃ tokens stop, cutAt effect length start stack changes = .ok (tokens, stop, last) ∧
      CutsAt effect length start stack changes tokens stop := by
  induction changes generalizing start stack with
  | nil =>
    obtain rfl : stack = last := Except.ok.inj h
    exact ⟨[], start, rfl, rfl, hle, by simp, by simp, by simp⟩
  | cons change rest ih =>
    obtain ⟨hfirst, hsorted⟩ := List.pairwise_cons.mp hsorted
    have hcut := hstart change List.mem_cons_self
    rw [List.map_cons] at h
    cases happly : effect stack change.2 with
    | error fault =>
      rw [ScopeStack.applyAll_cons_of_error happly] at h
      cases h
    | ok next =>
      rw [ScopeStack.applyAll_cons_of_ok happly] at h
      have hrest : ∀ other ∈ rest, min change.1 length ≤ min other.1 length := by
        intro other hother
        have := hfirst other hother
        omega
      obtain ⟨tokens, stop, htokens, hcuts⟩ := ih hsorted hrest (Nat.min_le_right _ _) h
      have hstop := hcuts.contiguous.start_le_stop
      have hpassed : ∀ other ∈ change :: rest, min other.1 length ≤ stop :=
        List.forall_mem_cons.mpr ⟨hstop, hcuts.passed⟩
      -- the bytes of these tokens lie at the change or behind it, and before the end of the line
      have hscopes : ∀ token ∈ tokens, ∀ place, token.Covers place →
          ∃ opened,
            stack.applyAll effect (ScopeStack.opsUpTo (change :: rest) place) = .ok opened ∧
              token.scopes = opened.scopes := by
        intro token htoken place hplace
        obtain ⟨opened, hopened, heq⟩ := hcuts.scopes token htoken place hplace
        have hbounds := hcuts.contiguous.bounds htoken
        have hlength := hcuts.stop_le
        have hle := hplace.1
        have hlt := hplace.2
        have hchange : change.1 ≤ place := by omega
        refine ⟨opened, ?_, heq⟩
        rw [ScopeStack.opsUpTo, List.filter_cons_of_pos (by simpa using hchange), List.map_cons,
          ScopeStack.applyAll_cons_of_ok happly]
        exact hopened
      by_cases hlt : start < min change.1 length
      · refine ⟨_, stop, cutAt_cons_of_lt happly hlt htokens,
          ⟨rfl, hcut, hcuts.contiguous⟩, hcuts.stop_le,
          List.forall_mem_cons.mpr ⟨hlt, hcuts.nonempty⟩, hpassed,
          List.forall_mem_cons.mpr ⟨fun place hplace => ⟨stack, ?_, rfl⟩, hscopes⟩⟩
        -- all changes are made behind this byte
        have hnone : ScopeStack.opsUpTo (change :: rest) place = [] := by
          have hlt : place < min change.1 length := hplace.2
          simp only [ScopeStack.opsUpTo, List.map_eq_nil_iff, List.filter_eq_nil_iff,
            decide_eq_true_eq, List.forall_mem_cons]
          refine ⟨by omega, fun other hother => ?_⟩
          have := hfirst other hother
          omega
        rw [hnone]
        rfl
      · have hsame : min change.1 length = start := by omega
        rw [hsame] at htokens hcuts
        refine ⟨tokens, stop, ?_, hcuts.contiguous, hcuts.stop_le, hcuts.nonempty, hpassed,
          hscopes⟩
        rw [cutAt_cons_of_not_lt happly hlt]
        exact htokens

/-! ## The tokens of a line -/

theorem tile_of_error (h : stack.applyAll effect (changes.map Prod.snd) = .error error) :
    tile effect length stack changes = .error error := by
  rw [tile, cutAt_of_error h]
  rfl

/-- The scopes at a byte that no cut lies behind are those after all changes. -/
theorem CutsAt.opsUpTo_eq {tokens : List Token} {stop place : Nat}
    (h : CutsAt effect length start stack changes tokens stop) (hplace : stop ≤ place)
    (hlength : place < length) : ScopeStack.opsUpTo changes place = changes.map Prod.snd := by
  have hall : ∀ change ∈ changes, change.1 ≤ place := by
    intro change hchange
    have := h.passed change hchange
    omega
  rw [ScopeStack.opsUpTo, List.filter_eq_self.mpr (by simpa using hall)]

/-- The tokens of a line have no gaps, go to its end, and hold the scopes that are open at their
bytes. None is empty but the one token of an empty line. -/
theorem tile_of_ok (length : Nat) (hsorted : changes.Pairwise fun a b => a.1 ≤ b.1)
    (h : stack.applyAll effect (changes.map Prod.snd) = .ok last) :
    ∃ tokens, tile effect length stack changes = .ok (tokens, last) ∧ Contiguous 0 tokens length ∧
      (if length = 0 then tokens = [⟨0, 0, last.scopes⟩]
        else ∀ token ∈ tokens, token.start < token.stop) ∧
      ∀ token ∈ tokens, ∀ place, token.Covers place →
        ∃ opened, stack.applyAll effect (ScopeStack.opsUpTo changes place) = .ok opened ∧
          token.scopes = opened.scopes := by
  obtain ⟨tokens, stop, htokens, hcuts⟩ :=
    cutAt_of_ok hsorted (fun _ _ => Nat.zero_le _) (Nat.zero_le length) h
  have hstop := hcuts.stop_le
  by_cases hrest : stop < length ∨ tokens = []
  · -- what is left behind the last cut is a token, and so is an empty line
    have hadds : (stop < length || tokens.isEmpty) = true := by simpa using hrest
    have hempty : length = 0 → tokens = [] := by
      intro hzero
      exact hrest.resolve_left (by omega)
    refine ⟨tokens ++ [⟨stop, length, last.scopes⟩], ?_, hcuts.contiguous.concat hstop _, ?_, ?_⟩
    · simp only [tile, htokens, hadds, if_true, bind, Except.bind, pure, Except.pure]
    · split
      · rename_i hzero
        rw [hempty hzero, List.nil_append, hzero, show stop = 0 by omega]
      · rename_i hlength
        have hlast : stop < length := by
          rcases hrest with hlt | rfl
          · exact hlt
          · have hend : 0 = stop := hcuts.contiguous
            omega
        rw [List.forall_mem_append]
        exact ⟨hcuts.nonempty, by simpa using hlast⟩
    · rw [List.forall_mem_append, List.forall_mem_singleton]
      refine ⟨hcuts.scopes, fun place hplace => ⟨last, ?_, rfl⟩⟩
      rw [hcuts.opsUpTo_eq hplace.1 hplace.2]
      exact h
  · have hadds : (stop < length || tokens.isEmpty) = false := by simpa using hrest
    simp only [not_or, Nat.not_lt] at hrest
    obtain rfl : stop = length := Nat.le_antisymm hstop hrest.1
    refine ⟨tokens, ?_, hcuts.contiguous, ?_, hcuts.scopes⟩
    · simp only [tile, htokens, hadds, Bool.false_eq_true, if_false, bind, Except.bind, pure,
        Except.pure]
    · split
      · -- a token that is not empty does not fit into an empty line
        obtain ⟨token, htoken⟩ := List.exists_mem_of_ne_nil tokens hrest.2
        have hbounds := hcuts.contiguous.bounds htoken
        have hlt := hcuts.nonempty token htoken
        omega
      · exact hcuts.nonempty

end Token

namespace LineReader

variable {π : Type} {reader : LineReader π} {line : Text} {prior : Option (LineState π)}
  {changes : List ScopeChange} {place : π}

/-- A grammar that is made from a reader cuts each line into tokens without gaps, down to its end,
whatever the changes make of the scope stack. The offsets that the reader gives must be in order,
and may lie behind the end of the line. A token
has the scopes that are open after all changes at or before its bytes, those from the line before
included, and the new state holds the stack after all changes. The grammar fails if one of the
changes is impossible. -/
theorem tokenizeLine_tiles
    (hread : reader.read (line ++ ['\n']) (prior.map LineState.place) = .ok (changes, place))
    (hsorted : changes.Pairwise fun a b => a.1 ≤ b.1) :
    let stack := scopesBefore prior
    (∀ last, stack.applyAll reader.apply (changes.map Prod.snd) = .ok last →
      ∃ tokens, reader.tokenizeLine line prior = .ok ⟨tokens, place, last⟩ ∧
        Token.Contiguous 0 tokens line.byteLength ∧
        (if line = [] then tokens = [⟨0, 0, last.scopes⟩]
          else ∀ token ∈ tokens, token.start < token.stop) ∧
        ∀ byte < line.byteLength,
          (∃ token ∈ tokens, token.Covers byte) ∧
            ∀ token ∈ tokens, token.Covers byte →
              ∃ opened, stack.applyAll reader.apply (ScopeStack.opsUpTo changes byte) = .ok opened ∧
                token.scopes = opened.scopes) ∧
      ∀ error, stack.applyAll reader.apply (changes.map Prod.snd) = .error error →
        reader.tokenizeLine line prior = .error (.scopeStack error.name) := by
  intro stack
  constructor
  · intro last hlast
    obtain ⟨tokens, htile, hcontiguous, hnonempty, hscopes⟩ :=
      Token.tile_of_ok line.byteLength hsorted hlast
    refine ⟨tokens, ?_, hcontiguous, ?_, fun byte hbyte => ⟨?_, ?_⟩⟩
    · simp only [tokenizeLine, hread, bind, Except.bind]
      rw [htile]
      rfl
    · simpa only [Text.byteLength_eq_zero_iff] using hnonempty
    · exact hcontiguous.exists_covers (Nat.zero_le byte) hbyte
    · exact fun token htoken hcovers => hscopes token htoken byte hcovers
  · intro error herror
    simp only [tokenizeLine, hread, bind, Except.bind]
    rw [Token.tile_of_error herror]
    rfl

end LineReader

/-- Comments go from a `#` to the line feed. -/
def Definition.lineComments : Definition where
  name := "Mini"
  scope := "source.mini"
  extensions := ["mini"]
  contexts := [(mainContext,
    { rules := [{ pattern := [.char '#', ⟨.allBut '\n', 0, none⟩, .char '\n']
                  scopes := ["comment.line.mini"] }] })]

/-- The comment is closed behind the line feed, which is behind the end of the line. -/
theorem LineReader.tokenizeLine_tiles_feed :
    let reader := Definition.lineComments.reader
    let line : Text := ['a', '#', 'é']
    reader.read (line ++ ['\n']) none =
        .ok ([(0, .push "source.mini"), (1, .push "comment.line.mini"), (5, .pop 1)], ["main"]) ∧
      ∃ tokens, reader.tokenizeLine line none = .ok ⟨tokens, ["main"], ["source.mini"], []⟩ ∧
        Token.Contiguous 0 tokens 4 ∧ (∀ token ∈ tokens, token.start < token.stop) ∧
        ∀ token ∈ tokens, token.Covers 3 → token.scopes = ["source.mini", "comment.line.mini"] := by
  intro reader line
  have hread : reader.read (line ++ ['\n']) ((none : Option ReadState).map LineState.place) =
      .ok ([(0, .push "source.mini"), (1, .push "comment.line.mini"), (5, .pop 1)], ["main"]) := rfl
  obtain ⟨tokens, htokens, hcontiguous, hnonempty, hscopes⟩ :=
    (tokenizeLine_tiles hread (by decide)).1 ⟨["source.mini"], []⟩ rfl
  refine ⟨hread, tokens, htokens, hcontiguous, hnonempty, fun token htoken hcovers => ?_⟩
  obtain ⟨opened, hopened, heq⟩ := (hscopes 3 (by decide)).2 token htoken hcovers
  obtain rfl : ⟨["source.mini", "comment.line.mini"], []⟩ = opened := Except.ok.inj hopened
  exact heq

end ScopeTracker
