import ScopeTracker.Cache.Query

/-!
# Tokens without gaps

A grammar is to give the tokens of a line in order, each one starting where the one before it ends.
Then every byte of the line lies in one token, and the token that is looked up for a column is the
one that holds it.

Main statements: some token covers a byte, and no two do (`Contiguous.exists_covers`,
`Contiguous.eq_of_covers`); the last token that starts at or before a column is the one that covers
it, or at the end of the line the last one (`Contiguous.covering?_eq_some`).
-/

namespace ScopeTracker

namespace Token

variable {start middle stop column place : Nat} {token other : Token} {tokens rest : List Token}

/-- Whether the byte at an offset lies in a token. -/
def Covers (token : Token) (place : Nat) : Prop := token.start ≤ place ∧ place < token.stop

/-- Tokens that follow each other without a gap from one offset to another. Some may be empty. -/
def Contiguous : Nat → List Token → Nat → Prop
  | start, [], stop => start = stop
  | start, token :: rest, stop =>
    token.start = start ∧ start ≤ token.stop ∧ Contiguous token.stop rest stop

instance (token : Token) (place : Nat) : Decidable (token.Covers place) :=
  inferInstanceAs (Decidable (_ ∧ _))

instance decidableContiguous : ∀ start tokens stop, Decidable (Contiguous start tokens stop)
  | _, [], _ => inferInstanceAs (Decidable (_ = _))
  | _, token :: rest, stop =>
    have := decidableContiguous token.stop rest stop
    inferInstanceAs (Decidable (_ ∧ _ ∧ _))

theorem Contiguous.start_le_stop (h : Contiguous start tokens stop) : start ≤ stop := by
  induction tokens generalizing start with
  | nil => exact Nat.le_of_eq h
  | cons token rest ih =>
    obtain ⟨-, hle, hrest⟩ := h
    exact Nat.le_trans hle (ih hrest)

theorem Contiguous.bounds (h : Contiguous start tokens stop) (hmem : token ∈ tokens) :
    start ≤ token.start ∧ token.start ≤ token.stop ∧ token.stop ≤ stop := by
  induction tokens generalizing start with
  | nil => exact absurd hmem List.not_mem_nil
  | cons first rest ih =>
    obtain ⟨rfl, hle, hrest⟩ := h
    rcases List.mem_cons.mp hmem with rfl | hmem
    · exact ⟨Nat.le_refl _, hle, hrest.start_le_stop⟩
    · obtain ⟨hstart, hbounds⟩ := ih hrest hmem
      exact ⟨Nat.le_trans hle hstart, hbounds⟩

theorem Contiguous.concat (h : Contiguous start tokens middle) (hle : middle ≤ stop)
    (scopes : List String) : Contiguous start (tokens ++ [⟨middle, stop, scopes⟩]) stop := by
  induction tokens generalizing start with
  | nil => exact ⟨(h : start = middle).symm, Nat.le_trans (Nat.le_of_eq h) hle, rfl⟩
  | cons token rest ih =>
    obtain ⟨hstart, hstop, hrest⟩ := h
    exact ⟨hstart, hstop, ih hrest⟩

theorem Contiguous.exists_covers (h : Contiguous start tokens stop) (hstart : start ≤ place)
    (hstop : place < stop) : ∃ token ∈ tokens, token.Covers place := by
  induction tokens generalizing start with
  | nil =>
    have hend : start = stop := h
    omega
  | cons token rest ih =>
    obtain ⟨rfl, hle, hrest⟩ := h
    by_cases hplace : place < token.stop
    · exact ⟨token, List.mem_cons_self, hstart, hplace⟩
    · obtain ⟨found, hfound, hcovers⟩ := ih hrest (Nat.le_of_not_lt hplace)
      exact ⟨found, List.mem_cons_of_mem _ hfound, hcovers⟩

theorem Contiguous.eq_of_covers (h : Contiguous start tokens stop) (hmem : token ∈ tokens)
    (hother : other ∈ tokens) (hcovers : token.Covers place) (hcovers' : other.Covers place) :
    token = other := by
  induction tokens generalizing start with
  | nil => exact absurd hmem List.not_mem_nil
  | cons first rest ih =>
    obtain ⟨-, -, hrest⟩ := h
    have hbelow : ∀ below ∈ rest, below.Covers place → ¬ first.Covers place := by
      intro below hbelow hcovers hfirst
      have hstart := (hrest.bounds hbelow).1
      have hle := hcovers.1
      have hlt := hfirst.2
      omega
    rcases List.mem_cons.mp hmem with heq | hmem
    · rcases List.mem_cons.mp hother with heq' | hother
      · rw [heq, heq']
      · exact absurd (heq ▸ hcovers) (hbelow other hother hcovers')
    · rcases List.mem_cons.mp hother with heq' | hother
      · exact absurd (heq' ▸ hcovers') (hbelow token hmem hcovers)
      · exact ih hrest hmem hother

/-! ## The token of a column -/

theorem mem_of_covering? (h : covering? tokens column = some token) : token ∈ tokens :=
  List.mem_reverse.mp (List.mem_of_find?_eq_some h)

theorem covering?_cons (token : Token) (rest : List Token) (column : Nat) :
    covering? (token :: rest) column =
      (covering? rest column).or (if token.start ≤ column then some token else none) := by
  rw [covering?, List.reverse_cons, List.find?_append, covering?, List.find?_singleton]
  simp only [decide_eq_true_eq]

/-- The token that is looked up for a column holds it. Only at the end of the line it may end there,
or be empty. -/
theorem Contiguous.covering?_eq_some (h : Contiguous start tokens stop) (hne : tokens ≠ [])
    (hstart : start ≤ column) (hstop : column ≤ stop) :
    ∃ token, covering? tokens column = some token ∧ token.start ≤ column ∧ column ≤ token.stop ∧
      (column < stop → column < token.stop) := by
  induction tokens generalizing start with
  | nil => exact absurd rfl hne
  | cons token rest ih =>
    obtain ⟨rfl, hle, hrest⟩ := h
    rw [covering?_cons, if_pos hstart]
    cases rest with
    | nil =>
      have hend : token.stop = stop := hrest
      exact ⟨token, rfl, hstart, by omega, by omega⟩
    | cons next rest =>
      by_cases hpassed : token.stop ≤ column
      · obtain ⟨found, hfound, hbounds⟩ := ih hrest (by simp) hpassed
        exact ⟨found, by rw [hfound, Option.some_or], hbounds⟩
      · have hnone : covering? (next :: rest) column = none := by
          simp only [covering?, List.find?_eq_none, List.mem_reverse, decide_eq_true_eq]
          intro below hbelow
          have hstart := (hrest.bounds hbelow).1
          omega
        exact ⟨token, by rw [hnone, Option.none_or], hstart, by omega, by omega⟩

end Token

end ScopeTracker
