import ScopeTracker.Proofs.Text.Seams
import ScopeTracker.Text.Buffer

/-!
# Positions in a raw text

An editor holds a document as one text, with whatever breaks there are in it. A position cuts this
text in two. Its line counts the breaks before it, and its column counts UTF-16 code units on the
line; a place inside a break or inside a surrogate pair has no position.

Main statements: a cut is one between the lines above, the two parts of the line that is cut, and
the lines below (`cut?_spec`); the units and the bytes of the first part lead to the cut
(`takeUnits_append`, `splitAtColumn_append`).
-/

namespace ScopeTracker

namespace Text

variable {raw before after : Text} {position : Utf16Position}

/-- The text above a line, with all its breaks, and the text from the line on. -/
def cutLine? : Text → Nat → Option (Text × Text)
  | t, 0 => some ([], t)
  | [], _ + 1 => none
  | '\r' :: '\n' :: rest, line + 1 =>
    (cutLine? rest line).map fun (above, below) => ('\r' :: '\n' :: above, below)
  | c :: rest, line + 1 =>
    (cutLine? rest (if isBreak c then line else line + 1)).map fun (above, below) =>
      (c :: above, below)

/-- The first characters of a line, up to a UTF-16 column, and the text from there on. A column past
the end of the line or inside a surrogate pair is none of the line. -/
def cutUnits? : Text → Nat → Option (Text × Text)
  | t, 0 => some ([], t)
  | [], _ + 1 => none
  | c :: rest, units + 1 =>
    if isBreak c || units + 1 < charUnits c then none
    else (cutUnits? rest (units + 1 - charUnits c)).map fun (before, after) => (c :: before, after)

/-- The text before a position and the text after it, if the position is one of the text. -/
def cut? (raw : Text) (position : Utf16Position) : Option (Text × Text) := do
  let (above, rest) ← cutLine? raw position.line
  let (before, after) ← cutUnits? rest position.character
  return (above ++ before, after)

/-- A cut at a position, told by the lines of the whole text and of its parts. -/
structure CutAt (raw before after : Text) (position : Utf16Position) (above : List Text)
    (last first : Text) (below : List Text) : Prop where
  whole : raw = before ++ after
  before_lines : before.splitLines = above ++ [last]
  after_lines : after.splitLines = first :: below
  raw_lines : raw.splitLines = above ++ (last ++ first) :: below
  line : above.length = position.line
  character : last.unitLength = position.character

theorem cutLine?_spec {line : Nat} (h : raw.cutLine? line = some (before, after)) :
    raw = before ++ after ∧ ∃ above, above.length = line ∧ before.splitLines = above ++ [[]] ∧
      raw.splitLines = above ++ after.splitLines := by
  fun_induction cutLine? raw line generalizing before after with
  | case1 t =>
    cases h
    exact ⟨rfl, [], rfl, rfl, rfl⟩
  | case2 => cases h
  | case3 rest line ih =>
    obtain ⟨⟨above, below⟩, hcut, heq⟩ := Option.map_eq_some_iff.mp h
    cases heq
    obtain ⟨hwhole, lines, hlength, habove, hraw⟩ := ih hcut
    refine ⟨by rw [hwhole]; rfl, [] :: lines, by rw [List.length_cons, hlength], ?_, ?_⟩
    · rw [splitLines, habove]
      rfl
    · rw [splitLines, hraw]
      rfl
  | case4 c rest line hlone ih =>
    obtain ⟨⟨above, below⟩, hcut, heq⟩ := Option.map_eq_some_iff.mp h
    cases heq
    obtain ⟨hwhole, lines, hlength, habove, hraw⟩ := ih hcut
    have hlone' : ∀ more, c = '\r' → above ≠ '\n' :: more := by
      rintro more rfl rfl
      exact hlone (more ++ after) rfl hwhole
    refine ⟨by rw [hwhole]; rfl, ?_⟩
    by_cases hc : isBreak c
    · rw [if_pos hc] at hlength
      refine ⟨[] :: lines, by rw [List.length_cons, hlength], ?_, ?_⟩
      · rw [splitLines.eq_3 _ _ hlone', if_pos hc, habove]
        rfl
      · rw [splitLines.eq_3 _ _ hlone, if_pos hc, hraw]
        rfl
    · -- the character stands on the first of the lines above
      rw [if_neg hc] at hlength
      obtain ⟨top, lower, rfl⟩ : ∃ top lower, lines = top :: lower :=
        List.exists_cons_of_ne_nil (by rintro rfl; simp at hlength)
      refine ⟨(c :: top) :: lower, hlength, ?_, ?_⟩
      · rw [splitLines.eq_3 _ _ hlone', if_neg hc, habove]
        rfl
      · rw [splitLines.eq_3 _ _ hlone, if_neg hc, hraw]
        rfl

theorem cutUnits?_spec {units : Nat} (h : raw.cutUnits? units = some (before, after)) :
    raw = before ++ after ∧ before.BreakFree ∧ before.unitLength = units := by
  fun_induction cutUnits? raw units generalizing before after with
  | case1 t =>
    cases h
    exact ⟨rfl, by simp [BreakFree], rfl⟩
  | case2 | case3 => cases h
  | case4 c rest units hc ih =>
    obtain ⟨⟨start, rest'⟩, hcut, heq⟩ := Option.map_eq_some_iff.mp h
    cases heq
    obtain ⟨hwhole, hfree, hunits⟩ := ih hcut
    simp only [Bool.or_eq_true, decide_eq_true_eq, not_or, Bool.not_eq_true] at hc
    refine ⟨by rw [hwhole]; rfl, ?_, ?_⟩
    · intro d hd
      rcases List.mem_cons.mp hd with rfl | hd
      · exact hc.1
      · exact hfree d hd
    · rw [unitLength, hunits]
      omega

/-- Between the lines above and those below, the line that is cut is made of the end of the text
before and the start of the text after. -/
theorem cut?_spec (h : raw.cut? position = some (before, after)) :
    ∃ above last first below, CutAt raw before after position above last first below := by
  simp only [cut?, Option.bind_eq_bind, Option.bind_eq_some_iff] at h
  obtain ⟨⟨above, rest⟩, hline, ⟨start, after⟩, hunits, heq⟩ := h
  cases heq
  obtain ⟨rfl, lines, hlength, habove, hraw⟩ := cutLine?_spec hline
  obtain ⟨rfl, hfree, hcharacter⟩ := cutUnits?_spec hunits
  obtain ⟨first, below, hafter⟩ := List.exists_cons_of_ne_nil after.splitLines_ne_nil
  -- the part of a line has no break that could be half of a longer one
  have hreturn : ¬ Fuses start after := fun hfuses =>
    absurd (hfree _ (List.mem_of_getLast? hfuses.1)) (by decide)
  have hfeed : ¬ Fuses above start := fun hfuses =>
    absurd (hfree _ (List.mem_of_head? hfuses.2)) (by decide)
  refine ⟨lines, start, first, below, by rw [List.append_assoc], ?_, hafter, ?_, hlength,
    hcharacter⟩
  · rw [splitLines_append hfeed, habove, splitLines_of_breakFree hfree]
    exact glue_concat lines [] start []
  · rw [hraw, splitLines_append hreturn, splitLines_of_breakFree hfree, hafter]
    rfl

/-! ## Columns of a cut -/

theorem charUnits_pos (c : Char) : 0 < charUnits c := by
  unfold charUnits
  split <;> decide

@[simp] theorem takeUnits_zero (t : Text) : t.takeUnits 0 = [] := by
  cases t <;> rfl

theorem takeUnits_succ (c : Char) (rest : Text) (units : Nat) :
    takeUnits (c :: rest) (units + 1) = c :: takeUnits rest (units + 1 - charUnits c) :=
  takeUnits.eq_3 _ _ _ (by omega)

/-- Units beyond those of the start of a line are taken from its rest. -/
theorem takeUnits_append_add (start rest : Text) (units : Nat) :
    takeUnits (start ++ rest) (start.unitLength + units) = start ++ rest.takeUnits units := by
  induction start with
  | nil => rw [unitLength, Nat.zero_add, List.nil_append, List.nil_append]
  | cons c start ih =>
    have hpos := charUnits_pos c
    have hsucc : unitLength (c :: start) + units =
        charUnits c - 1 + (unitLength start + units) + 1 := by
      rw [unitLength]
      omega
    have hrest : charUnits c - 1 + (unitLength start + units) + 1 - charUnits c =
        unitLength start + units := by
      omega
    rw [List.cons_append, hsucc, takeUnits_succ, hrest, ih, List.cons_append]

/-- As many units as the start of a line has are found to be this start. -/
theorem takeUnits_append (start rest : Text) :
    takeUnits (start ++ rest) start.unitLength = start := by
  have h := takeUnits_append_add start rest 0
  rwa [Nat.add_zero, takeUnits_zero, List.append_nil] at h

/-- A line cut behind the bytes of its start falls into the start and the rest. -/
theorem splitAtColumn_append (start rest : Text) :
    splitAtColumn (start ++ rest) start.byteLength = (start, rest) := by
  induction start with
  | nil =>
    cases rest with
    | nil => rfl
    | cons c rest =>
      have hpos := Char.utf8Size_pos c
      rw [List.nil_append, splitAtColumn, if_neg (by rw [byteLength]; omega)]
  | cons c start ih =>
    rw [List.cons_append, splitAtColumn, if_pos (by rw [byteLength]; omega), byteLength,
      Nat.add_sub_cancel_left, ih]

/-- More units are at least as many bytes. -/
theorem byteLength_takeUnits_mono (t : Text) {units more : Nat} (h : units ≤ more) :
    (t.takeUnits units).byteLength ≤ (t.takeUnits more).byteLength := by
  induction t generalizing units more with
  | nil => exact Nat.le_refl _
  | cons c rest ih =>
    cases units with
    | zero => exact Nat.zero_le _
    | succ units =>
      rw [takeUnits.eq_3 _ _ _ (by omega), takeUnits.eq_3 _ _ _ (by omega), byteLength, byteLength]
      have := ih (show units + 1 - charUnits c ≤ more - charUnits c by omega)
      omega

end Text

end ScopeTracker
