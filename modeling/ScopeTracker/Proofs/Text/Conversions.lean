import ScopeTracker.Proofs.Text.Clamping
import ScopeTracker.Proofs.Text.Units

/-!
# Conversions between bytes and UTF-16

An editor may send any position. One past a line or the document stands for the end of that, and one
between the two units of a character for the end of the character, while a byte column inside a
character stands for its start. So the two conversions are inverse to each other up to clamping, and
they round in different directions.

Main statement: both conversions clamp, undo each other and keep the order of the document
(`conversions_inverse`).
-/

namespace ScopeTracker

namespace Utf16Position

/-- Lines are compared first, columns decide between positions on one line. -/
instance : LE Utf16Position :=
  ⟨fun a b => a.line < b.line ∨ a.line = b.line ∧ a.character ≤ b.character⟩

theorem le_def {a b : Utf16Position} :
    a ≤ b ↔ a.line < b.line ∨ a.line = b.line ∧ a.character ≤ b.character := Iff.rfl

instance (a b : Utf16Position) : Decidable (a ≤ b) := decidable_of_iff _ le_def.symm

end Utf16Position

namespace Text

variable {t : Text} {units column : Nat}

/-! ## Characters of two units -/

/-- A UTF-16 column between the two units of a character. -/
def SplitsPair (t : Text) (units : Nat) : Prop :=
  ∃ (before : Text) (c : Char) (after : Text),
    t = before ++ c :: after ∧ charUnits c = 2 ∧ units = before.unitLength + 1

/-- A byte column between characters that has at least as many UTF-16 units before it. -/
structure Reaches (t : Text) (units column : Nat) : Prop where
  boundary : t.isBoundary column
  units_le : units ≤ (t.takeColumn column).unitLength

theorem charUnits_eq (c : Char) : charUnits c = 1 ∨ charUnits c = 2 := by
  unfold charUnits
  split
  · exact .inl rfl
  · exact .inr rfl

theorem unitLength_append (before after : Text) :
    (before ++ after).unitLength = before.unitLength + after.unitLength := by
  induction before with
  | nil => simp [unitLength]
  | cons c before ih => rw [List.cons_append, unitLength, unitLength, ih, Nat.add_assoc]

theorem SplitsPair.cons (h : t.SplitsPair units) (c : Char) :
    SplitsPair (c :: t) (charUnits c + units) := by
  obtain ⟨before, d, after, rfl, hd, rfl⟩ := h
  exact ⟨c :: before, d, after, rfl, hd, by rw [unitLength, Nat.add_assoc]⟩

/-! ## The characters up to a UTF-16 column -/

theorem exists_takeUnits_append (t : Text) (units : Nat) :
    ∃ rest, t = t.takeUnits units ++ rest := by
  fun_induction takeUnits t units with
  | case1 => exact ⟨[], rfl⟩
  | case2 c rest => exact ⟨c :: rest, rfl⟩
  | case3 c rest units _ ih =>
    obtain ⟨more, hmore⟩ := ih
    exact ⟨more, congrArg (c :: ·) hmore⟩

theorem isBoundary_takeUnits (t : Text) (units : Nat) :
    t.isBoundary (t.takeUnits units).byteLength := by
  obtain ⟨rest, hrest⟩ := exists_takeUnits_append t units
  have h := isBoundary_append (t.takeUnits units) rest
  rwa [← hrest] at h

theorem takeColumn_byteLength_takeUnits (t : Text) (units : Nat) :
    t.takeColumn (t.takeUnits units).byteLength = t.takeUnits units := by
  obtain ⟨rest, hrest⟩ := exists_takeUnits_append t units
  have h := takeColumn_append (t.takeUnits units) rest
  rwa [← hrest] at h

theorem takeUnits_of_unitLength_le (h : t.unitLength ≤ units) : t.takeUnits units = t := by
  induction t generalizing units with
  | nil => rfl
  | cons c rest ih =>
    have hpos := charUnits_pos c
    rw [unitLength] at h
    obtain ⟨fewer, rfl⟩ : ∃ fewer, units = fewer + 1 := ⟨units - 1, by omega⟩
    rw [takeUnits_succ, ih (by omega)]

theorem unitLength_takeUnits_of_splitsPair (h : t.SplitsPair units) :
    (t.takeUnits units).unitLength = units + 1 := by
  obtain ⟨before, c, after, rfl, hc, rfl⟩ := h
  rw [takeUnits_append_add, takeUnits_succ, hc, takeUnits_zero, unitLength_append, unitLength, hc]
  rfl

theorem unitLength_takeUnits (hle : units ≤ t.unitLength) (h : ¬ t.SplitsPair units) :
    (t.takeUnits units).unitLength = units := by
  induction t generalizing units with
  | nil => exact (Nat.le_zero.mp hle).symm
  | cons c rest ih =>
    cases units with
    | zero => rfl
    | succ fewer =>
      -- the first character ends before the column, which does not split it
      have hfirst : charUnits c ≤ fewer + 1 := by
        rcases charUnits_eq c with hc | hc
        · omega
        · apply Nat.le_of_not_lt
          intro hlt
          exact h ⟨[], c, rest, rfl, hc, by rw [unitLength]; omega⟩
      obtain ⟨more, hmore⟩ := Nat.exists_eq_add_of_le hfirst
      rw [takeUnits_succ, hmore, Nat.add_sub_cancel_left, unitLength, ih]
      · rw [unitLength] at hle
        omega
      · exact fun hrest => h (hmore ▸ hrest.cons c)

/-- The characters up to a UTF-16 column have as many units, unless the column splits one. -/
theorem le_unitLength_takeUnits (h : units ≤ t.unitLength) :
    units ≤ (t.takeUnits units).unitLength := by
  by_cases hsplits : t.SplitsPair units
  · rw [unitLength_takeUnits_of_splitsPair hsplits]
    exact Nat.le_succ units
  · rw [unitLength_takeUnits h hsplits]

theorem reaches_iff_exists : t.Reaches units column ↔
    ∃ before after : Text,
      t = before ++ after ∧ before.byteLength = column ∧ units ≤ before.unitLength := by
  constructor
  · intro h
    exact ⟨_, _, (takeColumn_append_dropColumn t column).symm, isBoundary_iff.mp h.boundary,
      h.units_le⟩
  · rintro ⟨before, after, rfl, rfl, hle⟩
    exact ⟨isBoundary_append before after, by rwa [takeColumn_append]⟩

/-- The first column that reaches a UTF-16 column, if the line has as many units. -/
theorem isLeast_takeUnits (h : units ≤ t.unitLength) :
    IsLeast {column | t.Reaches units column} (t.takeUnits units).byteLength := by
  obtain ⟨rest, hrest⟩ := exists_takeUnits_append t units
  refine ⟨reaches_iff_exists.mpr ⟨_, rest, hrest, rfl, le_unitLength_takeUnits h⟩, ?_⟩
  intro column hreaches
  obtain ⟨before, after, rfl, rfl, hle⟩ := reaches_iff_exists.mp hreaches
  have hmono := byteLength_takeUnits_mono (before ++ after) hle
  rwa [takeUnits_append] at hmono

theorem exists_reaches_iff : (∃ column, t.Reaches units column) ↔ units ≤ t.unitLength := by
  constructor
  · rintro ⟨column, hreaches⟩
    obtain ⟨before, after, rfl, -, hle⟩ := reaches_iff_exists.mp hreaches
    rw [unitLength_append]
    omega
  · intro h
    exact ⟨_, (isLeast_takeUnits h).1⟩

/-- Of two starts of a line the longer one has more units. -/
theorem unitLength_takeColumn_mono {further : Nat} (h : t.isBoundary column)
    (hfurther : t.isBoundary further) (hle : column ≤ further) :
    (t.takeColumn column).unitLength ≤ (t.takeColumn further).unitLength := by
  have hcut := takeColumn_append_dropColumn t column
  have hcut' := takeColumn_append_dropColumn t further
  obtain ⟨between, hbetween, -⟩ := exists_append_of_byteLength_le (hcut.trans hcut'.symm)
    (by rwa [isBoundary_iff.mp h, isBoundary_iff.mp hfurther])
  rw [hbetween, unitLength_append]
  omega

/-! ## Counting with 32 bits -/

/-- The bytes up to a UTF-16 column, counted character by character with a counter of 32 bits. It
fails if the counter does not hold the units. -/
def countUpTo (units : Nat) : Text → Nat → Option Nat
  | [], _ => some 0
  | c :: rest, counted =>
    if units ≤ counted then some 0
    else if counted + charUnits c < wordCount then
      (countUpTo units rest (counted + charUnits c)).map (c.utf8Size + ·)
    else none

theorem countUpTo_eq {counted : Nat} (h : counted + t.unitLength < wordCount) :
    countUpTo units t counted = some (t.takeUnits (units - counted)).byteLength := by
  induction t generalizing counted with
  | nil => rfl
  | cons c rest ih =>
    have hpos := charUnits_pos c
    rw [unitLength] at h
    rw [countUpTo]
    by_cases hunits : units ≤ counted
    · rw [if_pos hunits, Nat.sub_eq_zero_of_le hunits]
      rfl
    · obtain ⟨more, hmore⟩ : ∃ more, units - counted = more + 1 := ⟨units - counted - 1, by omega⟩
      rw [if_neg hunits, if_pos (by omega), ih (by omega), Option.map_some, hmore, takeUnits_succ,
        byteLength, show units - (counted + charUnits c) = more + 1 - charUnits c by omega]

end Text

namespace Buffer

variable {buffer : Buffer} {position other : Position} {sent later : Utf16Position}

/-- A UTF-16 position on a line of the document, not past its end. -/
structure InRange (buffer : Buffer) (sent : Utf16Position) : Prop where
  line_lt : sent.line < buffer.lineCount
  character_le : sent.character ≤ (buffer.line sent.line).unitLength

instance (buffer : Buffer) (sent : Utf16Position) : Decidable (buffer.InRange sent) :=
  decidable_of_iff (sent.line < buffer.lineCount ∧
      sent.character ≤ (buffer.line sent.line).unitLength)
    ⟨fun h => ⟨h.1, h.2⟩, fun h => ⟨h.line_lt, h.character_le⟩⟩

/-! ## From UTF-16 to bytes -/

theorem positionOfUtf16_of_lt (h : sent.line < buffer.lineCount) :
    buffer.positionOfUtf16 sent =
      ⟨sent.line, ((buffer.line sent.line).takeUnits sent.character).byteLength⟩ := by
  have hlast := buffer.lastLine_add_one
  rw [positionOfUtf16, if_neg (by omega)]

theorem positionOfUtf16_of_le (h : buffer.lineCount ≤ sent.line) :
    buffer.positionOfUtf16 sent = buffer.endPosition := by
  have hlast := buffer.lastLine_add_one
  rw [positionOfUtf16, if_pos (by omega)]

theorem hasPlace_endPosition (buffer : Buffer) : buffer.HasPlace buffer.endPosition := by
  have hlast := buffer.lastLine_add_one
  exact ⟨by simp only [endPosition]; omega, Text.isBoundary_byteLength _⟩

theorem hasPlace_positionOfUtf16 (buffer : Buffer) (sent : Utf16Position) :
    buffer.HasPlace (buffer.positionOfUtf16 sent) := by
  rcases Nat.lt_or_ge sent.line buffer.lineCount with h | h
  · rw [positionOfUtf16_of_lt h]
    exact ⟨h, Text.isBoundary_takeUnits _ _⟩
  · rw [positionOfUtf16_of_le h]
    exact buffer.hasPlace_endPosition

/-- The order of the document is kept. -/
theorem positionOfUtf16_mono (buffer : Buffer) (hle : sent ≤ later) :
    buffer.positionOfUtf16 sent ≤ buffer.positionOfUtf16 later := by
  rcases Nat.lt_or_ge later.line buffer.lineCount with h | h
  · rcases Utf16Position.le_def.mp hle with hline | ⟨hline, hcharacter⟩
    · rw [positionOfUtf16_of_lt (by omega), positionOfUtf16_of_lt h]
      exact .inl hline
    · rw [positionOfUtf16_of_lt (by omega), positionOfUtf16_of_lt h, hline]
      exact .inr ⟨rfl, Text.byteLength_takeUnits_mono _ hcharacter⟩
  · rw [positionOfUtf16_of_le h]
    exact le_endPosition (buffer.hasPlace_positionOfUtf16 sent)

/-! ## From bytes to UTF-16 -/

theorem positionToUtf16_clamp (buffer : Buffer) (position : Position) :
    buffer.positionToUtf16 (buffer.clamp position) = buffer.positionToUtf16 position := by
  rw [positionToUtf16, positionToUtf16, clamp_of_hasPlace (buffer.hasPlace_clamp position)]

theorem positionToUtf16_mono (buffer : Buffer) (hle : position ≤ other) :
    buffer.positionToUtf16 position ≤ buffer.positionToUtf16 other := by
  have hplace := buffer.hasPlace_clamp position
  have hplace' := buffer.hasPlace_clamp other
  rw [← positionToUtf16_clamp buffer position, ← positionToUtf16_clamp buffer other,
    positionToUtf16_of_hasPlace hplace, positionToUtf16_of_hasPlace hplace']
  rcases Position.le_def.mp (buffer.clamp_mono hle) with hline | ⟨hline, hcolumn⟩
  · exact .inl hline
  · have hboundary := hplace.boundary
    rw [hline] at hboundary
    refine .inr ⟨hline, ?_⟩
    simp only [hline]
    exact Text.unitLength_takeColumn_mono hboundary hplace'.boundary hcolumn

/-- What is sent for the place of a UTF-16 position has the units of the characters up to it. -/
theorem positionToUtf16_positionOfUtf16 (h : sent.line < buffer.lineCount) :
    buffer.positionToUtf16 (buffer.positionOfUtf16 sent) =
      ⟨sent.line, ((buffer.line sent.line).takeUnits sent.character).unitLength⟩ := by
  rw [positionToUtf16_of_hasPlace (buffer.hasPlace_positionOfUtf16 sent), positionOfUtf16_of_lt h,
    Text.takeColumn_byteLength_takeUnits]

theorem toWords_positionToUtf16_any (hfits : buffer.FitsWords) (position : Position) :
    (buffer.positionToUtf16 position).toWords = buffer.positionToUtf16 position := by
  rw [← positionToUtf16_clamp]
  exact toWords_positionToUtf16 hfits (buffer.hasPlace_clamp position)

theorem FitsWords.unitLength_line (h : buffer.FitsWords) (index : Nat) :
    (buffer.line index).unitLength < wordCount :=
  Nat.lt_of_le_of_lt (Text.unitLength_le_byteLength _) (h.byteLength_line index)

/-- What is sent for a position in range is the position, or one column further if that is between
the two units of a character. -/
theorem toWords_positionToUtf16_positionOfUtf16 (hfits : buffer.FitsWords)
    (h : buffer.InRange sent) :
    let returned := (buffer.positionToUtf16 (buffer.positionOfUtf16 sent)).toWords
    (¬ (buffer.line sent.line).SplitsPair sent.character → returned = sent) ∧
      ((buffer.line sent.line).SplitsPair sent.character →
        returned = ⟨sent.line, sent.character + 1⟩) := by
  intro returned
  have hreturned : returned =
      ⟨sent.line, ((buffer.line sent.line).takeUnits sent.character).unitLength⟩ := by
    rw [← positionToUtf16_positionOfUtf16 h.line_lt]
    exact toWords_positionToUtf16_any hfits _
  refine ⟨fun hwhole => ?_, fun hsplits => ?_⟩
  · rw [hreturned, Text.unitLength_takeUnits h.character_le hwhole]
  · rw [hreturned, Text.unitLength_takeUnits_of_splitsPair hsplits]

/-- Conversions of positions in a document whose lines and bytes can be counted with 32 bits. A byte
position comes back from UTF-16 clamped. A UTF-16 position stands for a place: for the end of the
document if its line is past the last one, and else for the first column of its line that reaches
its own, or for the end of the line if there is none, as counted with 32 bits. So a UTF-16 position
in range comes back as it is, and one column further if it is between the two units of a character.
Both conversions keep the order of the document. -/
theorem conversions_inverse (hfits : buffer.FitsWords) :
    (∀ position, buffer.positionOfUtf16 (buffer.positionToUtf16 position).toWords =
      buffer.clamp position) ∧
    (∀ sent : Utf16Position,
      let place := buffer.positionOfUtf16 sent
      let line := buffer.line sent.line
      let returned := (buffer.positionToUtf16 place).toWords
      buffer.HasPlace place ∧
      (buffer.lastLine < sent.line → place = buffer.endPosition) ∧
      (sent.line ≤ buffer.lastLine →
        place.line = sent.line ∧
        line.countUpTo sent.character 0 = some place.column ∧
        ((∃ column, line.Reaches sent.character column) →
          IsLeast {column | line.Reaches sent.character column} place.column) ∧
        ((¬ ∃ column, line.Reaches sent.character column) → place.column = line.byteLength)) ∧
      (buffer.InRange sent →
        (¬ line.SplitsPair sent.character → returned = sent) ∧
        (line.SplitsPair sent.character → returned = ⟨sent.line, sent.character + 1⟩))) ∧
    (∀ position other, position ≤ other →
      (buffer.positionToUtf16 position).toWords ≤ (buffer.positionToUtf16 other).toWords) ∧
    ∀ sent later, sent ≤ later → buffer.positionOfUtf16 sent ≤ buffer.positionOfUtf16 later := by
  have hlast := buffer.lastLine_add_one
  refine ⟨fun position => ?_, fun sent => ⟨buffer.hasPlace_positionOfUtf16 sent, fun hpast => ?_,
    fun hline => ?_, toWords_positionToUtf16_positionOfUtf16 hfits⟩, fun position other hle => ?_,
    fun _ _ => buffer.positionOfUtf16_mono⟩
  · rw [toWords_positionToUtf16_any hfits, ← positionToUtf16_clamp,
      positionOfUtf16_positionToUtf16 (buffer.hasPlace_clamp position)]
  · exact positionOfUtf16_of_le (by omega)
  · have hunits := hfits.unitLength_line sent.line
    rw [positionOfUtf16_of_lt (by omega), Text.exists_reaches_iff]
    refine ⟨rfl, ?_, Text.isLeast_takeUnits, fun hshort => ?_⟩
    · exact Text.countUpTo_eq (by rwa [Nat.zero_add])
    · simp only [Text.takeUnits_of_unitLength_le (Nat.le_of_not_le hshort)]
  · simp only [toWords_positionToUtf16_any hfits]
    exact buffer.positionToUtf16_mono hle

/-- The UTF-16 position is between the two units of the last character of its line, and the byte
position inside that character. -/
theorem conversions_inverse_inside :
    let buffer : Buffer := .ofText ['é', '𝄞', '\n', 'b']
    let sent : Utf16Position := ⟨0, 2⟩
    (buffer.positionOfUtf16 sent = ⟨0, 6⟩ ∧
        IsLeast {column | (buffer.line 0).Reaches 2 column} 6 ∧
        (buffer.positionToUtf16 ⟨0, 6⟩).toWords = ⟨0, 3⟩) ∧
      buffer.clamp ⟨0, 5⟩ = ⟨0, 2⟩ ∧
      buffer.positionOfUtf16 (buffer.positionToUtf16 ⟨0, 5⟩).toWords = ⟨0, 2⟩ := by
  intro buffer sent
  have hfits : buffer.FitsWords := ⟨by decide +kernel, by decide +kernel⟩
  obtain ⟨hback, hsent, -, -⟩ := conversions_inverse hfits
  obtain ⟨-, -, hplace, hreturned⟩ := hsent sent
  have hsplits : (buffer.line 0).SplitsPair 2 := ⟨['é'], '𝄞', [], by decide, by decide, by decide⟩
  have hreaches : (buffer.line 0).Reaches 2 6 := ⟨by decide, by decide⟩
  have hfound : buffer.positionOfUtf16 sent = ⟨0, 6⟩ := by decide
  have hclamp : buffer.clamp ⟨0, 5⟩ = ⟨0, 2⟩ := by decide
  obtain ⟨-, -, hleast, -⟩ := hplace (by decide)
  have hleast := hleast ⟨6, hreaches⟩
  have hfurther := (hreturned (by decide)).2 hsplits
  rw [hfound] at hleast hfurther
  exact ⟨⟨hfound, hleast, hfurther⟩, hclamp, (hback ⟨0, 5⟩).trans hclamp⟩

end Buffer

end ScopeTracker
