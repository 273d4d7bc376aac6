import Mathlib.Order.Bounds.Basic
import ScopeTracker.Proofs.Text.Cuts

/-!
# Clamping

Any position is accepted, and stands for a place of the document. That place is the greatest one
that does not lie behind the position. On the bytes of a line it is found by going back from the
column, capped at the end of the line, to a byte that starts a character.

Main statement: clamping gives the greatest place below, so it keeps the order of positions and
leaves places alone, and the ends of a clamped range are places in order (`clamp_isGreatest`).
-/

namespace ScopeTracker

namespace Text

variable {t : Text} {column other : Nat}

/-! ## The greatest boundary below a column -/

theorem floorColumn_le (t : Text) (column : Nat) : t.floorColumn column ≤ column := by
  unfold floorColumn takeColumn
  induction t generalizing column with
  | nil => exact Nat.zero_le column
  | cons c rest ih =>
    rw [splitAtColumn]
    split
    · have hrest := ih (column - c.utf8Size)
      simp only [byteLength]
      omega
    · exact Nat.zero_le column

theorem floorColumn_eq_self (h : t.isBoundary column) : t.floorColumn column = column :=
  isBoundary_iff.mp h

theorem floorColumn_mono (t : Text) (h : column ≤ other) :
    t.floorColumn column ≤ t.floorColumn other := by
  unfold floorColumn takeColumn
  induction t generalizing column other with
  | nil => exact Nat.le_refl 0
  | cons c rest ih =>
    rw [splitAtColumn, splitAtColumn]
    by_cases hc : c.utf8Size ≤ column
    · have hrest := ih (show column - c.utf8Size ≤ other - c.utf8Size by omega)
      simp only [if_pos hc, if_pos (Nat.le_trans hc h), byteLength]
      omega
    · rw [if_neg hc]
      exact Nat.zero_le _

theorem isGreatest_floorColumn (t : Text) (column : Nat) :
    IsGreatest {boundary | t.isBoundary boundary ∧ boundary ≤ column} (t.floorColumn column) := by
  refine ⟨⟨isBoundary_floorColumn t column, floorColumn_le t column⟩, ?_⟩
  rintro boundary ⟨hboundary, hle⟩
  calc boundary = t.floorColumn boundary := (floorColumn_eq_self hboundary).symm
    _ ≤ t.floorColumn column := floorColumn_mono t hle

/-! ## Going back over the bytes -/

/-- Whether a character starts at an index of the bytes of a text, or the text ends there. -/
def isCharStart (bytes : List UInt8) (index : Nat) : Bool :=
  index = bytes.length || bytes[index]?.any fun byte => byte.IsUTF8FirstByte

/-- Goes back byte by byte to an index at which a character starts. There is nothing to go back to
from the first byte. -/
def scanBack (bytes : List UInt8) : Nat → Option Nat
  | 0 => if isCharStart bytes 0 then some 0 else none
  | index + 1 => if isCharStart bytes (index + 1) then some (index + 1) else scanBack bytes index

theorem length_utf8 (t : Text) : t.utf8.length = t.byteLength := by
  induction t with
  | nil => rfl
  | cons c rest ih =>
    rw [utf8_cons, List.length_append, String.length_utf8EncodeChar, ih, byteLength]

/-- Of the bytes of a character only the first one starts it. -/
theorem isCharStart_cons_of_lt {c : Char} {index : Nat} (rest : Text) (h : index < c.utf8Size) :
    isCharStart (utf8 (c :: rest)) index = decide (index = 0) := by
  have hindex : index < (String.utf8EncodeChar c).length := by
    rw [String.length_utf8EncodeChar]
    exact h
  have hne : index ≠ (utf8 (c :: rest)).length := by
    rw [length_utf8, byteLength]
    omega
  rw [isCharStart, decide_eq_false hne, Bool.false_or, utf8_cons, List.getElem?_append_left hindex,
    List.getElem?_eq_getElem hindex, Option.any_some]
  simp only [UInt8.isUTF8FirstByte_getElem_utf8EncodeChar]

theorem isCharStart_cons_add (c : Char) (rest : Text) (index : Nat) :
    isCharStart (utf8 (c :: rest)) (c.utf8Size + index) = isCharStart rest.utf8 index := by
  have hlength := String.length_utf8EncodeChar c
  rw [isCharStart, isCharStart, utf8_cons, List.getElem?_append_right (by omega), hlength,
    Nat.add_sub_cancel_left, List.length_append, hlength]
  simp only [Nat.add_left_cancel_iff]

/-- The boundaries of a text are the indices of its bytes at which a character starts. -/
theorem isCharStart_utf8 (t : Text) (column : Nat) :
    isCharStart t.utf8 column = t.isBoundary column := by
  unfold isBoundary floorColumn takeColumn
  induction t generalizing column with
  | nil => simp [isCharStart, utf8, splitAtColumn, byteLength, eq_comm]
  | cons c rest ih =>
    have hpos := Char.utf8Size_pos c
    rw [splitAtColumn]
    by_cases h : c.utf8Size ≤ column
    · obtain ⟨further, rfl⟩ := Nat.exists_eq_add_of_le h
      rw [isCharStart_cons_add, ih, if_pos h, Nat.add_sub_cancel_left]
      simp only [byteLength, Nat.add_left_cancel_iff]
    · rw [isCharStart_cons_of_lt rest (by omega), if_neg h]
      simp only [byteLength, eq_comm]

/-- Going back ends at the greatest index at which a character starts, if one starts at the first
byte. -/
theorem exists_scanBack {bytes : List UInt8} (hfirst : isCharStart bytes 0) (index : Nat) :
    ∃ found, scanBack bytes index = some found ∧
      IsGreatest {start | isCharStart bytes start ∧ start ≤ index} found := by
  induction index with
  | zero =>
    refine ⟨0, by rw [scanBack, if_pos hfirst], ⟨hfirst, Nat.le_refl 0⟩, ?_⟩
    rintro start ⟨-, hle⟩
    exact hle
  | succ index ih =>
    by_cases h : isCharStart bytes (index + 1)
    · refine ⟨index + 1, by rw [scanBack, if_pos h], ⟨h, Nat.le_refl _⟩, ?_⟩
      rintro start ⟨-, hle⟩
      exact hle
    · obtain ⟨found, hfound, ⟨hstart, hle⟩, hgreatest⟩ := ih
      refine ⟨found, by rw [scanBack, if_neg h, hfound], ⟨hstart, Nat.le_succ_of_le hle⟩, ?_⟩
      rintro start ⟨hstart', hle'⟩
      rcases Nat.le_succ_iff.mp hle' with hbelow | rfl
      · exact hgreatest ⟨hstart', hbelow⟩
      · exact absurd hstart' h

/-- From any column, capped at the end of the line, going back over the bytes ends at the boundary
of the column. -/
theorem scanBack_utf8 (t : Text) (column : Nat) :
    scanBack t.utf8 (min column t.byteLength) = some (t.floorColumn column) := by
  have hfirst : isCharStart t.utf8 0 := by
    rw [isCharStart_utf8]
    exact isBoundary_append [] t
  obtain ⟨found, hfound, hgreatest⟩ := exists_scanBack hfirst (min column t.byteLength)
  have hsame : {start | isCharStart t.utf8 start ∧ start ≤ min column t.byteLength} =
      {boundary | t.isBoundary boundary ∧ boundary ≤ column} := by
    ext boundary
    simp only [Set.mem_ofPred_eq, isCharStart_utf8, Nat.le_min]
    exact ⟨fun h => ⟨h.1, h.2.1⟩, fun h => ⟨h.1, h.2, le_byteLength_of_isBoundary h.1⟩⟩
  rw [hsame] at hgreatest
  rw [hfound, hgreatest.unique (isGreatest_floorColumn t column)]

/-- No character is longer than four bytes, so there are at most three to go back over. -/
theorem le_floorColumn_add_three (t : Text) (column : Nat) :
    min column t.byteLength ≤ t.floorColumn column + 3 := by
  unfold floorColumn takeColumn
  induction t generalizing column with
  | nil => simp [byteLength]
  | cons c rest ih =>
    have hfour := Char.utf8Size_le_four c
    rw [splitAtColumn]
    split
    · have hrest := ih (column - c.utf8Size)
      simp only [byteLength]
      omega
    · omega

end Text

namespace Buffer

variable {buffer : Buffer} {position place other : Position}

/-! ## The greatest place below a position -/

theorem clamp_le (buffer : Buffer) (position : Position) : buffer.clamp position ≤ position := by
  unfold clamp
  split
  · rename_i hpast
    exact Position.le_def.mpr (.inl hpast)
  · exact Position.le_def.mpr (.inr ⟨rfl, Text.floorColumn_le _ _⟩)

theorem le_endPosition (h : buffer.HasPlace place) : place ≤ buffer.endPosition := by
  obtain ⟨line, column⟩ := place
  have hlast := buffer.lastLine_add_one
  have hline : line < buffer.lineCount := h.line_lt
  have hcolumn := Text.le_byteLength_of_isBoundary h.boundary
  rw [Position.le_def, endPosition]
  by_cases heq : line = buffer.lastLine
  · subst heq
    exact .inr ⟨rfl, hcolumn⟩
  · exact .inl (by simp only; omega)

theorem le_clamp (h : buffer.HasPlace place) (hle : place ≤ position) :
    place ≤ buffer.clamp position := by
  unfold clamp
  split
  · exact le_endPosition h
  · rcases Position.le_def.mp hle with hline | ⟨hline, hcolumn⟩
    · exact Position.le_def.mpr (.inl hline)
    · have hfloor := (Text.isGreatest_floorColumn _ _).2 ⟨h.boundary, hcolumn⟩
      rw [hline] at hfloor
      exact Position.le_def.mpr (.inr ⟨hline, hfloor⟩)

theorem clamp_mono (buffer : Buffer) (h : position ≤ other) :
    buffer.clamp position ≤ buffer.clamp other :=
  le_clamp (buffer.hasPlace_clamp position) (Position.le_trans (buffer.clamp_le position) h)

/-- The ends of a range in order stay in order, so they are clamped one by one. -/
theorem clampRange_of_le {range : Range} (h : range.start ≤ range.stop) :
    buffer.clampRange range = ⟨buffer.clamp range.start, buffer.clamp range.stop⟩ := by
  rw [clampRange, Position.max_eq_left_of_le (buffer.clamp_mono h)]

/-- A place is where a character of a line starts or the line ends. -/
theorem hasPlace_iff : buffer.HasPlace place ↔
    place.line < buffer.lineCount ∧ place.column ≤ (buffer.line place.line).byteLength ∧
      Text.isCharStart (buffer.line place.line).utf8 place.column := by
  rw [Text.isCharStart_utf8]
  exact ⟨fun h => ⟨h.line_lt, Text.le_byteLength_of_isBoundary h.boundary, h.boundary⟩,
    fun h => ⟨h.1, h.2.2⟩⟩

/-- Clamping a position. The places of the document are the boundaries of its lines, told by the
bytes of the lines. Of the places that do not lie behind a position, clamping gives the greatest. On
an existing line, going back over the bytes from the capped column finds it in at most three steps.
So clamping twice is clamping once, the order of positions is kept, and a place stays. A clamped
range has two places in order as its ends, which are the clamped ends if those were in order;
clamping it again changes nothing, and a range of the document stays. -/
theorem clamp_isGreatest (buffer : Buffer) :
    (∀ place, buffer.HasPlace place ↔
      place.line < buffer.lineCount ∧ place.column ≤ (buffer.line place.line).byteLength ∧
        Text.isCharStart (buffer.line place.line).utf8 place.column) ∧
    (∀ position, IsGreatest {place | buffer.HasPlace place ∧ place ≤ position}
      (buffer.clamp position)) ∧
    (∀ position, position.line < buffer.lineCount →
      let line := buffer.line position.line
      let capped := min position.column line.byteLength
      Text.scanBack line.utf8 capped = some (buffer.clamp position).column ∧
        capped ≤ (buffer.clamp position).column + 3) ∧
    (∀ position, buffer.clamp (buffer.clamp position) = buffer.clamp position) ∧
    (∀ position other, position ≤ other → buffer.clamp position ≤ buffer.clamp other) ∧
    (∀ place, buffer.HasPlace place → buffer.clamp place = place) ∧
    ∀ range, buffer.Fits (buffer.clampRange range) ∧
      (range.start ≤ range.stop →
        buffer.clampRange range = ⟨buffer.clamp range.start, buffer.clamp range.stop⟩) ∧
      buffer.clampRange (buffer.clampRange range) = buffer.clampRange range ∧
      (buffer.Fits range → buffer.clampRange range = range) := by
  refine ⟨fun _ => hasPlace_iff, fun position => ⟨⟨buffer.hasPlace_clamp position,
    buffer.clamp_le position⟩, ?_⟩, fun position hline => ?_, fun position => ?_,
    fun _ _ => buffer.clamp_mono, fun _ => clamp_of_hasPlace, fun range => ?_⟩
  · rintro place ⟨hplace, hle⟩
    exact le_clamp hplace hle
  · rw [clamp_of_lt _ hline]
    exact ⟨Text.scanBack_utf8 _ _, Text.le_floorColumn_add_three _ _⟩
  · exact clamp_of_hasPlace (buffer.hasPlace_clamp position)
  · have hfits := buffer.fits_clampRange range
    exact ⟨hfits, clampRange_of_le, clampRange_of_fits hfits, clampRange_of_fits⟩

/-- The column lies inside a character of four bytes, and the end of the range past the document. -/
theorem clamp_isGreatest_inside :
    let buffer : Buffer := .ofText ['a', '𝄞', '\n', 'b']
    let place : Position := ⟨0, 1⟩
    (buffer.clamp ⟨0, 4⟩ = place ∧
      Text.scanBack (buffer.line 0).utf8 4 = some 1 ∧ buffer.clamp place = place) ∧
      buffer.clamp ⟨0, 4⟩ ≤ buffer.clamp ⟨0, 5⟩ ∧
      buffer.clampRange ⟨⟨0, 4⟩, ⟨7, 0⟩⟩ = ⟨place, ⟨1, 1⟩⟩ ∧
      buffer.clampRange ⟨place, ⟨1, 1⟩⟩ = ⟨place, ⟨1, 1⟩⟩ := by
  intro buffer place
  obtain ⟨-, hgreatest, hscan, -, hmono, hplaces, hranges⟩ := buffer.clamp_isGreatest
  have hplace : buffer.HasPlace place := by decide
  have hclamp : buffer.clamp ⟨0, 4⟩ = place := by decide
  refine ⟨⟨hclamp, ?_, hplaces place hplace⟩, hmono _ _ (by decide), ?_,
    (hranges _).2.2.2 (by decide)⟩
  · have hfound := (hscan ⟨0, 4⟩ (by decide)).1
    rw [hclamp] at hfound
    exact hfound
  · rw [(hranges ⟨⟨0, 4⟩, ⟨7, 0⟩⟩).2.1 (by decide), hclamp]
    decide

end Buffer

end ScopeTracker
