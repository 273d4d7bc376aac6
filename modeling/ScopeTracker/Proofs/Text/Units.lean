import ScopeTracker.Proofs.Text.Cuts

/-!
# Places in UTF-16

A place of the document is sent to an editor in UTF-16 code units, and comes back as the same place.
No line has more units than bytes. So where lines and bytes can be counted with 32 bits, the numbers
that are sent have no more.

Main statements: a place that is sent comes back (`positionOfUtf16_positionToUtf16`), and so does a
range of which only 32 bits a number are sent (`rangeOfUtf16_toWords`).
-/

namespace ScopeTracker

namespace Text

theorem charUnits_le_utf8Size (c : Char) : charUnits c ≤ c.utf8Size := by
  have hpos := c.utf8Size_pos
  unfold charUnits
  split
  · exact hpos
  · rename_i hlarge
    have htwo : ¬ c.utf8Size = 1 := by
      intro hone
      rw [Char.utf8Size_eq_one_iff, UInt32.le_iff_toNat_le] at hone
      have hsmall : c.toNat ≤ 0x7F := hone
      omega
    omega

theorem unitLength_le_byteLength (t : Text) : t.unitLength ≤ t.byteLength := by
  induction t with
  | nil => exact Nat.le_refl 0
  | cons c rest ih => exact Nat.add_le_add (charUnits_le_utf8Size c) ih

end Text

/-- The number of values of a 32-bit number. -/
def wordCount : Nat := 4294967296

/-- The position as 32-bit numbers. Larger ones lose their upper bits. -/
def Utf16Position.toWords (position : Utf16Position) : Utf16Position :=
  ⟨position.line % wordCount, position.character % wordCount⟩

/-- The range as 32-bit numbers. -/
def Utf16Range.toWords (range : Utf16Range) : Utf16Range :=
  ⟨range.start.toWords, range.stop.toWords⟩

namespace Buffer

variable {buffer : Buffer} {position : Position}

/-- A document whose lines, and the bytes of each line, are few enough for 32-bit numbers. -/
structure FitsWords (buffer : Buffer) : Prop where
  lineCount : buffer.lineCount < wordCount
  byteLength : ∀ line ∈ buffer.lines, line.byteLength < wordCount

theorem FitsWords.byteLength_line (h : buffer.FitsWords) (index : Nat) :
    (buffer.line index).byteLength < wordCount := by
  rw [line, List.getD_eq_getElem?_getD]
  cases hline : buffer.lines[index]? with
  | none => exact Nat.zero_lt_succ _
  | some line => exact h.byteLength line (List.mem_of_getElem? hline)

theorem positionToUtf16_of_hasPlace (h : buffer.HasPlace position) :
    buffer.positionToUtf16 position =
      ⟨position.line, ((buffer.line position.line).takeColumn position.column).unitLength⟩ := by
  rw [positionToUtf16, clamp_of_hasPlace h]

theorem positionOfUtf16_positionToUtf16 (h : buffer.HasPlace position) :
    buffer.positionOfUtf16 (buffer.positionToUtf16 position) = position := by
  have hlast := buffer.lastLine_add_one
  have hline := h.line_lt
  have hcut := Text.takeUnits_append ((buffer.line position.line).takeColumn position.column)
    ((buffer.line position.line).dropColumn position.column)
  rw [Text.takeColumn_append_dropColumn] at hcut
  rw [positionToUtf16_of_hasPlace h, positionOfUtf16, if_neg (by simp only; omega)]
  simp only [hcut, Text.isBoundary_iff.mp h.boundary]

theorem toWords_positionToUtf16 (hfits : buffer.FitsWords) (h : buffer.HasPlace position) :
    (buffer.positionToUtf16 position).toWords = buffer.positionToUtf16 position := by
  have hlines := hfits.lineCount
  have hline := h.line_lt
  have hunits := Text.unitLength_le_byteLength
    ((buffer.line position.line).takeColumn position.column)
  rw [Text.isBoundary_iff.mp h.boundary] at hunits
  have hcolumn := Text.le_byteLength_of_isBoundary h.boundary
  have hbytes := hfits.byteLength_line position.line
  rw [positionToUtf16_of_hasPlace h, Utf16Position.toWords]
  congr 1
  · exact Nat.mod_eq_of_lt (Nat.lt_trans hline hlines)
  · exact Nat.mod_eq_of_lt (Nat.lt_of_le_of_lt (Nat.le_trans hunits hcolumn) hbytes)

/-- A range between two places comes back from 32-bit numbers as it was. -/
theorem rangeOfUtf16_toWords (hfits : buffer.FitsWords) {range : Range}
    (hstart : buffer.HasPlace range.start) (hstop : buffer.HasPlace range.stop) :
    buffer.rangeOfUtf16 (buffer.rangeToUtf16 range).toWords = range := by
  simp only [rangeOfUtf16, rangeToUtf16, Utf16Range.toWords, toWords_positionToUtf16 hfits hstart,
    toWords_positionToUtf16 hfits hstop, positionOfUtf16_positionToUtf16 hstart,
    positionOfUtf16_positionToUtf16 hstop]

end Buffer

end ScopeTracker
