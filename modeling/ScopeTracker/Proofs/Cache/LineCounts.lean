import ScopeTracker.Cache.Update
import ScopeTracker.Proofs.Text.FlatText

/-!
# Line counts

Whether an edit moves the lines below it is told without building any lines: the breaks of its text
are counted on the bytes, and those that it takes out by the lines of its range. The lines
themselves come from another scan, over characters.

Main statement: the two scans find the same breaks, so an edit within the document passes for one
that keeps the line count exactly if it does (`breaks_agree`).
-/

namespace ScopeTracker

namespace Buffer

variable {buffer : Buffer} {edit : Edit}

/-- An edit within the document changes the line count by the breaks that it puts in and takes
out. -/
theorem lineCount_applyEdit_of_inside (hstart : edit.range.start.line < buffer.lineCount)
    (hstop : edit.range.stop.line < buffer.lineCount) :
    (buffer.applyEdit edit).lineCount + edit.removedBreaks =
      buffer.lineCount + edit.insertedBreaks := by
  have hcount := buffer.lineCount_applyEdit edit
  have hfirst := buffer.line_start_clampRange edit.range
  have hend := buffer.line_stop_clampRange edit.range
  have hlast := buffer.lastLine_add_one
  rw [Edit.removedBreaks]
  omega

end Buffer

namespace LineCache

/-- The breaks that are counted and the lines that are cut. A text has a line more than it has
breaks, and no line has a character of a break; joined with feeds, the lines make the text with a
feed in place of each break, and are found in it again. The line count changes with an edit within
the document by the difference of the breaks that it puts in and those that it takes out. So an edit
is taken to be contained exactly if it keeps the line count and the boundary at its end stays as it
was. -/
theorem breaks_agree :
    (∀ t : Text, t.splitLines.length = t.countLineBreaks + 1 ∧
      (∀ line ∈ t.splitLines, '\r' ∉ line ∧ '\n' ∉ line) ∧
      (Text.joinLines t.splitLines = t.withFeeds ∧ '\r' ∉ t.withFeeds ∧
        t.withFeeds.count '\n' = t.countLineBreaks) ∧
      (Text.joinLines t.splitLines).splitLines = t.splitLines) ∧
    ∀ (buffer : Buffer) (edit : Edit), edit.range.start.line < buffer.lineCount →
      edit.range.stop.line < buffer.lineCount →
      let edited := buffer.applyEdit edit
      (edited.lineCount : Int) - buffer.lineCount = edit.insertedBreaks - edit.removedBreaks ∧
      (edit.insertedBreaks = edit.removedBreaks ↔ edited.lineCount = buffer.lineCount) ∧
      ∀ {σ : Type} [BEq σ] (before after : LineCache σ), isContained before after edit ↔
        edited.lineCount = buffer.lineCount ∧
          (before.boundary edit.range.stop.line).isStable
            (after.boundary edit.range.stop.line) := by
  refine ⟨fun t => ⟨t.length_splitLines, fun line hline => ?_,
    ⟨t.joinLines_splitLines, t.return_not_mem_withFeeds, t.count_feed_withFeeds⟩,
    Text.splitLines_joinLines t.splitLines_ne_nil t.breakFree_of_mem_splitLines⟩,
    fun buffer edit hstart hstop => ?_⟩
  · have hfree := t.breakFree_of_mem_splitLines line hline
    exact ⟨fun h => absurd (hfree _ h) (by decide), fun h => absurd (hfree _ h) (by decide)⟩
  · intro edited
    have hcount : edited.lineCount + edit.removedBreaks = buffer.lineCount + edit.insertedBreaks :=
      Buffer.lineCount_applyEdit_of_inside hstart hstop
    have hbreaks : edit.insertedBreaks = edit.removedBreaks ↔
        edited.lineCount = buffer.lineCount := by
      omega
    refine ⟨by omega, hbreaks, fun before after => ?_⟩
    rw [isContained, Bool.and_eq_true, beq_iff_eq, hbreaks]

/-- All three kinds of breaks, a return right in front of a longer break, and an edit that takes out
and puts in breaks of different kinds. -/
theorem breaks_agree_mixed :
    let t : Text := ['a', '\r', '\n', 'é', '\r', '\r', '\n', 'b', '\n']
    let buffer : Buffer := .ofText t
    let edit : Edit := ⟨⟨⟨0, 1⟩, ⟨2, 0⟩⟩, ['x', '\r', '\n', 'y', '\r']⟩
    (t.countLineBreaks = 4 ∧ t.splitLines.length = 5 ∧ t.withFeeds.count '\n' = 4) ∧
      (edit.range.start.line < buffer.lineCount ∧ edit.range.stop.line < buffer.lineCount) ∧
      edit.insertedBreaks = 2 ∧ (buffer.applyEdit edit).lineCount = buffer.lineCount := by
  intro t buffer edit
  obtain ⟨htexts, hedits⟩ := breaks_agree
  obtain ⟨hlines, -, ⟨-, -, hfeeds⟩, -⟩ := htexts t
  have hbreaks : t.countLineBreaks = 4 := by decide
  have hstart : edit.range.start.line < buffer.lineCount := by decide
  have hstop : edit.range.stop.line < buffer.lineCount := by decide
  obtain ⟨-, hkept, -⟩ := hedits buffer edit hstart hstop
  rw [hbreaks] at hlines hfeeds
  exact ⟨⟨hbreaks, hlines, hfeeds⟩, ⟨hstart, hstop⟩, by decide, hkept.mp (by decide)⟩

end LineCache

end ScopeTracker
