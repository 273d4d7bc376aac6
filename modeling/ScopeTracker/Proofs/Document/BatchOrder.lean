import Mathlib.Data.List.Pairwise
import ScopeTracker.Document
import ScopeTracker.Proofs.Cache.Current
import ScopeTracker.Proofs.Text.Cuts

/-!
# The order of a batch

A batch may be handed over in any order, and is carried out from the last start to the first. If no
two of its edits start at one place, this is one order for all batches with the same edits. Edits
that start at one place are carried out as they were handed over, and there the order matters: a
text that is put in first is what the next edit finds in place of its own range.

Main statements: edits that do not overlap and start apart replace their ranges all at once, in
whatever order they are handed over (`onEdits_simultaneous`); with a text put in at the start of a
range that is replaced, this holds if the range comes first, and does not if it comes last
(`applyEdits_at_one_start`).
-/

namespace ScopeTracker

theorem Text.eq_nil_of_withFeeds {t : Text} (h : t.withFeeds = []) : t = [] := by
  revert h
  fun_cases withFeeds t with
  | case1 => exact fun _ => rfl
  | case2 | case3 => exact nofun

namespace Edit

variable {a b : Edit} {edits others : List Edit}

/-- Two edits that do not start at one place, and whose ranges do not overlap. They may touch. -/
structure Apart (a b : Edit) : Prop where
  starts : a.range.start ≠ b.range.start
  ranges : a.range.stop ≤ b.range.start ∨ b.range.stop ≤ a.range.start

instance (a b : Edit) : Decidable (Apart a b) :=
  decidable_of_iff (a.range.start ≠ b.range.start ∧
      (a.range.stop ≤ b.range.start ∨ b.range.stop ≤ a.range.start))
    ⟨fun h => ⟨h.1, h.2⟩, fun h => ⟨h.starts, h.ranges⟩⟩

theorem Apart.symm (h : Apart a b) : Apart b a := ⟨h.starts.symm, h.ranges.symm⟩

/-- Of two edits that are apart the one with the lower start lies below the whole other range. -/
theorem Apart.below (h : Apart a b) (hnot : notAbove a b)
    (hordered : a.range.start ≤ a.range.stop) :
    b.range.start < a.range.start ∧ b.range.stop ≤ a.range.start := by
  have hle : b.range.start ≤ a.range.start := of_decide_eq_true hnot
  have hlt := Position.lt_of_le_of_ne hle h.starts.symm
  refine ⟨hlt, h.ranges.resolve_left fun hstop => ?_⟩
  have hback := Position.le_trans hordered hstop
  simp only [Position.le_def, Position.lt_def] at hback hlt
  omega

theorem sortDescending_perm (edits : List Edit) : (sortDescending edits).Perm edits :=
  List.mergeSort_perm _ _

theorem below_sortDescending (hordered : ∀ edit ∈ edits, edit.range.start ≤ edit.range.stop)
    (hapart : edits.Pairwise Apart) :
    (sortDescending edits).Pairwise fun lower upper =>
      upper.range.start < lower.range.start ∧ upper.range.stop ≤ lower.range.start := by
  have hsorted : (sortDescending edits).Pairwise Apart :=
    hapart.perm (sortDescending_perm edits).symm Apart.symm
  refine (hsorted.and (descending_sortDescending edits)).imp_of_mem fun hmem _ h => ?_
  exact h.1.below h.2 (hordered _ (mem_sortDescending.mp hmem))

/-- Edits with different starts are sorted in one way. -/
theorem sortDescending_eq_of_perm (h : others.Perm edits)
    (hstarts : edits.Pairwise fun a b => a.range.start ≠ b.range.start) :
    sortDescending others = sortDescending edits := by
  have hstrict : ∀ {list : List Edit}, list.Perm edits →
      (sortDescending list).Pairwise fun a b => b.range.start < a.range.start := by
    intro list hlist
    have hdiffer := hstarts.perm ((sortDescending_perm list).trans hlist).symm Ne.symm
    refine (hdiffer.and (descending_sortDescending list)).imp fun hab => ?_
    exact Position.lt_of_le_of_ne (of_decide_eq_true hab.2) hab.1.symm
  have hsame : (sortDescending others).Perm (sortDescending edits) :=
    (sortDescending_perm others).trans (h.trans (sortDescending_perm edits).symm)
  refine hsame.eq_of_pairwise (fun a b _ _ hab hba => ?_) (hstrict h) (hstrict (.refl edits))
  simp only [Position.lt_def] at hab hba
  omega

end Edit

namespace Buffer

variable {buffer : Buffer} {edits : List Edit} {start stop : Position}

/-! ## Edits that start apart -/

/-- The cuts of edits that start apart start at different offsets. -/
theorem pairwise_cut (hfits : ∀ edit ∈ edits, buffer.Fits edit.range)
    (hapart : edits.Pairwise Edit.Apart) :
    (edits.map buffer.cut).Pairwise (·.start ≠ ·.start) := by
  rw [List.pairwise_map]
  refine hapart.imp_of_mem fun {a b} ha hb h => ?_
  rcases Position.le_total a.range.start b.range.start with hle | hle
  · exact Nat.ne_of_lt (offset_lt (hfits a ha).start (Position.lt_of_le_of_ne hle h.starts))
  · exact Nat.ne_of_gt (offset_lt (hfits b hb).start (Position.lt_of_le_of_ne hle h.starts.symm))

theorem text_applyEdits (hfits : ∀ edit ∈ edits, buffer.Fits edit.range)
    (hapart : edits.Pairwise Edit.Apart) :
    (buffer.applyEdits edits).text = buffer.text.replaceAll (edits.map buffer.cut) := by
  have hbelow := Edit.below_sortDescending (fun edit hedit => (hfits edit hedit).ordered) hapart
  rw [applyEdits, text_foldl_applyEdit (Edit.forall_mem_sortDescending.mpr hfits) hbelow]
  exact (Text.replaceAll_perm ((Edit.sortDescending_perm edits).symm.map _)
    (pairwise_cut hfits hapart) _).symm

/-! ## Edits that start at one place -/

/-- An edit is carried out on the clamped range. -/
theorem applyEdit_clampRange (buffer : Buffer) (range : Range) (put : Text) :
    buffer.applyEdit ⟨buffer.clampRange range, put⟩ = buffer.applyEdit ⟨range, put⟩ := by
  simp only [applyEdit, clampRange_of_fits (buffer.fits_clampRange range)]

/-- Edits that start at one place are carried out as they were handed over. -/
theorem applyEdits_pair {a b : Edit} (h : a.range.start = b.range.start) :
    buffer.applyEdits [a, b] = (buffer.applyEdit a).applyEdit b := by
  have hdescending : Edit.Descending [a, b] := by
    simp only [Edit.Descending, List.pairwise_pair, Edit.notAbove, h, decide_eq_true_eq]
    exact Position.le_refl _
  rw [applyEdits_of_descending hdescending]
  rfl

/-- A text that is put in at a place goes between the text before it and the text after it. -/
theorem text_insert {before after : Text} (h : buffer.HasPlace start)
    (htext : buffer.text = before ++ after) (hstart : before.byteLength = buffer.offset start)
    (inserted : Text) :
    (buffer.applyEdit (.insert start inserted)).text = before ++ (inserted.withFeeds ++ after) := by
  have hfits : buffer.Fits (Edit.insert start inserted).range := ⟨h, h, Position.le_refl start⟩
  have htext' : buffer.text = before ++ ([] ++ after) := htext
  exact text_applyEdit_of_fits hfits htext' hstart rfl

/-- What is replaced after a text was put in at the start of the range begins with that text. How
much of it is taken out, and of what follows it, depends on its breaks. -/
theorem exists_text_insert_replace {before after : Text} (h : buffer.HasPlace start)
    (htext : buffer.text = before ++ after) (hstart : before.byteLength = buffer.offset start)
    (stop : Position) (inserted : Text) :
    ∃ kept, ∀ put,
      ((buffer.applyEdit (.insert start inserted)).applyEdit ⟨⟨start, stop⟩, put⟩).text =
        before ++ (put.withFeeds ++ kept) := by
  have hempty : buffer.Fits (Edit.insert start inserted).range := ⟨h, h, Position.le_refl start⟩
  obtain ⟨hplace, hoffset⟩ := h.applyEdit hempty (Position.le_refl start)
  have hinserted := text_insert h htext hstart inserted
  generalize buffer.applyEdit (.insert start inserted) = edited at hplace hoffset hinserted ⊢
  have hrange := edited.fits_clampRange ⟨start, stop⟩
  have hclamp : (edited.clampRange ⟨start, stop⟩).start = start := clamp_of_hasPlace hplace
  obtain ⟨before', removed, kept, hedited, hbefore, hremoved⟩ := hrange.exists_text_eq
  -- the text before the start is as long as it was, so it is the same
  have hsame : before = before' := by
    have hlength : before'.byteLength = before.byteLength := by
      rw [hbefore, hclamp, hoffset, hstart]
    have htake := Text.takeColumn_append before' (removed ++ kept)
    rwa [← hedited, hinserted, hlength, Text.takeColumn_append] at htake
  refine ⟨kept, fun put => ?_⟩
  have hput : edited.Fits (Edit.mk (edited.clampRange ⟨start, stop⟩) put).range := hrange
  rw [← applyEdit_clampRange, hsame]
  exact text_applyEdit_of_fits hput hedited hbefore hremoved

/-- A replacement that finds the new text in its range does not leave it in front of its own text,
whatever that is, unless nothing was put in. -/
theorem eq_nil_of_text_insert_replace {before after inserted below : Text}
    (h : buffer.HasPlace start) (htext : buffer.text = before ++ after)
    (hstart : before.byteLength = buffer.offset start)
    (hall : ∀ put,
      ((buffer.applyEdit (.insert start inserted)).applyEdit ⟨⟨start, stop⟩, put⟩).text =
        before ++ (inserted.withFeeds ++ (put.withFeeds ++ below))) :
    inserted = [] := by
  obtain ⟨kept, hkept⟩ := exists_text_insert_replace h htext hstart stop inserted
  have hfirst : ∀ put : Text,
      put.withFeeds ++ kept = inserted.withFeeds ++ (put.withFeeds ++ below) :=
    fun put => List.append_cancel_left ((hkept put).symm.trans (hall put))
  -- two replacements that begin with different characters cannot both begin with the new text
  have ha := hfirst ['a']
  have hb := hfirst ['b']
  cases hinserted : inserted.withFeeds with
  | nil => exact Text.eq_nil_of_withFeeds hinserted
  | cons c rest =>
    rw [hinserted] at ha hb
    have hca : 'a' = c := (List.cons.inj ha).1
    have hcb : 'b' = c := (List.cons.inj hb).1
    exact absurd (hca.trans hcb.symm) (by decide)

/-- A text is put in at the start of a range that is replaced. Carried out after the replacement, it
goes in front of what the range is replaced by, and nothing else changes. Carried out before it, it
is taken for the text of the range, so that the two orders give the same for all replacements only
if nothing is put in. -/
theorem applyEdits_at_one_start (hstart : buffer.HasPlace start) (hstop : buffer.HasPlace stop)
    (hlt : start < stop) (inserted : Text) :
    let insertion := Edit.insert start inserted
    let replacement (put : Text) : Edit := ⟨⟨start, stop⟩, put⟩
    let expected (put : Text) : Text := buffer.text.takeColumn (buffer.offset start) ++
      (inserted.withFeeds ++ (put.withFeeds ++ buffer.text.dropColumn (buffer.offset stop)))
    (∀ put, (buffer.applyEdits [replacement put, insertion]).text = expected put) ∧
      ((∀ put, (buffer.applyEdits [insertion, replacement put]).text = expected put) ↔
        inserted = []) := by
  intro insertion replacement expected
  have hfits : ∀ put, buffer.Fits (replacement put).range :=
    fun _ => ⟨hstart, hstop, Position.le_of_lt hlt⟩
  obtain ⟨before, removed, after, htext, hbefore, hremoved⟩ := (hfits []).exists_text_eq
  have htake : buffer.text.takeColumn (buffer.offset start) = before := by
    rw [← hbefore, htext, Text.takeColumn_append]
  have hend : (before ++ removed).byteLength = buffer.offset stop := by
    rw [Text.byteLength_append, hbefore, hremoved]
  have hdrop : buffer.text.dropColumn (buffer.offset stop) = after := by
    rw [← hend, htext, ← List.append_assoc, Text.dropColumn_append]
  have hreplaced : ∀ put, (buffer.applyEdit (replacement put)).text =
      before ++ (put.withFeeds ++ after) :=
    fun put => text_applyEdit_of_fits (hfits put) htext hbefore hremoved
  have hlast : ∀ put, buffer.applyEdits [replacement put, insertion] =
      (buffer.applyEdit (replacement put)).applyEdit insertion := fun _ => applyEdits_pair rfl
  have hfirst : ∀ put, buffer.applyEdits [insertion, replacement put] =
      (buffer.applyEdit insertion).applyEdit (replacement put) := fun _ => applyEdits_pair rfl
  simp only [expected, htake, hdrop, hlast, hfirst]
  refine ⟨fun put => ?_, fun hall => ?_, ?_⟩
  · obtain ⟨hplace, hoffset⟩ := hstart.applyEdit (hfits put) (Position.le_refl start)
    exact text_insert hplace (hreplaced put) (hoffset.symm ▸ hbefore) inserted
  · exact eq_nil_of_text_insert_replace hstart htext hbefore hall
  · rintro rfl put
    have hplace : buffer.clampRange insertion.range = .empty start :=
      clampRange_of_fits ⟨hstart, hstart, Position.le_refl start⟩
    rw [applyEdit_of_empty hplace rfl]
    exact hreplaced put

/-- The text that is put in first is replaced in place of the range. -/
theorem insertion_lost :
    let buffer : Buffer := .ofText ['a', 'b', 'c']
    let insertion : Edit := .insert ⟨0, 0⟩ ['x']
    let replacement : Edit := ⟨⟨⟨0, 0⟩, ⟨0, 1⟩⟩, ['u']⟩
    (buffer.applyEdits [replacement, insertion]).text = ['x', 'u', 'b', 'c'] ∧
      (buffer.applyEdits [insertion, replacement]).text = ['u', 'a', 'b', 'c'] ∧
      ¬ ∀ put, (buffer.applyEdits [insertion, ⟨⟨⟨0, 0⟩, ⟨0, 1⟩⟩, put⟩]).text =
        'x' :: (put.withFeeds ++ ['b', 'c']) := by
  intro buffer insertion replacement
  have hstart : buffer.HasPlace ⟨0, 0⟩ := by decide
  have hstop : buffer.HasPlace ⟨0, 1⟩ := by decide
  obtain ⟨hlast, hfirst⟩ := applyEdits_at_one_start hstart hstop (by decide) ['x']
  refine ⟨(hlast ['u']).trans (by decide), ?_, fun hall => ?_⟩
  · rw [applyEdits_pair (a := insertion) (b := replacement) rfl]
    decide
  · exact absurd (hfirst.mp hall) (by decide)

end Buffer

namespace Document

/-- Edits whose ranges are ranges of the document, do not overlap and start apart replace all their
ranges at once, each by its text with plain line feeds. In whatever order they are handed over, the
text is the same, and so is all that the document makes of them. -/
theorem onEdits_simultaneous {σ : Type} [BEq σ] (document : Document σ) {edits : List Edit}
    (hfits : ∀ edit ∈ edits, document.buffer.Fits edit.range)
    (hapart : edits.Pairwise Edit.Apart) :
    (document.buffer.applyEdits edits).text =
        document.buffer.text.replaceAll (edits.map document.buffer.cut) ∧
      ∀ others, others.Perm edits →
        document.buffer.applyEdits others = document.buffer.applyEdits edits ∧
          document.onEdits others = document.onEdits edits := by
  refine ⟨Buffer.text_applyEdits hfits hapart, fun others hperm => ?_⟩
  have hstarts : edits.Pairwise fun a b => a.range.start ≠ b.range.start :=
    hapart.imp fun h => h.starts
  have hsorted := Edit.sortDescending_eq_of_perm hperm hstarts
  exact ⟨by rw [Buffer.applyEdits, Buffer.applyEdits, hsorted],
    by simp only [onEdits, hsorted]⟩

/-- A character of two bytes is replaced by two lines, a text is put in right behind it, and the
line break that follows is taken out together with a character. -/
theorem onEdits_simultaneous_touching :
    let document := (create ['a', 'é', 'b', '\n', 'c', 'd'] "toy" 1 (some .comments) 20).state
    let replace : Edit := ⟨⟨⟨0, 1⟩, ⟨0, 3⟩⟩, ['<', '\r', '\n', 'y']⟩
    let insert : Edit := .insert ⟨0, 3⟩ ['z']
    let join : Edit := ⟨⟨⟨0, 4⟩, ⟨1, 1⟩⟩, []⟩
    (document.buffer.applyEdits [replace, insert, join]).text =
        ['a', '<', '\n', 'y', 'z', 'b', 'd'] ∧
      document.onEdits [insert, join, replace] = document.onEdits [replace, insert, join] := by
  intro document replace insert join
  have hfits : ∀ edit ∈ [replace, insert, join], document.buffer.Fits edit.range := by
    decide +kernel
  obtain ⟨htext, hany⟩ := document.onEdits_simultaneous hfits (by decide +kernel)
  have hperm : ([insert, join] ++ [replace]).Perm ([replace] ++ [insert, join]) :=
    List.perm_append_comm
  exact ⟨htext.trans (by decide +kernel), (hany _ hperm).2⟩

end Document

end ScopeTracker
