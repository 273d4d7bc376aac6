import ScopeTracker.Proofs.Text.FlatText

/-!
# Batches as one replacement

The edits of a batch give their ranges in the text before the batch, and they are carried out one
after the other, each on what the ones before it left. If the ranges do not overlap, all of this is
a single replacement: every character of the text before the batch stays or goes, and every new text
is put in, as the offsets in that text say.

Main statements: an edit leaves the places up to its start where they are (`HasPlace.applyEdit`), so
a batch from the last range to the first replaces all ranges at once (`text_foldl_applyEdit`).
-/

namespace ScopeTracker

namespace Position

theorem le_refl (a : Position) : a ≤ a := .inr ⟨rfl, Nat.le_refl _⟩

theorem le_trans {a b c : Position} (hab : a ≤ b) (hbc : b ≤ c) : a ≤ c := by
  simp only [le_def] at *
  omega

theorem le_of_lt {a b : Position} (h : a < b) : a ≤ b := by
  simp only [le_def, lt_def] at *
  omega

theorem le_total (a b : Position) : a ≤ b ∨ b ≤ a := by
  simp only [le_def]
  omega

theorem lt_of_le_of_ne {a b : Position} (hle : a ≤ b) (hne : a ≠ b) : a < b := by
  obtain ⟨line, column⟩ := a
  obtain ⟨line', column'⟩ := b
  simp only [le_def, lt_def, ne_eq, mk.injEq, not_and] at *
  omega

end Position

namespace Text

/-! ## Cuts -/

/-- A stretch of a text, given by the numbers of bytes before its ends, and the text to be put in
its place. -/
structure Cut where
  start : Nat
  stop : Nat
  text : Text
deriving DecidableEq, Repr

variable {cut : Cut} {cuts others : List Cut} {offset : Nat} {before removed after t : Text}

/-- The stretch is over at an offset, and nothing is put in there for it. -/
structure Cut.Passed (cut : Cut) (offset : Nat) : Prop where
  start_lt : cut.start < offset
  stop_le : cut.stop ≤ offset

/-- What is put in at an offset. -/
def putInAt (cuts : List Cut) (offset : Nat) : Text :=
  (cuts.filter fun cut => cut.start = offset).flatMap (·.text)

/-- Whether the character at an offset is taken out. -/
def isCutAt (cuts : List Cut) (offset : Nat) : Bool :=
  cuts.any fun cut => cut.start ≤ offset && offset < cut.stop

/-- Replaces the stretches in a text that starts at an offset. -/
def replaceFrom (cuts : List Cut) : Nat → Text → Text
  | offset, [] => putInAt cuts offset
  | offset, c :: rest =>
    putInAt cuts offset ++
      ((if isCutAt cuts offset then [] else [c]) ++ replaceFrom cuts (offset + c.utf8Size) rest)

/-- Replaces all stretches of a text at once. Whether a character stays and what is put in before it
is told by its offset in the text as it was. -/
def replaceAll (cuts : List Cut) (t : Text) : Text := replaceFrom cuts 0 t

/-! ## Offsets behind and inside a stretch -/

theorem Cut.Passed.mono (h : cut.Passed offset) {further : Nat} (hle : offset ≤ further) :
    cut.Passed further :=
  ⟨Nat.lt_of_lt_of_le h.start_lt hle, Nat.le_trans h.stop_le hle⟩

theorem forall_passed_cons (hcut : cut.Passed offset) (h : ∀ other ∈ cuts, other.Passed cut.start) :
    ∀ passed ∈ cut :: cuts, passed.Passed offset :=
  List.forall_mem_cons.mpr
    ⟨hcut, fun other hother => (h other hother).mono (Nat.le_of_lt hcut.start_lt)⟩

theorem putInAt_of_passed (h : ∀ cut ∈ cuts, cut.Passed offset) : putInAt cuts offset = [] := by
  have hnone : cuts.filter (fun cut => cut.start = offset) = [] := by
    simp only [List.filter_eq_nil_iff, decide_eq_true_eq]
    exact fun cut hcut => Nat.ne_of_lt (h cut hcut).start_lt
  rw [putInAt, hnone, List.flatMap_nil]

theorem putInAt_cons_of_ne (h : cut.start ≠ offset) :
    putInAt (cut :: cuts) offset = putInAt cuts offset := by
  simp only [putInAt, List.filter_cons, decide_eq_true_eq, if_neg h]

theorem putInAt_cons_of_eq (h : cut.start = offset) :
    putInAt (cut :: cuts) offset = cut.text ++ putInAt cuts offset := by
  simp only [putInAt, List.filter_cons, decide_eq_true_eq, if_pos h, List.flatMap_cons]

theorem isCutAt_cons (cut : Cut) (cuts : List Cut) (offset : Nat) :
    isCutAt (cut :: cuts) offset =
      ((cut.start ≤ offset && offset < cut.stop) || isCutAt cuts offset) :=
  List.any_cons

theorem isCutAt_of_passed (h : ∀ cut ∈ cuts, cut.Passed offset) : isCutAt cuts offset = false := by
  simp only [isCutAt, List.any_eq_false, Bool.and_eq_true, decide_eq_true_eq]
  intro cut hcut
  have := (h cut hcut).stop_le
  omega

/-- Stretches that lie before an offset change nothing behind it. -/
theorem replaceFrom_of_passed (h : ∀ cut ∈ cuts, cut.Passed offset) :
    replaceFrom cuts offset t = t := by
  induction t generalizing offset with
  | nil => exact putInAt_of_passed h
  | cons c rest ih =>
    rw [replaceFrom, putInAt_of_passed h, isCutAt_of_passed h,
      ih fun cut hcut => (h cut hcut).mono (Nat.le_add_right _ _)]
    rfl

/-- Of a text that starts inside a stretch, what is left is the text behind the stretch. -/
theorem replaceFrom_of_inside (hstart : cut.start < offset)
    (hstop : offset + removed.byteLength = cut.stop)
    (h : ∀ other ∈ cuts, other.Passed cut.start) :
    replaceFrom (cut :: cuts) offset (removed ++ after) = after := by
  induction removed generalizing offset with
  | nil => exact replaceFrom_of_passed (forall_passed_cons ⟨hstart, Nat.le_of_eq hstop.symm⟩ h)
  | cons c rest ih =>
    have hsize := Char.utf8Size_pos c
    rw [byteLength] at hstop
    have hothers : ∀ other ∈ cuts, other.Passed offset :=
      fun other hother => (h other hother).mono (Nat.le_of_lt hstart)
    have hcut : isCutAt (cut :: cuts) offset = true := by
      simp only [isCutAt_cons, Bool.or_eq_true, Bool.and_eq_true, decide_eq_true_eq]
      exact .inl ⟨by omega, by omega⟩
    rw [List.cons_append, replaceFrom, putInAt_cons_of_ne (Nat.ne_of_lt hstart),
      putInAt_of_passed hothers, hcut, ih (by omega) (by omega)]
    rfl

/-- At the start of a stretch its text is put in, and the stretch is left out. -/
theorem replaceFrom_at_start (hstop : cut.start + removed.byteLength = cut.stop)
    (h : ∀ other ∈ cuts, other.Passed cut.start) :
    replaceFrom (cut :: cuts) cut.start (removed ++ after) = cut.text ++ after := by
  have hput : putInAt (cut :: cuts) cut.start = cut.text := by
    rw [putInAt_cons_of_eq rfl, putInAt_of_passed h, List.append_nil]
  cases removed with
  | nil =>
    rw [byteLength, Nat.add_zero] at hstop
    cases after with
    | nil => rw [List.append_nil, replaceFrom, hput, List.append_nil]
    | cons c rest =>
      have hsize := Char.utf8Size_pos c
      have hcut : isCutAt (cut :: cuts) cut.start = false := by
        rw [isCutAt_cons, isCutAt_of_passed h, ← hstop]
        simp only [Nat.lt_irrefl, decide_false, Bool.and_false, Bool.or_false]
      rw [List.nil_append, replaceFrom, hput, hcut,
        replaceFrom_of_passed (forall_passed_cons ⟨by omega, by omega⟩ h)]
      rfl
  | cons c rest =>
    have hsize := Char.utf8Size_pos c
    rw [byteLength] at hstop
    have hcut : isCutAt (cut :: cuts) cut.start = true := by
      simp only [isCutAt_cons, Bool.or_eq_true, Bool.and_eq_true, decide_eq_true_eq]
      exact .inl ⟨Nat.le_refl _, by omega⟩
    rw [List.cons_append, replaceFrom, hput, hcut, replaceFrom_of_inside (by omega) (by omega) h]
    rfl

/-- A stretch below all others may be replaced first. The others lie in the text before it, and find
their offsets as they were. -/
theorem replaceFrom_cons (hstart : offset + before.byteLength = cut.start)
    (hstop : cut.start + removed.byteLength = cut.stop)
    (h : ∀ other ∈ cuts, other.Passed cut.start) :
    replaceFrom (cut :: cuts) offset (before ++ (removed ++ after)) =
      replaceFrom cuts offset (before ++ (cut.text ++ after)) := by
  induction before generalizing offset with
  | nil =>
    rw [byteLength, Nat.add_zero] at hstart
    rw [List.nil_append, List.nil_append, hstart, replaceFrom_at_start hstop h,
      replaceFrom_of_passed h]
  | cons c rest ih =>
    have hsize := Char.utf8Size_pos c
    rw [byteLength] at hstart
    have hcut : isCutAt (cut :: cuts) offset = isCutAt cuts offset := by
      have hbelow : ¬ cut.start ≤ offset := by omega
      simp only [isCutAt_cons, hbelow, decide_false, Bool.false_and, Bool.false_or]
    rw [List.cons_append, List.cons_append, replaceFrom, replaceFrom,
      putInAt_cons_of_ne (by omega), hcut, ih (by omega)]

/-- The order of stretches with different starts does not matter. -/
theorem replaceAll_perm (h : cuts.Perm others) (hstarts : cuts.Pairwise (·.start ≠ ·.start))
    (t : Text) : replaceAll cuts t = replaceAll others t := by
  have hput : putInAt cuts = putInAt others := by
    funext offset
    have hnone : ∀ {list : List Cut}, list.Pairwise (·.start ≠ ·.start) →
        (list.filter fun cut => cut.start = offset).Pairwise fun _ _ => False := by
      intro list hlist
      refine (hlist.filter _).imp_of_mem fun ha hb hne => hne ?_
      simp only [List.mem_filter, decide_eq_true_eq] at ha hb
      exact ha.2.trans hb.2.symm
    -- no two of the stretches that start here differ, so there is at most one
    have hsame := (h.filter fun cut => cut.start = offset).eq_of_pairwise
      (fun _ _ _ _ hfalse _ => hfalse.elim) (hnone hstarts)
      (hnone (h.pairwise hstarts Ne.symm))
    rw [putInAt, putInAt, hsame]
  have hcut : isCutAt cuts = isCutAt others := by
    funext offset
    exact h.any_eq
  have hfrom : ∀ offset, replaceFrom cuts offset t = replaceFrom others offset t := by
    induction t with
    | nil => simp only [replaceFrom, hput, implies_true]
    | cons c rest ih => simp only [replaceFrom, hput, hcut, ih, implies_true]
  exact hfrom 0

/-! ## Parts of a text -/

/-- Of two starts of a text the one with fewer bytes is a start of the other. -/
theorem exists_append_of_byteLength_le {start rest longer below : Text}
    (h : start ++ rest = longer ++ below) (hle : start.byteLength ≤ longer.byteLength) :
    ∃ between, longer = start ++ between ∧ rest = between ++ below := by
  rcases List.append_eq_append_iff.mp h with hlonger | ⟨between, hstart, hbelow⟩
  · exact hlonger
  · rw [hstart, byteLength_append] at hle
    obtain rfl : between = [] := byteLength_eq_zero_iff.mp (by omega)
    rw [List.append_nil] at hstart
    exact ⟨[], by rw [hstart, List.append_nil], by rw [hbelow, List.nil_append, List.nil_append]⟩

theorem isBoundary_iff_exists {column : Nat} :
    t.isBoundary column ↔ ∃ before after, t = before ++ after ∧ before.byteLength = column := by
  constructor
  · intro h
    exact ⟨_, _, (takeColumn_append_dropColumn t column).symm, isBoundary_iff.mp h⟩
  · rintro ⟨before, after, rfl, rfl⟩
    exact isBoundary_append before after

theorem takeColumn_append (start rest : Text) :
    (start ++ rest).takeColumn start.byteLength = start := by
  rw [takeColumn, splitAtColumn_append]

theorem dropColumn_append (start rest : Text) :
    (start ++ rest).dropColumn start.byteLength = rest := by
  rw [dropColumn, splitAtColumn_append]

/-- A boundary of a line is one of whatever the line is cut to and goes on with behind it. -/
theorem isBoundary_takeColumn_append {column further : Nat} (h : t.isBoundary column)
    (hfurther : t.isBoundary further) (hle : column ≤ further) (rest : Text) :
    (t.takeColumn further ++ rest).isBoundary column := by
  obtain ⟨start, after, ht, hstart⟩ := isBoundary_iff_exists.mp h
  have hcut := takeColumn_append_dropColumn t further
  have hlength := isBoundary_iff.mp hfurther
  obtain ⟨between, hbetween, -⟩ :=
    exists_append_of_byteLength_le (ht.symm.trans hcut.symm) (by omega)
  rw [hbetween, List.append_assoc, ← hstart]
  exact isBoundary_append start _

end Text

namespace Buffer

variable {buffer : Buffer} {position start stop : Position} {edit : Edit} {edits : List Edit}

/-! ## Ranges of the document -/

/-- A range of the document: its ends are places, and they are in order. -/
structure Fits (buffer : Buffer) (range : Range) : Prop where
  start : buffer.HasPlace range.start
  stop : buffer.HasPlace range.stop
  ordered : range.start ≤ range.stop

instance (buffer : Buffer) (position : Position) : Decidable (buffer.HasPlace position) :=
  decidable_of_iff (position.line < buffer.lineCount ∧
      (buffer.line position.line).isBoundary position.column)
    ⟨fun h => ⟨h.1, h.2⟩, fun h => ⟨h.line_lt, h.boundary⟩⟩

instance (buffer : Buffer) (range : Range) : Decidable (buffer.Fits range) :=
  decidable_of_iff (buffer.HasPlace range.start ∧ buffer.HasPlace range.stop ∧
      range.start ≤ range.stop)
    ⟨fun h => ⟨h.1, h.2.1, h.2.2⟩, fun h => ⟨h.start, h.stop, h.ordered⟩⟩

theorem clamp_of_hasPlace (h : buffer.HasPlace position) : buffer.clamp position = position := by
  rw [clamp_of_lt _ h.line_lt, Text.floorColumn, Text.isBoundary_iff.mp h.boundary]

theorem clampRange_of_fits {range : Range} (h : buffer.Fits range) :
    buffer.clampRange range = range := by
  simp only [clampRange, clamp_of_hasPlace h.start, clamp_of_hasPlace h.stop,
    Position.max_eq_left_of_le h.ordered]

theorem fits_clampRange (buffer : Buffer) (range : Range) : buffer.Fits (buffer.clampRange range) :=
  ⟨(buffer.hasPlace_clampRange range).1, (buffer.hasPlace_clampRange range).2,
    buffer.clampRange_ordered range⟩

/-- A place further down is further on in the text by at least a byte. -/
theorem offset_lt (h : buffer.HasPlace start) (hlt : start < stop) :
    buffer.offset start < buffer.offset stop := by
  rw [offset, offset]
  rcases Position.lt_def.mp hlt with hline | ⟨hline, hcolumn⟩
  · have hnext := lineOffset_succ h.line_lt
    have hbelow := buffer.lineOffset_mono (show start.line + 1 ≤ stop.line from hline)
    have hcolumn := Text.le_byteLength_of_isBoundary h.boundary
    omega
  · rw [hline]
    omega

/-- A range cuts the text in three. -/
theorem Fits.exists_text_eq {range : Range} (h : buffer.Fits range) :
    ∃ before removed after, buffer.text = before ++ (removed ++ after) ∧
      before.byteLength = buffer.offset range.start ∧
      buffer.offset range.start + removed.byteLength = buffer.offset range.stop := by
  have hstart := byteLength_linesBefore h.start
  have hstop := byteLength_linesBefore h.stop
  have hle := offset_le h.start h.ordered
  have hwhole := text_eq h.start.line_lt
  obtain ⟨removed, hlonger, hrest⟩ := Text.exists_append_of_byteLength_le
    (hwhole.symm.trans (text_eq h.stop.line_lt)) (by omega)
  refine ⟨_, removed, _, hwhole.trans (by rw [hrest]), hstart, ?_⟩
  rw [hlonger, Text.byteLength_append] at hstop
  omega

/-- An edit replaces the middle of the three parts. -/
theorem text_applyEdit_of_fits {before removed after : Text} (h : buffer.Fits edit.range)
    (htext : buffer.text = before ++ (removed ++ after))
    (hstart : before.byteLength = buffer.offset edit.range.start)
    (hstop : buffer.offset edit.range.start + removed.byteLength =
      buffer.offset edit.range.stop) :
    (buffer.applyEdit edit).text = before ++ (edit.text.withFeeds ++ after) := by
  have hlower := Text.glue_ne_nil (buffer.linesAfter_ne_nil edit.range.stop) edit.text.splitLines
  have hcut := splitAtColumn_text h.start
  have hcut' := splitAtColumn_text h.stop
  rw [htext, ← hstart, Text.splitAtColumn_append] at hcut
  rw [htext, ← hstop, ← hstart, ← Text.byteLength_append, ← List.append_assoc,
    Text.splitAtColumn_append] at hcut'
  rw [text, lines_applyEdit_eq_glue, clampRange_of_fits h,
    Text.joinLines_glue (buffer.linesBefore_ne_nil _) hlower,
    Text.joinLines_glue edit.text.splitLines_ne_nil (buffer.linesAfter_ne_nil _),
    Text.joinLines_splitLines, ← (Prod.mk.inj hcut).1, ← (Prod.mk.inj hcut').2]

/-! ## Places that stay -/

/-- The lines down to the start of an edit, the last of them up to the column of the start. -/
theorem exists_lines_applyEdit (h : buffer.Fits edit.range) :
    ∃ rest below, (buffer.applyEdit edit).lines =
      buffer.lines.take edit.range.start.line ++
        ((buffer.line edit.range.start.line).takeColumn edit.range.start.column ++ rest) ::
          below := by
  obtain ⟨rest, below, hlower⟩ := List.exists_cons_of_ne_nil
    (Text.glue_ne_nil (buffer.linesAfter_ne_nil edit.range.stop) edit.text.splitLines)
  refine ⟨rest, below, ?_⟩
  rw [lines_applyEdit_eq_glue, clampRange_of_fits h, hlower, linesBefore, Text.glue_concat]

/-- A place up to the start of an edit is still a place after the edit, with the same offset. -/
theorem HasPlace.applyEdit (h : buffer.HasPlace position) {edit : Edit}
    (hfits : buffer.Fits edit.range) (hle : position ≤ edit.range.start) :
    (buffer.applyEdit edit).HasPlace position ∧
      (buffer.applyEdit edit).offset position = buffer.offset position := by
  obtain ⟨rest, below, hlines⟩ := exists_lines_applyEdit hfits
  have hline := Position.line_le_of_le hle
  have hinside := hfits.start.line_lt
  rw [lineCount] at hinside
  have hlength : (buffer.lines.take edit.range.start.line).length = edit.range.start.line := by
    rw [List.length_take]
    omega
  refine ⟨⟨?_, ?_⟩, ?_⟩
  · rw [lineCount, hlines, List.length_append, List.length_cons, hlength]
    omega
  · rw [line_eq, hlines]
    rcases Position.le_def.mp hle with hlt | ⟨heq, hcolumn⟩
    · rw [List.getElem?_append_left (by omega), List.getElem?_take_of_lt hlt, ← line_eq]
      exact h.boundary
    · have hboundary := h.boundary
      rw [heq] at hboundary ⊢
      rw [List.getElem?_append_right (by omega), hlength, Nat.sub_self, List.getElem?_cons_zero,
        Option.getD_some]
      exact Text.isBoundary_takeColumn_append hboundary hfits.start.boundary hcolumn rest
  · rw [offset, offset, lineOffset, lineOffset, hlines, List.take_append_of_le_length (by omega),
      List.take_take, Nat.min_eq_left hline]

/-! ## Batches -/

/-- What an edit does to the whole text. -/
def cut (buffer : Buffer) (edit : Edit) : Text.Cut :=
  ⟨buffer.offset edit.range.start, buffer.offset edit.range.stop, edit.text.withFeeds⟩

/-- From the last range to the first, the edits of a batch replace all ranges at once. Ranges may
touch. -/
theorem text_foldl_applyEdit (hfits : ∀ edit ∈ edits, buffer.Fits edit.range)
    (hbelow : edits.Pairwise fun lower upper =>
      upper.range.start < lower.range.start ∧ upper.range.stop ≤ lower.range.start) :
    (edits.foldl applyEdit buffer).text = buffer.text.replaceAll (edits.map buffer.cut) := by
  induction edits generalizing buffer with
  | nil => exact (Text.replaceFrom_of_passed (by simp)).symm
  | cons edit later ih =>
    have hedit := hfits edit List.mem_cons_self
    obtain ⟨habove, hbelow⟩ := List.pairwise_cons.mp hbelow
    obtain ⟨before, removed, after, htext, hstart, hstop⟩ := hedit.exists_text_eq
    -- the ranges of the later edits end at the start of this one, so they are where they were
    have hkept : ∀ upper ∈ later, (buffer.applyEdit edit).Fits upper.range ∧
        (buffer.applyEdit edit).cut upper = buffer.cut upper := by
      intro upper hupper
      have hrange := hfits upper (List.mem_cons_of_mem _ hupper)
      have hstop := (habove upper hupper).2
      obtain ⟨hstart', hoffset⟩ :=
        hrange.start.applyEdit hedit (Position.le_trans hrange.ordered hstop)
      obtain ⟨hstop', hoffset'⟩ := hrange.stop.applyEdit hedit hstop
      exact ⟨⟨hstart', hstop', hrange.ordered⟩, by rw [cut, cut, hoffset, hoffset']⟩
    have hcuts : ∀ upper ∈ later.map buffer.cut, upper.Passed (buffer.cut edit).start := by
      intro cut hcut
      obtain ⟨upper, hupper, rfl⟩ := List.mem_map.mp hcut
      have hrange := hfits upper (List.mem_cons_of_mem _ hupper)
      obtain ⟨hlt, hle⟩ := habove upper hupper
      exact ⟨offset_lt hrange.start hlt, offset_le hrange.stop hle⟩
    rw [List.foldl_cons, ih (fun upper hupper => (hkept upper hupper).1) hbelow,
      List.map_congr_left fun upper hupper => (hkept upper hupper).2,
      text_applyEdit_of_fits hedit htext hstart hstop, List.map_cons, htext, Text.replaceAll,
      Text.replaceAll, Text.replaceFrom_cons (by rw [Nat.zero_add]; exact hstart) hstop hcuts]
    rfl

end Buffer

end ScopeTracker
