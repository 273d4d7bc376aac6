import ScopeTracker.Proofs.Text.Breaks
import ScopeTracker.Text.Column

/-!
# Seams

Where two texts are put one behind the other, the last line of the first and the first line of the
second become one line (`glue`). There is one exception: a carriage return at the end of the first
text and a line feed at the start of the second are two breaks apart and a single one together.

Main statements: apart from that exception the lines of the whole are those of its parts
(`splitLines_append`), and with it there is one line less (`length_splitLines_append`).
-/

namespace ScopeTracker

namespace Text

variable {before after : Text} {above below lines : List Text}

/-- The break that ends the first text and the one that starts the second are one break. -/
def Fuses (before after : Text) : Prop := before.getLast? = some '\r' ∧ after.head? = some '\n'

instance (before after : Text) : Decidable (Fuses before after) :=
  inferInstanceAs (Decidable (_ ∧ _))

/-- The lines of two texts, where the last line of the first goes on with the first line of the
second. -/
def glue : List Text → List Text → List Text
  | [], below => below
  | [last], below => prependToFirst last below
  | line :: next :: rest, below => line :: glue (next :: rest) below

/-! ## Lines that are glued -/

@[simp] theorem glue_cons (h : lines ≠ []) (line : Text) (below : List Text) :
    glue (line :: lines) below = line :: glue lines below := by
  cases lines with
  | nil => exact absurd rfl h
  | cons next rest => rfl

/-- Gluing is told by the two lines that become one. -/
theorem glue_concat (above : List Text) (last first : Text) (below : List Text) :
    glue (above ++ [last]) (first :: below) = above ++ (last ++ first) :: below := by
  induction above with
  | nil => rfl
  | cons line rest ih => rw [List.cons_append, glue_cons (by simp), ih, List.cons_append]

theorem exists_eq_concat (h : lines ≠ []) : ∃ above last, lines = above ++ [last] :=
  ⟨_, _, (List.dropLast_concat_getLast h).symm⟩

theorem glue_ne_nil (hbelow : below ≠ []) (above : List Text) : glue above below ≠ [] := by
  fun_cases glue above below with
  | case1 => exact hbelow
  | case2 => exact prependToFirst_ne_nil _ _
  | case3 => simp

theorem length_glue (habove : above ≠ []) (hbelow : below ≠ []) :
    (glue above below).length + 1 = above.length + below.length := by
  obtain ⟨upper, last, rfl⟩ := exists_eq_concat habove
  obtain ⟨first, lower, rfl⟩ := List.exists_cons_of_ne_nil hbelow
  simp only [glue_concat, List.length_append, List.length_cons, List.length_nil]
  omega

theorem glue_prependToFirst (habove : above ≠ []) (t : Text) (below : List Text) :
    glue (prependToFirst t above) below = prependToFirst t (glue above below) := by
  fun_cases glue above below with
  | case1 => exact absurd rfl habove
  | case2 last below =>
    cases below <;> simp [prependToFirst, glue]
  | case3 => rfl

/-- Putting a text behind the last line, and lines below it, is gluing with these lines. -/
theorem appendToLast_append (h : lines ≠ []) (first : Text) (below : List Text) :
    appendToLast first lines ++ below = glue lines (first :: below) := by
  fun_induction appendToLast first lines with
  | case1 => exact absurd rfl h
  | case2 => rfl
  | case3 line next rest ih =>
    rw [List.cons_append, ih (by simp)]
    rfl

/-! ## Texts one behind the other -/

theorem Fuses.of_append (h : Fuses before after) (t : Text) :
    Fuses (t ++ before) after := by
  refine ⟨?_, h.2⟩
  rw [List.getLast?_append, h.1]
  rfl

/-- A return does not become the first half of a longer break if the texts do not fuse. -/
theorem ne_feed_of_not_fuses {c : Char} {rest : Text}
    (hlone : ∀ more, c = '\r' → rest ≠ '\n' :: more) (h : ¬ Fuses (c :: rest) after) :
    ∀ more, c = '\r' → rest ++ after ≠ '\n' :: more := by
  rintro more rfl hmore
  cases rest with
  | nil => exact h ⟨rfl, by rw [List.nil_append] at hmore; rw [hmore]; rfl⟩
  | cons d rest => exact hlone rest rfl (by rw [(List.cons.inj hmore).1])

/-- Apart from one exception the lines of the whole are those of its parts. -/
theorem splitLines_append (h : ¬ Fuses before after) :
    splitLines (before ++ after) = glue before.splitLines after.splitLines := by
  fun_induction splitLines before with
  | case1 =>
    obtain ⟨first, below, hlines⟩ := List.exists_cons_of_ne_nil after.splitLines_ne_nil
    rw [List.nil_append, glue, hlines]
    rfl
  | case2 rest ih =>
    have hrest := ih fun hfuses => h (hfuses.of_append ['\r', '\n'])
    rw [List.cons_append, List.cons_append, splitLines, hrest, glue_cons (splitLines_ne_nil rest)]
  | case3 c rest hlone hc ih =>
    have hrest := ih fun hfuses => h (hfuses.of_append [c])
    have hlone' := ne_feed_of_not_fuses hlone h
    rw [List.cons_append, splitLines.eq_3 _ _ hlone', if_pos hc, hrest,
      glue_cons (splitLines_ne_nil rest)]
  | case4 c rest hlone hc ih =>
    have hrest := ih fun hfuses => h (hfuses.of_append [c])
    have hlone' := ne_feed_of_not_fuses hlone h
    rw [List.cons_append, splitLines.eq_3 _ _ hlone', if_neg hc, hrest,
      glue_prependToFirst (splitLines_ne_nil rest)]

/-- Two breaks that become one make one line less. -/
theorem length_splitLines_append (before after : Text) :
    (splitLines (before ++ after)).length + (if Fuses before after then 2 else 1) =
      before.splitLines.length + after.splitLines.length := by
  by_cases h : Fuses before after
  · obtain ⟨shorter, rfl⟩ := List.getLast?_eq_some_iff.mp h.1
    obtain ⟨rest, rfl⟩ := List.head?_eq_some_iff.mp h.2
    -- the return alone and the return with the feed both end the lines of the shorter text
    have hreturn : ¬ Fuses shorter ['\r'] := by simp [Fuses]
    have hbreak : ¬ Fuses shorter ['\r', '\n'] := by simp [Fuses]
    have hrest : ¬ Fuses (shorter ++ ['\r', '\n']) rest := by simp [Fuses]
    have hwhole : shorter ++ ['\r'] ++ '\n' :: rest = shorter ++ ['\r', '\n'] ++ rest := by simp
    have hfeed : splitLines ('\n' :: rest) = [] :: splitLines rest := by simp [splitLines, isBreak]
    have hlength := length_glue (splitLines_ne_nil (shorter ++ ['\r', '\n']))
      (splitLines_ne_nil rest)
    rw [if_pos h, hwhole, splitLines_append hrest]
    rw [splitLines_append hbreak] at hlength ⊢
    rw [splitLines_append hreturn, hfeed, List.length_cons]
    have hsame : splitLines ['\r', '\n'] = splitLines ['\r'] := by decide
    rw [hsame] at hlength ⊢
    omega
  · have hlength := length_glue before.splitLines_ne_nil after.splitLines_ne_nil
    rw [if_neg h, splitLines_append h, hlength]

end Text

end ScopeTracker
