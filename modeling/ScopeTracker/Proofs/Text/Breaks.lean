import ScopeTracker.Text.Lines

/-!
# Breaks and lines agree

The byte counter and the line splitter are two scans of one text. Here they are tied together:
a text has one line more than it has breaks (`length_splitLines`), and lines without breaks are
found again after they were joined (`splitLines_joinLines`).
-/

namespace ScopeTracker

namespace Text

/-! ## Bytes of a character -/

theorem utf8_cons (c : Char) (t : Text) : utf8 (c :: t) = String.utf8EncodeChar c ++ utf8 t := by
  simp [utf8]

/-- Only a carriage return and a line feed have a byte of a line break: the other characters of
one byte have another code, and all bytes of longer characters are 128 or more. -/
theorem not_break_byte {c : Char} (hc : isBreak c = false) :
    ∀ b ∈ String.utf8EncodeChar c, b ≠ 13 ∧ b ≠ 10 := by
  have hr : c.val.toNat ≠ 13 := by
    intro h
    have : c = '\r' := Char.ext (UInt32.toNat_inj.mp h)
    simp [isBreak, this] at hc
  have hn : c.val.toNat ≠ 10 := by
    intro h
    have : c = '\n' := Char.ext (UInt32.toNat_inj.mp h)
    simp [isBreak, this] at hc
  intro b hb
  have hcode : b.toNat ≠ 13 ∧ b.toNat ≠ 10 := by
    unfold String.utf8EncodeChar at hb
    dsimp only at hb
    split at hb
    · rw [List.mem_singleton.mp hb, UInt8.toNat_ofNat']
      omega
    · split at hb
      · simp only [List.mem_cons, List.not_mem_nil, or_false] at hb
        rcases hb with rfl | rfl <;> rw [UInt8.toNat_ofNat'] <;> omega
      · split at hb
        · simp only [List.mem_cons, List.not_mem_nil, or_false] at hb
          rcases hb with rfl | rfl | rfl <;> rw [UInt8.toNat_ofNat'] <;> omega
        · simp only [List.mem_cons, List.not_mem_nil, or_false] at hb
          rcases hb with rfl | rfl | rfl | rfl <;> rw [UInt8.toNat_ofNat'] <;> omega
  exact ⟨fun h => hcode.1 (by rw [h]; rfl), fun h => hcode.2 (by rw [h]; rfl)⟩

theorem utf8EncodeChar_ne_nil (c : Char) : String.utf8EncodeChar c ≠ [] := by
  unfold String.utf8EncodeChar
  dsimp only
  repeat' split
  all_goals simp

/-! ## Counting on bytes -/

theorem countBreakBytes_append {bytes : List UInt8} (h : ∀ b ∈ bytes, b ≠ 13 ∧ b ≠ 10)
    (rest : List UInt8) : countBreakBytes (bytes ++ rest) = countBreakBytes rest := by
  induction bytes with
  | nil => rfl
  | cons b bytes ih =>
    have hb := h b (by simp)
    have hrest := ih (fun x hx => h x (by simp [hx]))
    rw [List.cons_append, countBreakBytes.eq_3 _ _ (fun _ h13 _ => hb.1 h13)]
    simp [hb, hrest]

/-- A text whose bytes start with a line feed starts with a line feed. -/
theorem head_of_utf8 {t : Text} {bytes : List UInt8} (h : utf8 t = 10 :: bytes) :
    ∃ rest, t = '\n' :: rest := by
  cases t with
  | nil => simp [utf8] at h
  | cons c rest =>
    rw [utf8_cons] at h
    by_cases hc : isBreak c
    · rcases (by simpa [isBreak] using hc : c = '\r' ∨ c = '\n') with rfl | rfl
      · have : String.utf8EncodeChar '\r' = [13] := by decide
        simp [this] at h
      · exact ⟨rest, rfl⟩
    · obtain ⟨b, more, hb⟩ := List.exists_cons_of_ne_nil (utf8EncodeChar_ne_nil c)
      have hmem := not_break_byte (by simpa using hc) b (by simp [hb])
      rw [hb] at h
      exact absurd (List.cons.inj h).1 hmem.2

theorem countLineBreaks_crlf (rest : Text) :
    countLineBreaks ('\r' :: '\n' :: rest) = countLineBreaks rest + 1 := by
  have hr : String.utf8EncodeChar '\r' = [13] := by decide
  have hn : String.utf8EncodeChar '\n' = [10] := by decide
  simp [countLineBreaks, utf8_cons, hr, hn, countBreakBytes]

/-- A break that is not the first half of a longer one counts once. -/
theorem countLineBreaks_break {c : Char} {rest : Text} (hc : isBreak c)
    (hlone : ∀ more, c = '\r' → rest ≠ '\n' :: more) :
    countLineBreaks (c :: rest) = countLineBreaks rest + 1 := by
  rcases (by simpa [isBreak] using hc : c = '\r' ∨ c = '\n') with rfl | rfl
  · have hr : String.utf8EncodeChar '\r' = [13] := by decide
    have hnext : ∀ bytes, utf8 rest = 10 :: bytes → False := by
      intro bytes h
      obtain ⟨more, rfl⟩ := head_of_utf8 h
      exact hlone more rfl rfl
    rw [countLineBreaks, utf8_cons, hr, List.singleton_append,
      countBreakBytes.eq_3 _ _ (fun bytes _ h => hnext bytes h)]
    simp [countLineBreaks]
  · have hn : String.utf8EncodeChar '\n' = [10] := by decide
    simp [countLineBreaks, utf8_cons, hn, countBreakBytes]

theorem countLineBreaks_other {c : Char} (hc : isBreak c = false) (rest : Text) :
    countLineBreaks (c :: rest) = countLineBreaks rest := by
  rw [countLineBreaks, utf8_cons, countBreakBytes_append (not_break_byte hc)]
  rfl

/-! ## Lines -/

theorem length_prependToFirst {t : Text} {lines : List Text} (h : lines ≠ []) :
    (prependToFirst t lines).length = lines.length := by
  cases lines with
  | nil => exact absurd rfl h
  | cons first rest => simp [prependToFirst]

theorem length_appendToLast {t : Text} {lines : List Text} (h : lines ≠ []) :
    (appendToLast t lines).length = lines.length := by
  fun_induction appendToLast t lines with
  | case1 => exact absurd rfl h
  | case2 only => rfl
  | case3 first next rest ih => simpa using ih (by simp)

/-- A text has one line more than it has breaks. -/
theorem length_splitLines (t : Text) : t.splitLines.length = t.countLineBreaks + 1 := by
  fun_induction splitLines t with
  | case1 => rfl
  | case2 rest ih => rw [countLineBreaks_crlf, List.length_cons, ih]
  | case3 c rest hlone hc ih =>
    rw [countLineBreaks_break hc fun more h1 h2 => hlone more h1 h2, List.length_cons, ih]
  | case4 c rest _ hc ih =>
    rw [countLineBreaks_other (by simpa using hc),
      length_prependToFirst (splitLines_ne_nil rest), ih]

/-- A text without a break is its own only line. -/
theorem splitLines_of_breakFree {t : Text} (h : t.BreakFree) : t.splitLines = [t] := by
  induction t with
  | nil => rfl
  | cons c rest ih =>
    have hc : isBreak c = false := h c (by simp)
    have hrest := ih fun d hd => h d (by simp [hd])
    rw [splitLines.eq_3 _ _ (fun _ hr _ => by simp [isBreak, hr] at hc), hrest]
    simp [hc, prependToFirst]

/-- A text whose breaks count to zero is its own only line. -/
theorem splitLines_of_countLineBreaks_eq_zero {t : Text} (h : t.countLineBreaks = 0) :
    t.splitLines = [t] := by
  have hlength := length_splitLines t
  rw [h] at hlength
  fun_induction splitLines t with
  | case1 => rfl
  | case2 rest _ | case3 c rest _ _ _ =>
    have hnil : splitLines rest = [] := List.length_eq_zero_iff.mp (by simpa using hlength)
    exact absurd hnil (splitLines_ne_nil rest)
  | case4 c rest _ hc ih =>
    rw [length_prependToFirst (splitLines_ne_nil rest)] at hlength
    rw [countLineBreaks_other (by simpa using hc)] at h
    rw [ih h hlength]
    rfl

/-- A line in front of a line feed is the first line, and what follows gives the others. -/
theorem splitLines_append_feed {line : Text} (h : line.BreakFree) (rest : Text) :
    splitLines (line ++ '\n' :: rest) = line :: splitLines rest := by
  induction line with
  | nil => simp [splitLines, isBreak]
  | cons c line ih =>
    have hc : isBreak c = false := h c (by simp)
    have hline := ih fun d hd => h d (by simp [hd])
    rw [List.cons_append, splitLines.eq_3 _ _ (fun _ hr _ => by simp [isBreak, hr] at hc), hline]
    simp [hc, prependToFirst]

theorem joinLines_cons {lines : List Text} (h : lines ≠ []) (line : Text) :
    joinLines (line :: lines) = line ++ '\n' :: joinLines lines := by
  cases lines with
  | nil => exact absurd rfl h
  | cons next rest =>
    rw [joinLines, List.intercalate_cons_cons, List.append_assoc, List.singleton_append, joinLines]

/-- Lines without breaks are found again in the text that they make. -/
theorem splitLines_joinLines {lines : List Text} (hne : lines ≠ [])
    (h : ∀ line ∈ lines, BreakFree line) : splitLines (joinLines lines) = lines := by
  induction lines with
  | nil => exact absurd rfl hne
  | cons line rest ih =>
    have hline : line.BreakFree := h line (by simp)
    cases rest with
    | nil => simpa [joinLines, List.intercalate] using splitLines_of_breakFree hline
    | cons next rest =>
      rw [joinLines_cons (by simp), splitLines_append_feed hline,
        ih (by simp) fun l hl => h l (List.mem_cons_of_mem _ hl)]

end Text

end ScopeTracker
