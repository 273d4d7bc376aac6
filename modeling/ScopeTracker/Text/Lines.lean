/-!
# Lines of a text

A text is the list of its characters. A line break is a carriage return followed by a line
feed, a line feed alone, or a carriage return alone. `splitLines` cuts a text at its breaks and
`joinLines` puts lines back together with line feeds; `countLineBreaks` counts the breaks on the
UTF-8 bytes, without building the lines.

Main statements: a text has at least one line (`splitLines_ne_nil`), and no line holds a
character of a break (`breakFree_of_mem_splitLines`).
-/

namespace ScopeTracker

/-- A text is the list of its characters. -/
abbrev Text := List Char

namespace Text

/-- Whether a character is one that line breaks are made of. -/
def isBreak (c : Char) : Bool := c = '\r' || c = '\n'

/-- A text that holds no line break. -/
def BreakFree (t : Text) : Prop := ∀ c ∈ t, isBreak c = false

instance (t : Text) : Decidable t.BreakFree := inferInstanceAs (Decidable (∀ c ∈ t, _))

/-- Puts a text in front of the first line. -/
def prependToFirst (t : Text) : List Text → List Text
  | [] => [t]
  | line :: rest => (t ++ line) :: rest

/-- Puts a text behind the last line. -/
def appendToLast (t : Text) : List Text → List Text
  | [] => [t]
  | [line] => [line ++ t]
  | line :: next :: rest => line :: appendToLast t (next :: rest)

/-- The lines of a text without their breaks. A text that ends in a break has an empty last
line, so there is always at least one line. -/
def splitLines : Text → List Text
  | [] => [[]]
  | '\r' :: '\n' :: rest => [] :: splitLines rest
  | c :: rest => if isBreak c then [] :: splitLines rest else prependToFirst [c] (splitLines rest)

/-- Lines joined with a line feed between neighbours. -/
def joinLines (lines : List Text) : Text := ['\n'].intercalate lines

/-- The UTF-8 bytes of a text. -/
def utf8 (t : Text) : List UInt8 := t.flatMap String.utf8EncodeChar

/-- Counts the line breaks in UTF-8 bytes: `13 10`, `10` or `13`. -/
def countBreakBytes : List UInt8 → Nat
  | [] => 0
  | 13 :: 10 :: rest => countBreakBytes rest + 1
  | b :: rest => if b = 13 ∨ b = 10 then countBreakBytes rest + 1 else countBreakBytes rest

/-- The number of line breaks in a text. -/
def countLineBreaks (t : Text) : Nat := countBreakBytes t.utf8

/-! ## Every text has a line, and lines hold no break -/

theorem prependToFirst_ne_nil (t : Text) (lines : List Text) : prependToFirst t lines ≠ [] := by
  cases lines <;> simp [prependToFirst]

theorem appendToLast_ne_nil (t : Text) (lines : List Text) : appendToLast t lines ≠ [] := by
  fun_cases appendToLast t lines <;> simp

theorem splitLines_ne_nil (t : Text) : splitLines t ≠ [] := by
  fun_cases splitLines t with
  | case4 => exact prependToFirst_ne_nil _ _
  | _ => simp

theorem BreakFree.append {s t : Text} (hs : s.BreakFree) (ht : t.BreakFree) :
    Text.BreakFree (s ++ t) := by
  intro c hc
  rcases List.mem_append.1 hc with h | h
  · exact hs c h
  · exact ht c h

theorem breakFree_of_mem_prependToFirst {t : Text} {lines : List Text} (ht : t.BreakFree)
    (h : ∀ line ∈ lines, BreakFree line) : ∀ line ∈ prependToFirst t lines, BreakFree line := by
  cases lines with
  | nil => simpa [prependToFirst] using ht
  | cons first rest =>
    intro line hline
    rcases List.mem_cons.1 hline with rfl | hrest
    · exact ht.append (h first (by simp))
    · exact h line (by simp [hrest])

theorem breakFree_of_mem_appendToLast {t : Text} {lines : List Text} (ht : t.BreakFree)
    (h : ∀ line ∈ lines, BreakFree line) : ∀ line ∈ appendToLast t lines, BreakFree line := by
  fun_induction appendToLast t lines with
  | case1 => simpa using ht
  | case2 only => simpa using (h only (by simp)).append ht
  | case3 first next rest ih =>
    intro line hline
    rcases List.mem_cons.1 hline with rfl | hrest
    · exact h line (by simp)
    · exact ih (fun l hl => h l (List.mem_cons_of_mem _ hl)) line hrest

theorem breakFree_of_mem_splitLines (t : Text) : ∀ line ∈ splitLines t, BreakFree line := by
  fun_induction splitLines t with
  | case1 => simp [BreakFree]
  | case2 rest ih | case3 c rest _ _ ih =>
    intro line hline
    rcases List.mem_cons.1 hline with rfl | hrest
    · simp [BreakFree]
    · exact ih line hrest
  | case4 c rest _ hc ih =>
    exact breakFree_of_mem_prependToFirst (by simpa [BreakFree] using hc) ih

end Text

end ScopeTracker
