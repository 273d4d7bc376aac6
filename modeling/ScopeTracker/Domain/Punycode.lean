import ScopeTracker.Text.Split

/-!
# Punycode

A label of a domain name with characters beyond ASCII is written in ASCII: first its ASCII
characters, then, behind a hyphen, where the others are inserted. The others are inserted in the
order of their code points. Between two insertions stands the distance from one to the next,
counted in places over all the code points that are passed. Distances are written in base 36 with
digits of their own end, so that a number needs no mark behind it.

The first place a number of digits may end at depends on the distances before it, which are
mostly alike: this is what the bias is for.

Main statements: reading a number takes at least one character (`readNumber_length`), so that
decoding ends.
-/

namespace ScopeTracker

namespace Punycode

/-- The number of digits. -/
def base : Nat := 36

/-- The digit with a value: the letters come first. -/
def digit (n : Nat) : Char := if n < 26 then Char.ofNat (97 + n) else Char.ofNat (22 + n)

/-- The value of a digit. -/
def value? (c : Char) : Option Nat :=
  if 'a' ≤ c && c ≤ 'z' then some (c.toNat - 97)
  else if 'A' ≤ c && c ≤ 'Z' then some (c.toNat - 65)
  else if c.isDigit then some (c.toNat - 22)
  else none

/-- Digits below the threshold end a number. It depends on the place of the digit and on the
bias. -/
def threshold (place bias : Nat) : Nat := min 26 (max 1 (place - bias))

theorem threshold_pos (place bias : Nat) : 1 ≤ threshold place bias := by
  unfold threshold
  omega

/-- Divides a distance by 35 as long as it is large. The answer holds what is left, and 36 for
each division. -/
def shrink (distance places : Nat) : Nat × Nat :=
  if 455 < distance then shrink (distance / 35) (places + base) else (distance, places)
termination_by distance
decreasing_by omega

/-- The bias after a distance, when a text has a number of characters. The first distance is
longer than those after it. -/
def adapt (distance characters : Nat) (isFirst : Bool) : Nat :=
  let distance := if isFirst then distance / 700 else distance / 2
  let (left, places) := shrink (distance + distance / characters) 0
  places + base * left / (left + 38)

/-! ## Writing -/

/-- The digits of a number from a place on. -/
def numberDigits (bias place n : Nat) : Text :=
  let least := threshold place bias
  if n < least then [digit n]
  else
    digit (least + (n - least) % (base - least)) ::
      numberDigits bias (place + base) ((n - least) / (base - least))
termination_by n
decreasing_by
  have := threshold_pos place bias
  have := Nat.div_le_self (n - threshold place bias) (base - threshold place bias)
  omega

/-- What has been written so far: the text, the distance from the last insertion, the bias, and
the number of characters that are there. -/
structure Writing where
  text : Text
  distance : Nat
  bias : Nat
  count : Nat

/-- Passes a character of the label while the insertions of a code point are written. `ascii` is
the number of characters that were there at first. -/
def Writing.pass (ascii codePoint : Nat) (w : Writing) (c : Char) : Writing :=
  if c.toNat < codePoint then { w with distance := w.distance + 1 }
  else if c.toNat = codePoint then
    { text := w.text ++ numberDigits w.bias base w.distance
      distance := 0
      bias := adapt w.distance (w.count + 1) (w.count = ascii)
      count := w.count + 1 }
  else w

/-- Writes the insertions of code points, which are given in ascending order. `next` is the first
code point that has not been passed. -/
def writeFrom (label : Text) (ascii next : Nat) (w : Writing) : List Nat → Text
  | [] => w.text
  | codePoint :: rest =>
    let start := { w with distance := w.distance + (codePoint - next) * (w.count + 1) }
    let w := label.foldl (Writing.pass ascii codePoint) start
    writeFrom label ascii (codePoint + 1) { w with distance := w.distance + 1 } rest

/-- The code points beyond ASCII of a label in ascending order. -/
def codePoints (label : Text) : List Nat :=
  ((label.map Char.toNat).filter (128 ≤ ·)).mergeSort.eraseReps

/-- Writes a label. -/
def encode (label : Text) : Text :=
  let ascii := label.filter (·.toNat < 128)
  let start := if ascii.isEmpty then [] else ascii ++ ['-']
  writeFrom label ascii.length 128 ⟨start, 0, 72, ascii.length⟩ (codePoints label)

/-! ## Reading -/

/-- Reads a number from a place on: the value of its digits, each of them times a weight, and
what is left. -/
def readNumber (bias place weight : Nat) : Text → Option (Nat × Text)
  | [] => none
  | c :: rest =>
    match value? c with
    | none => none
    | some value =>
      let least := threshold place bias
      if value < least then some (value * weight, rest)
      else
        (readNumber bias (place + base) (weight * (base - least)) rest).map fun (more, rest) =>
          (value * weight + more, rest)

theorem readNumber_length {bias place weight n : Nat} {t rest : Text}
    (h : readNumber bias place weight t = some (n, rest)) : rest.length < t.length := by
  induction t generalizing place weight n rest with
  | nil => simp [readNumber] at h
  | cons c t ih =>
    rw [readNumber] at h
    split at h
    · simp at h
    · simp only at h
      split at h
      · simp only [Option.some.injEq, Prod.mk.injEq] at h
        simp [← h.2]
      · obtain ⟨⟨more, left⟩, hread, heq⟩ := Option.map_eq_some_iff.1 h
        simp only [Prod.mk.injEq] at heq
        rw [← heq.2]
        exact Nat.lt_succ_of_lt (ih hread)

/-- Reads insertions. `next` is the code point and `place` the place from which the distance to
the next insertion counts. -/
def readFrom (next place bias : Nat) (label : Text) (t : Text) : Option Text :=
  if t.isEmpty then some label
  else
    match h : readNumber bias base 1 t with
    | none => none
    | some (distance, rest) =>
      let count := label.length + 1
      let codePoint := next + (place + distance) / count
      let place := (place + distance) % count
      if codePoint.isValidChar then
        readFrom codePoint (place + 1) (adapt distance count (label.all (·.toNat < 128)))
          (label.insertIdx place (Char.ofNat codePoint)) rest
      else none
termination_by t.length
decreasing_by exact readNumber_length h

/-- Reads a label. A hyphen divides it only if characters stand in front of it. -/
def decode? (t : Text) : Option Text :=
  let after := (t.reverse.takeWhile (· ≠ '-')).reverse
  let ascii := t.take (t.length - after.length - 1)
  if ascii.any (128 ≤ ·.toNat) then none
  else readFrom 128 0 72 ascii (if ascii.isEmpty then t else after)

end Punycode

end ScopeTracker
