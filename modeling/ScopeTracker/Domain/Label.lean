import ScopeTracker.Domain.Mapping
import ScopeTracker.Domain.Property
import ScopeTracker.Domain.Punycode
import ScopeTracker.Text.Normal

/-!
# Labels of domain names

What stands between the points of a domain name is a label. A label with characters beyond ASCII
must not start with a mark, and the two characters that join letters, or keep them apart, must
stand where they have something to do. In a name with letters that are written from the right,
every label must have a clear direction.
-/

namespace ScopeTracker

namespace Domain

/-! ## Joiners -/

/-- The character that keeps letters apart. -/
def nonJoiner : Char := '\u200c'

/-- The character that joins letters. -/
def joiner : Char := '\u200d'

/-- Whether the next letter in a row joins, over marks, with letters of the given kinds. -/
def joinsWith (kinds : List Text.CharSet) (row : Text) : Bool :=
  match row.dropWhile nonspacing.contains with
  | c :: _ => kinds.any (·.contains c)
  | [] => false

/-- Whether all joiners in the rest of a label have something to do: they follow a mark that takes
away a vowel, or keep letters apart that would join. `before` is what stands in front, the last
character first. -/
def joinersFit (before : Text) : Text → Bool
  | [] => true
  | c :: rest =>
    let afterVirama := (before.head?.map Text.combiningClass) = some Text.viramaClass
    let apart := joinsWith [joinsLeft, joinsBoth] before && joinsWith [joinsRight, joinsBoth] rest
    let fits :=
      if c = nonJoiner then afterVirama || apart else if c = joiner then afterVirama else true
    fits && joinersFit (c :: before) rest

/-! ## Directions -/

/-- Whether a label has a clear direction. From the right it has no letters written from the left
and digits of only one kind; from the left it has no letters and digits that are written from the
right. It ends in a letter or a digit, apart from marks. -/
def hasDirection (label : Text) : Bool :=
  let directions := label.map direction
  let last := (directions.reverse.dropWhile (· = .mark)).head?
  match directions.head? with
  | some .right =>
    directions.all (· ≠ .left) &&
      !(directions.contains .digit && directions.contains .rightDigit) &&
      [some .right, some .digit, some .rightDigit].contains last
  | some .left =>
    directions.all (fun d => d ≠ .right && d ≠ .rightDigit) &&
      [some Direction.left, some .digit].contains last
  | _ => false

/-- Whether a label has characters that are written from the right. -/
def isFromRight (label : Text) : Bool :=
  label.any fun c => direction c = .right || direction c = .rightDigit

/-! ## Labels -/

/-- Whether a text is ASCII. -/
def isAscii (t : Text) : Bool := t.all (·.toNat < 0x80)

/-- What stands in front of a label that is written in ASCII. -/
def mark : Text := "xn--".toList

/-- The length up to which a label is written in ASCII. Writing takes long for longer ones. -/
def maxWritten : Nat := 1000

/-- The length up to which a label is read from ASCII. -/
def maxRead : Nat := 2000

/-- Whether a label may stand in a domain name, apart from its direction. -/
def isLabel (label : Text) : Bool :=
  !(label.head?.map isMark).getD false && joinersFit [] label &&
    (isAscii label || label.length ≤ maxWritten)

/-- The label that a mapped label stands for. One that is written in ASCII must stand for a label
that is not, and that the mapping leaves as it is. -/
def labelOf? (label : Text) : Option Text :=
  if mark.isPrefixOf label then do
    let written := label.drop mark.length
    let meant ← if written.length ≤ maxRead then Punycode.decode? written else none
    let mapped ← map? meant
    if isAscii label && !isAscii meant && Text.normal mapped = meant && !mark.isPrefixOf meant &&
        isLabel meant then some meant else none
  else if isLabel label then some label
  else none

/-- A label in ASCII. -/
def asciiLabel (label : Text) : Text :=
  if isAscii label then label else mark ++ Punycode.encode label

end Domain

end ScopeTracker
