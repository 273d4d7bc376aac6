import ScopeTracker.Domain.Label

/-!
# Domain names

A domain name is written in ASCII. Its characters are mapped and composed first; then each of its
labels is checked and written.
-/

namespace ScopeTracker

namespace Domain

/-- What may not stand in a domain name. -/
def isForbidden (c : Char) : Bool :=
  c.toNat ≤ 0x20 || c.toNat = 0x7F || "%#/:<>?@[\\]^|".toList.contains c

/-- A domain name in ASCII. There is none for a text that is no domain name. -/
def toAscii? (name : Text) : Option Text := do
  let name := Text.normal (← map? name)
  let labels ← (Text.splitAtChar '.' name).mapM labelOf?
  let isClear (label : Text) : Bool := label.isEmpty || hasDirection label
  if (!labels.any isFromRight || labels.all isClear) && !name.any isForbidden then
    return ['.'].intercalate (labels.map asciiLabel)
  else none

end Domain

end ScopeTracker
