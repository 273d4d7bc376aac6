import ScopeTracker.Text.Digits

/-!
# Percent-encoding

A character that may not stand in a part of a URI is written as its UTF-8 bytes, each of them a
percent sign with two digits of base 16. What may not stand somewhere is given as a list of
ASCII characters; control characters and all characters beyond ASCII are encoded everywhere.
-/

namespace ScopeTracker

namespace Uri

/-- A byte as a percent sign and two digits, with large letters. -/
def encodeByte (b : UInt8) : Text :=
  ['%', (Text.hexDigit (b.toNat / 16)).toUpper, (Text.hexDigit (b.toNat % 16)).toUpper]

/-- Encodes the characters that are reserved, and all control and non-ASCII ones. -/
def encode (reserved : Text) (t : Text) : Text :=
  t.flatMap fun c =>
    if c.toNat < 0x20 || 0x7F ≤ c.toNat || reserved.contains c then
      (String.utf8EncodeChar c).flatMap encodeByte
    else [c]

/-- The bytes of a percent-encoded text. A percent sign that no two digits follow stands for
itself. -/
def decodeBytes : Text → List UInt8
  | '%' :: a :: b :: rest =>
    match Text.digitValue? a, Text.digitValue? b with
    | some high, some low => UInt8.ofNat (high * 16 + low) :: decodeBytes rest
    | _, _ => 37 :: decodeBytes (a :: b :: rest)
  | c :: rest => String.utf8EncodeChar c ++ decodeBytes rest
  | [] => []
termination_by t => t.length

/-- The text of bytes, if they are UTF-8. -/
def textOfBytes? (bytes : List UInt8) : Option String :=
  String.fromUTF8? (ByteArray.mk bytes.toArray)

/-! ## What is reserved in the parts of a URI -/

/-- What may not stand in a fragment. -/
def reservedInFragment : Text := " \"<>\x60".toList

/-- What may not stand in a path. -/
def reservedInPath : Text := reservedInFragment ++ "#?\x7b\x7d".toList

/-- What may not stand in the name of a user or in a password. -/
def reservedInUser : Text := reservedInPath ++ "/:;=@[\\]^|".toList

/-- What may not stand in a query. -/
def reservedInQuery : Text := " \"#<>".toList

/-- What may not stand in the query of a file URI or of a web address. -/
def reservedInSpecialQuery : Text := reservedInQuery ++ ['\'']

end Uri

end ScopeTracker
