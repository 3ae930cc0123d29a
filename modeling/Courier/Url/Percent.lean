import Courier.Hex
import Courier.Utf8

/-!
# Percent-encoding

A character that a part of a URL cannot hold is written as its UTF-8 bytes, each as a percent sign
and two upper-case hexadecimal digits. Each part has its own set of such characters.
-/

namespace Courier.Url

/-- A set of characters that are encoded. -/
abbrev EncodeSet := Char → Bool

/-- Controls and everything beyond ASCII. -/
def controlSet : EncodeSet := fun c => c.toNat < 0x20 || 0x7E < c.toNat

/-- What is encoded behind a number sign. -/
def fragmentSet : EncodeSet := fun c => controlSet c || " \"<>\x60".toList.contains c

/-- What is encoded behind a question mark. -/
def querySet : EncodeSet := fun c => controlSet c || " \"#<>".toList.contains c

/-- What is encoded behind a question mark where the scheme is special. -/
def specialQuerySet : EncodeSet := fun c => querySet c || c == '\''

/-- What is encoded in a segment of a path. -/
def pathSet : EncodeSet := fun c => querySet c || "?\x60\x7b\x7d".toList.contains c

/-- What is encoded in a name or a password. -/
def userinfoSet : EncodeSet := fun c => pathSet c || "/:;=@[\\]^|".toList.contains c

/-- One byte behind a percent sign. -/
def encodeByte (b : UInt8) : List Char :=
  ['%', Hex.upperDigit (b.toNat / 16), Hex.upperDigit (b.toNat % 16)]

/-- A text with the characters of a set encoded. -/
def percentEncode (set : EncodeSet) (s : List Char) : List Char :=
  s.flatMap fun c => if set c then (Utf8.encode [c]).flatMap encodeByte else [c]

/-- The bytes of a text in which bytes may be encoded. -/
def percentDecode : List Char → Bytes
  | [] => []
  | '%' :: a :: b :: rest =>
    match Hex.digitValue? a, Hex.digitValue? b with
    | some high, some low => UInt8.ofNat (16 * high + low) :: percentDecode rest
    | _, _ => Utf8.encode ['%'] ++ percentDecode (a :: b :: rest)
  | c :: rest => Utf8.encode [c] ++ percentDecode rest

end Courier.Url
