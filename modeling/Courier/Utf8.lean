import Courier.Decimal

/-!
# UTF-8

The byte form of a text and its strict reader. A sequence is malformed where no character's form
can begin with its bytes: overlong forms, surrogates, values above U+10FFFF and stray bytes are
refused. The reader tells where the malformed sequence starts and how many of its bytes belong to
it; where the bytes end inside a form that more bytes could complete, that number is missing.
-/

namespace Courier

/-- A sequence of bytes. -/
abbrev Bytes := List UInt8

namespace Utf8

/-! ## 1. Writing -/

/-- The bytes of a text. -/
def encode (s : List Char) : Bytes := s.flatMap String.utf8EncodeChar

/-! ## 2. Reading -/

/-- Where bytes stop being a text. -/
structure Malformed where
  /-- The index of the first byte of the malformed sequence. -/
  index : Nat
  /-- How many bytes are wrong, or `none` where the bytes end too early. -/
  width : Option Nat
  deriving DecidableEq, Repr

/-- The wording of a malformed sequence. -/
def Malformed.message (m : Malformed) : String :=
  match m.width with
  | some k =>
    "invalid utf-8 sequence of " ++ Decimal.text k ++ " bytes from index " ++ Decimal.text m.index
  | none => "incomplete utf-8 byte sequence from index " ++ Decimal.text m.index

/-- A byte that continues a form. -/
def isTail (b : UInt8) : Bool := 0x80 ≤ b && b ≤ 0xBF

/-- The second bytes that may follow the first byte of a three-byte form. -/
def isSecondOfThree (a b : UInt8) : Bool :=
  if a = 0xE0 then 0xA0 ≤ b && b ≤ 0xBF
  else if a = 0xED then 0x80 ≤ b && b ≤ 0x9F
  else isTail b

/-- The second bytes that may follow the first byte of a four-byte form. -/
def isSecondOfFour (a b : UInt8) : Bool :=
  if a = 0xF0 then 0x90 ≤ b && b ≤ 0xBF
  else if a = 0xF4 then 0x80 ≤ b && b ≤ 0x8F
  else isTail b

/-- The low six bits of a continuing byte. -/
def tailBits (b : UInt8) : Nat := b.toNat % 64

/-- Reads characters to the end; `i` bytes stand before. -/
def decodeFrom (i : Nat) : Bytes → Except Malformed (List Char)
  | [] => .ok []
  | a :: rest =>
    if a < 0x80 then
      (decodeFrom (i + 1) rest).map (Char.ofNat a.toNat :: ·)
    else if 0xC2 ≤ a ∧ a ≤ 0xDF then
      match rest with
      | [] => .error ⟨i, none⟩
      | b :: rest =>
        if isTail b then
          (decodeFrom (i + 2) rest).map (Char.ofNat ((a.toNat % 32) * 64 + tailBits b) :: ·)
        else .error ⟨i, some 1⟩
    else if 0xE0 ≤ a ∧ a ≤ 0xEF then
      match rest with
      | [] => .error ⟨i, none⟩
      | b :: rest =>
        if isSecondOfThree a b then
          match rest with
          | [] => .error ⟨i, none⟩
          | c :: rest =>
            if isTail c then
              (decodeFrom (i + 3) rest).map
                (Char.ofNat ((a.toNat % 16) * 4096 + tailBits b * 64 + tailBits c) :: ·)
            else .error ⟨i, some 2⟩
        else .error ⟨i, some 1⟩
    else if 0xF0 ≤ a ∧ a ≤ 0xF4 then
      match rest with
      | [] => .error ⟨i, none⟩
      | b :: rest =>
        if isSecondOfFour a b then
          match rest with
          | [] => .error ⟨i, none⟩
          | c :: rest =>
            if isTail c then
              match rest with
              | [] => .error ⟨i, none⟩
              | d :: rest =>
                if isTail d then
                  (decodeFrom (i + 4) rest).map
                    (Char.ofNat ((a.toNat % 8) * 262144 + tailBits b * 4096 + tailBits c * 64 +
                      tailBits d) :: ·)
                else .error ⟨i, some 3⟩
            else .error ⟨i, some 2⟩
        else .error ⟨i, some 1⟩
    else .error ⟨i, some 1⟩

/-- The text that bytes denote, or where they stop being one. -/
def decode (bytes : Bytes) : Except Malformed String := (decodeFrom 0 bytes).map String.ofList

/-- The text that bytes denote, if they are one. -/
def decode? (bytes : Bytes) : Option String :=
  match decode bytes with
  | .ok s => some s
  | .error _ => none

end Utf8

/-- The bytes of a text. -/
def Bytes.ofText (s : String) : Bytes := Utf8.encode s.toList

end Courier
