/-!
# Blank characters

The characters with the Unicode property White_Space, and trimming by them. A zero-width space
(U+200B) and a byte order mark (U+FEFF) are not blank.
-/

namespace Courier.Text

/-- Whether a character has the property White_Space. -/
def isBlank (c : Char) : Bool :=
  let n := c.toNat
  (9 ≤ n && n ≤ 13) || n == 0x20 || n == 0x85 || n == 0xA0 || n == 0x1680 ||
    (0x2000 ≤ n && n ≤ 0x200A) || n == 0x2028 || n == 0x2029 || n == 0x202F || n == 0x205F ||
    n == 0x3000

/-- A text without the blank characters at its two ends. -/
def trimmed (s : List Char) : List Char :=
  ((s.dropWhile isBlank).reverse.dropWhile isBlank).reverse

/-- A text without the blank characters at its two ends. -/
def trim (s : String) : String := String.ofList (trimmed s.toList)

end Courier.Text
