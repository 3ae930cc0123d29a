import Courier.Text.Marks
import Courier.Text.Printable

/-!
# Characters of later date

The tables of `Courier.Text` are those of Unicode 17. Names know the characters of Unicode 18 as
well, which are given here by what they are: letters that run to the right or to the left, signs,
and marks. Some marks have a place of their own since.
-/

namespace Courier.Url.Domain

/-- The added letters of scripts that run to the right, and the signs that go with them. -/
def addedRightwards : List (Nat × Nat) :=
  [(0x11B0A, 0x11B0A), (0x11DF1, 0x11DF1), (0x1246F, 0x1246F), (0x12475, 0x1247F),
   (0x12550, 0x12686), (0x18CD6, 0x18CFE), (0x18D1F, 0x18D20), (0x18E00, 0x19191),
   (0x191A0, 0x191D2), (0x1B127, 0x1B128), (0x1B168, 0x1B168), (0x1D1EB, 0x1D1FF),
   (0x1D253, 0x1D259), (0x1D25D, 0x1D25E), (0x1D260, 0x1D28F), (0x1DF1F, 0x1DF24),
   (0x1DF2B, 0x1DF81), (0x1DF90, 0x1DF96), (0x1F1AE, 0x1F1AE), (0x1F7DA, 0x1F7DA),
   (0x2B81E, 0x2B81E), (0x3D000, 0x3FC3F)]

/-- The added letters of scripts that run to the left. -/
def addedLeftwards : List (Nat × Nat) := [(0x10EC9, 0x10ECA), (0x10ED9, 0x10EEE)]

/-- The added signs between letters or numbers. -/
def addedSigns : List (Nat × Nat) :=
  [(0x208F, 0x208F), (0x20C2, 0x20C4), (0x2E60, 0x2E63), (0x1CED2, 0x1CED9), (0x1CEDD, 0x1CEDF),
   (0x1CEF1, 0x1CEFD), (0x1DB00, 0x1DB1C), (0x1F6D9, 0x1F6D9), (0x1F7DB, 0x1F7DB),
   (0x1F7F1, 0x1F7FF), (0x1FA8B, 0x1FA8D), (0x1FACC, 0x1FACC), (0x1FADD, 0x1FADD),
   (0x1FAEB, 0x1FAEB), (0x1FAF9, 0x1FAFA)]

/-- The added marks without a place of their own. -/
def addedNonspacing : List (Nat × Nat) :=
  [(0x5C8, 0x5C9), (0xB53, 0xB54), (0x1ADE, 0x1ADF), (0x1AEC, 0x1AF0), (0x10ECB, 0x10ECF),
   (0x10EF0, 0x10EF9), (0x11DF0, 0x11DF0), (0x1D127, 0x1D128), (0x1D25B, 0x1D25C)]

/-- The added marks with a place of their own. -/
def addedSpacing : List (Nat × Nat) :=
  [(0x1D250, 0x1D252), (0x1D25A, 0x1D25A), (0x1D25F, 0x1D25F)]

/-- The marks that have a place of their own since. -/
def respaced : List Char := ['\u1b3a', '\u1b3c', '\u1b42']

/-- Whether a character is an added one. -/
def isAdded (c : Char) : Bool :=
  let n := c.toNat
  Text.inRanges n addedRightwards || Text.inRanges n addedLeftwards ||
    Text.inRanges n addedSigns || Text.inRanges n addedNonspacing ||
    Text.inRanges n addedSpacing

/-- Whether a character is a mark without a place of its own. -/
def isNonspacing (c : Char) : Bool :=
  (Text.isNonspacing c && !respaced.contains c) || Text.inRanges c.toNat addedNonspacing

/-- Whether a character is a mark. -/
def isMark (c : Char) : Bool :=
  Text.isMark c || Text.inRanges c.toNat addedNonspacing || Text.inRanges c.toNat addedSpacing

/-- Whether a character has a shape or is a mark of one. -/
def isShaped (c : Char) : Bool := !Text.isUnprintable c || isAdded c

end Courier.Url.Domain
