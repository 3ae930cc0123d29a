import Courier.Text.Split
import Courier.Url
import Courier.Url.Percent

/-!
# Segments of paths

A path is read part by part, from what stands between its slashes:

* `.` and `..` are resolved, also where their dots are encoded, but so that no `..` goes up from a
  drive;
* all else is a segment, with the characters encoded that a segment cannot hold.

Tabs and line ends do not count, but for one place. In the path of a file a drive may stand at the
head; it is written with a colon and takes the place of the host. Where a tab or a line end divides
it from more of the same part, the drive is a segment that leaves the host as it is, and what stands
behind it is another one, whatever it says.
-/

namespace Courier.Url

/-! ## 1. Parts -/

/-- Whether a character divides segments. -/
def isSlash (special : Bool) (c : Char) : Bool := c == '/' || (special && c == '\\')

/-- Whether a character is a tab or belongs to the end of a line. -/
def isBreak (c : Char) : Bool := c == '\t' || c == '\n' || c == '\r'

/-- A text without tabs and line ends. -/
def withoutBreaks (s : List Char) : List Char := s.filter fun c => !isBreak c

/-- A part with its encoded dots decoded, to tell `.` and `..`. -/
def withDots : List Char → List Char
  | '%' :: '2' :: 'e' :: rest | '%' :: '2' :: 'E' :: rest => '.' :: withDots rest
  | c :: rest => c :: withDots rest
  | [] => []

/-- The letter of the drive that a part names: it has a colon or a bar, and nothing behind it. -/
def drive? (part : List Char) : Option Char :=
  match part with
  | [c, d] => if c.isAlpha && (d == ':' || d == '|') then some c else none
  | _ => none

/-- Whether a part names a drive. -/
def isDrive (part : List Char) : Bool := (drive? part).isSome

/-- Whether a part begins with a drive. -/
def beginsWithDrive (part : List Char) : Bool :=
  match part with
  | c :: d :: rest => isDrive [c, d] && (rest.isEmpty || rest.head? == some '\\')
  | _ => false

/-- The letter of a drive with its colon that a break divides from more, and what stands behind. -/
def dividedDrive? (part : List Char) : Option (Char × List Char) :=
  match part.dropWhile isBreak with
  | c :: rest =>
    match rest.dropWhile isBreak with
    | ':' :: d :: rest =>
      let behind := withoutBreaks rest
      if c.isAlpha && isBreak d && !behind.isEmpty then some (c, behind) else none
    | _ => none
  | [] => none

/-! ## 2. Paths -/

/-- The segments, in reverse order, without the last one; a drive stays. -/
def shortened (before : List String) : List String :=
  match before with
  | [] => []
  | part :: rest => if beginsWithDrive part.toList then part :: rest else rest

/-- The written form of a segment. -/
def segmentText (part : List Char) : String := String.ofList (percentEncode pathSet part)

/-- Adds a part to the segments before it, which stand in reverse order. Where dots stand last, the
    path ends with a slash. -/
def addPart (before : List String) (isLast : Bool) (part : List Char) : List String :=
  let dots := withDots part
  let closed (before : List String) : List String := if isLast then "" :: before else before
  if dots = ['.', '.'] then closed (shortened before)
  else if dots = ['.'] then closed before
  else segmentText part :: before

/-- Adds all parts of a path to the segments before them, which stand in reverse order. -/
def addParts (before : List String) : List (List Char) → List String
  | [] => before
  | part :: rest => addParts (addPart before rest.isEmpty part) rest

/-- The segments of a path behind its first slash, added to segments of a base. -/
def segments (special : Bool) (base : List String) (s : List Char) : List String :=
  (addParts base.reverse (Text.split (isSlash special) s)).reverse

/-- A path that stands behind an authority; it may lack its first slash. -/
def pathAfterHost (special : Bool) (s : List Char) : Path :=
  match s with
  | [] => .segments (if special then [""] else [])
  | c :: rest => .segments (segments special [] (if isSlash special c then rest else s))

/-! ## 3. Paths of files -/

/-- The path of a file, as far as it is read. -/
structure FilePath where
  /-- The segments, in reverse order. -/
  before : List String := []
  /-- Whether a drive has taken the place of the host. -/
  onDrive : Bool := false

namespace FilePath

/-- The written form of a drive. -/
def driveText (letter : Char) : String := String.ofList [letter, ':']

/-- Adds a part, its breaks included. -/
def add (p : FilePath) (isLast : Bool) (raw : List Char) : FilePath :=
  let part := withoutBreaks raw
  let plain : FilePath := { p with before := addPart p.before isLast part }
  match p.before, dividedDrive? raw, drive? part with
  | [], some (letter, behind), _ => { p with before := [segmentText behind, driveText letter] }
  | [], none, some letter => { before := [driveText letter], onDrive := true }
  | _, _, _ => plain

/-- Adds all parts. -/
def addAll (p : FilePath) : List (List Char) → FilePath
  | [] => p
  | raw :: rest => (p.add rest.isEmpty raw).addAll rest

/-- The path. Empty segments at its head do not count. -/
def path (p : FilePath) : Path :=
  let kept := p.before.reverse.dropWhile (· == "")
  .segments (if kept.isEmpty then [""] else kept)

end FilePath

end Courier.Url
