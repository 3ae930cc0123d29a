import Courier.Decimal
import Courier.Hex
import Courier.Text.Split
import Courier.Url.Domain
import Courier.Url.Percent

/-!
# Hosts

The host of a URL is a name, four bytes in numerals, or eight groups of sixteen bits in brackets.

* A name is written in its form in ASCII.
* A name whose last label is a numeral is an address of four bytes. A numeral may be decimal, octal
  behind a zero or hexadecimal behind `0x`; fewer than four let the last one fill the rest.
* In brackets the longest run of two or more zero groups, the first of equals, is left out.
-/

namespace Courier.Url

/-! ## 1. Addresses of four bytes -/

/-- The value of one numeral of an address. -/
def addressNumeral? (s : List Char) : Option Nat :=
  match s with
  | [] => none
  | '0' :: 'x' :: rest | '0' :: 'X' :: rest => Hex.numeral? 16 rest
  | '0' :: c :: rest => Hex.numeral? 8 (c :: rest)
  | s => Hex.numeral? 10 s

/-- Whether a label makes its name an address of four bytes. -/
def endsAddress (label : List Char) : Bool :=
  (!label.isEmpty && label.all Char.isDigit) ||
    match label with
    | '0' :: 'x' :: rest | '0' :: 'X' :: rest => rest.all fun c => (Hex.digitValue? c).isSome
    | _ => false

/-- The number of an address of four bytes, from the numerals of its parts. -/
def addressValue? (parts : List Nat) : Option Nat :=
  match parts with
  | [a] => if a < 0x100000000 then some a else none
  | [a, b] => if a < 256 ∧ b < 0x1000000 then some (a * 0x1000000 + b) else none
  | [a, b, c] =>
    if a < 256 ∧ b < 256 ∧ c < 0x10000 then some (a * 0x1000000 + b * 0x10000 + c) else none
  | [a, b, c, d] =>
    if a < 256 ∧ b < 256 ∧ c < 256 ∧ d < 256 then
      some (a * 0x1000000 + b * 0x10000 + c * 0x100 + d)
    else none
  | _ => none

/-- The written form of an address of four bytes. -/
def addressText (n : Nat) : String :=
  String.intercalate "."
    ([n / 0x1000000, n / 0x10000 % 256, n / 0x100 % 256, n % 256].map Decimal.text)

/-- The labels of a name; a dot at the end adds none. -/
def labels (name : List Char) : List (List Char) :=
  let parts := Text.split (· == '.') name
  match parts.reverse with
  | [] :: last :: rest => (last :: rest).reverse
  | _ => parts

/-! ## 2. Addresses of eight groups -/

/-- The groups on one side of a double colon; the last part may be an address of four bytes. -/
def groups? : List (List Char) → Option (List Nat)
  | [] => some []
  | [part] =>
    if part.contains '.' then
      match (Text.split (· == '.') part).mapM byte? with
      | some [a, b, c, d] => some [a * 256 + b, c * 256 + d]
      | _ => none
    else group? part |>.map ([·])
  | part :: rest =>
    match group? part, groups? rest with
    | some g, some gs => some (g :: gs)
    | _, _ => none
where
  /-- A number below 256 without zeros in front. -/
  byte? (part : List Char) : Option Nat :=
    if part.isEmpty ∨ (1 < part.length ∧ part.head? = some '0') then none
    else (Hex.numeral? 10 part).filter (· < 256)
  /-- One group of one to four digits. -/
  group? (part : List Char) : Option Nat :=
    if 1 ≤ part.length ∧ part.length ≤ 4 then Hex.numeral? 16 part else none

/-- The text in front of a double colon and behind it. -/
def splitDouble : List Char → Option (List Char × List Char)
  | ':' :: ':' :: rest => some ([], rest)
  | c :: rest => (splitDouble rest).map fun r => (c :: r.1, r.2)
  | [] => none

/-- The groups of one side; an empty side has none. -/
def side? (s : List Char) : Option (List Nat) :=
  if s.isEmpty then some [] else groups? (Text.split (· == ':') s)

/-- The eight groups of an address in brackets. -/
def eightGroups? (s : List Char) : Option (List Nat) :=
  match splitDouble s with
  | none =>
    match side? s with
    | some gs => if gs.length = 8 then some gs else none
    | none => none
  | some (front, back) =>
    match side? front, side? back with
    | some gs, some hs =>
      if gs.length + hs.length < 8 ∧ ¬ front.contains '.' then
        some (gs ++ List.replicate (8 - gs.length - hs.length) 0 ++ hs)
      else none
    | _, _ => none

/-- The length of the run of zeros at the head. -/
def zeroRun (gs : List Nat) : Nat := (gs.takeWhile (· == 0)).length

/-- The place and length of the longest run of two or more zeros, the first of equals. -/
def longestRun (i : Nat) : List Nat → Option (Nat × Nat)
  | [] => none
  | g :: gs =>
    let here := zeroRun (g :: gs)
    match longestRun (i + 1) gs with
    | some (j, n) => if 2 ≤ here ∧ n ≤ here then some (i, here) else some (j, n)
    | none => if 2 ≤ here then some (i, here) else none

/-- The written form of groups with colons between them. -/
def groupsText (gs : List Nat) : String :=
  String.intercalate ":" (gs.map fun g => String.ofList (Hex.digits g))

/-- The written form of an address in brackets. -/
def bracketText (gs : List Nat) : String :=
  match longestRun 0 gs with
  | none => "[" ++ groupsText gs ++ "]"
  | some (i, n) => "[" ++ groupsText (gs.take i) ++ "::" ++ groupsText (gs.drop (i + n)) ++ "]"

/-! ## 3. Hosts -/

/-- The characters that no host holds. -/
def isForbidden (c : Char) : Bool := c.toNat = 0 || "\t\n\r #/:<>?@[\\]^|".toList.contains c

/-- The characters that no name holds. -/
def isForbiddenInName (c : Char) : Bool :=
  isForbidden c || c.toNat < 0x20 || c = '%' || c.toNat = 0x7F

/-- The host that a name or a numeral denotes. -/
def nameHost? (s : List Char) : Option String := do
  let decoded ← Utf8.decode? (percentDecode s)
  let name ← Domain.toAscii? decoded.toList
  if name.isEmpty || name.any isForbiddenInName then none
  else
    let parts := labels name
    if (parts.getLast?.map endsAddress).getD false then
      ((parts.mapM addressNumeral?).bind addressValue?).map addressText
    else some (String.ofList name)

/-- The host that a text denotes; `special` tells whether its scheme takes names. -/
def host? (special : Bool) (s : List Char) : Option String :=
  match s with
  | '[' :: rest =>
    match rest.reverse with
    | ']' :: inner => (eightGroups? inner.reverse).map bracketText
    | _ => none
  | s =>
    if special then nameHost? s
    else if s.any isForbidden then none
    else some (String.ofList (percentEncode controlSet s))

end Courier.Url
