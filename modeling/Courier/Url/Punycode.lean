/-!
# Punycode

Labels of host names that hold characters beyond ASCII are written with ASCII only: the ASCII
characters first, then for each other character, in rising order of their numbers, how far to count
to its place. Counts are numerals of variable length whose digits have thresholds that follow the
counts before (`adapt`).

`encode` writes a label, `decode?` reads one.
-/

namespace Courier.Url.Punycode

/-! ## 1. Numerals -/

/-- The digit of a number below 36. -/
def digit (n : Nat) : Char := Char.ofNat (if n < 26 then 97 + n else 22 + n)

/-- The number of a digit of either case. -/
def digitValue? (c : Char) : Option Nat :=
  let n := c.toNat
  if 97 ≤ n ∧ n ≤ 122 then some (n - 97)
  else if 65 ≤ n ∧ n ≤ 90 then some (n - 65)
  else if 48 ≤ n ∧ n ≤ 57 then some (n - 22)
  else none

/-- Scales a count down for the next threshold. -/
def scale (count k : Nat) : Nat :=
  if 455 < count then scale (count / 35) (k + 36) else k + 36 * count / (count + 38)
termination_by count
decreasing_by omega

/-- The bias that follows a count. -/
def adapt (count points : Nat) (first : Bool) : Nat :=
  let count := if first then count / 700 else count / 2
  scale (count + count / points) 0

/-- The threshold of the digit with weight `k`. -/
def threshold (k bias : Nat) : Nat := min 26 (max 1 (k - bias))

/-- The digits of a count; `fuel` bounds their number. -/
def numeral (bias : Nat) : (fuel k q : Nat) → List Char
  | 0, _, _ => []
  | fuel + 1, k, q =>
    let t := threshold k bias
    if q < t then [digit q]
    else digit (t + (q - t) % (36 - t)) :: numeral bias fuel (k + 36) ((q - t) / (36 - t))

/-! ## 2. Writing -/

/-- Where the writing of a label stands. -/
structure Progress where
  /-- The count since the last character that was written. -/
  count : Nat
  /-- The bias for the next count. -/
  bias : Nat
  /-- How many characters have been dealt with. -/
  handled : Nat
  /-- What was written. -/
  written : List Char

/-- Writes the places of the character `n` in a label; `basics` is the number of ASCII ones. -/
def place (basics n : Nat) (p : Progress) (c : Nat) : Progress :=
  if c < n then { p with count := p.count + 1 }
  else if c = n then
    { count := 0
      bias := adapt p.count (p.handled + 1) (p.handled = basics)
      handled := p.handled + 1
      written := p.written ++ numeral p.bias (p.count + 1) 36 p.count }
  else p

/-- The numbers of the characters beyond ASCII, each once, in rising order. -/
def beyond (label : List Nat) : List Nat :=
  ((label.filter (128 ≤ ·)).mergeSort (· ≤ ·)).eraseDups

/-- Writes the characters `ns`, in rising order; `last` is the one before them. -/
def writeFrom (label : List Nat) (basics : Nat) :
    (last : Nat) → List Nat → Progress → Progress
  | _, [], p => p
  | last, n :: ns, p =>
    let p := { p with count := p.count + (n - last) * (p.handled + 1) }
    let p := label.foldl (place basics n) p
    writeFrom label basics (n + 1) ns { p with count := p.count + 1 }

/-- The mark in front of labels in Punycode. -/
def mark : List Char := "xn--".toList

/-- A label in ASCII, with the mark of such labels in front. -/
def encode (label : List Char) : List Char :=
  let basic := label.filter fun c => c.toNat < 128
  let numbers := label.map Char.toNat
  let start : Progress :=
    { count := 0
      bias := 72
      handled := basic.length
      written := if basic.isEmpty then [] else basic ++ ['-'] }
  mark ++ (writeFrom numbers basic.length 128 (beyond numbers) start).written

/-! ## 3. Reading -/

/-- Where the reading of a label stands. -/
structure Cursor where
  /-- The characters that have places, in order. -/
  placed : List Char
  /-- The number of the last character that got its place. -/
  last : Nat
  /-- The place behind that character. -/
  start : Nat
  /-- The bias for the present count. -/
  bias : Nat
  /-- The place to which the digits of the present count have come. -/
  place : Nat
  /-- The weight of its next digit. -/
  weight : Nat
  /-- Decides, with the bias, the threshold of that digit. -/
  k : Nat

/-- No character beyond ASCII has its place yet. -/
def Cursor.ofBasic (basic : List Char) : Cursor where
  placed := basic
  last := 128
  start := 0
  bias := 72
  place := 0
  weight := 1
  k := 36

/-- Reads a digit. The last one of a count gives a character its place; counts and weights are words
    of 32 bits. -/
def Cursor.digit? (p : Cursor) (c : Char) : Option Cursor := do
  let d ← digitValue? c
  let place := p.place + d * p.weight
  let t := threshold p.k p.bias
  if 0x100000000 ≤ place then none
  else if t ≤ d then
    let weight := p.weight * (36 - t)
    if weight < 0x100000000 then some { p with place, weight, k := p.k + 36 } else none
  else
    let length := p.placed.length + 1
    let last := p.last + place / length
    if last.isValidChar then
      some
        { placed := p.placed.insertIdx (place % length) (Char.ofNat last)
          last := last
          start := place % length + 1
          bias := adapt (place - p.start) length (p.start = 0)
          place := place % length + 1
          weight := 1
          k := 36 }
    else none

/-- The longest label that is read. -/
def maxLength : Nat := 2000

/-- The label that a text behind the mark denotes. It has a character beyond ASCII at least; a
    hyphen separates the ASCII ones, if there are any, from the counts. -/
def decode? (s : List Char) : Option (List Char) :=
  let counts := (s.reverse.takeWhile (· != '-')).reverse
  let basic := s.take (s.length - counts.length - 1)
  if maxLength < s.length ∨ counts.isEmpty ∨ s.length = counts.length + 1 then none
  else if basic.any fun c => 128 ≤ c.toNat then none
  else
    match counts.foldlM Cursor.digit? (.ofBasic basic) with
    | some p => if p.weight = 1 ∧ p.k = 36 then some p.placed else none
    | none => none

end Courier.Url.Punycode
