import Courier.Json

/-!
# Reading JSON

A reader of the JSON grammar over a list of characters. Each part gives what it read and the
characters after it, or `none`. Blanks are the space, the tab, the line feed and the carriage
return. A text holds one value and nothing after it but blanks.
-/

namespace Courier.Json

/-! ## 1. Blanks and digits -/

/-- The blanks of the grammar. -/
def isBlank (c : Char) : Bool := c = ' ' || c = '\t' || c = '\n' || c = '\r'

/-- The characters from the first that is not blank. -/
def skipBlank (s : List Char) : List Char := s.dropWhile isBlank

/-- Whether a character is one of the ten digits. -/
def isDigit (c : Char) : Bool := (Decimal.digitValue? c).isSome

/-! ## 2. Numbers -/

/-- Reads digits, one at least. -/
def readDigits (s : List Char) : Option (List Char × List Char) :=
  match s.takeWhile isDigit with
  | [] => none
  | c :: digits => some (c :: digits, s.dropWhile isDigit)

/-- Reads the digits before the point: no zero stands in front of another digit. -/
def readWhole (s : List Char) : Option (List Char × List Char) :=
  match readDigits s with
  | some ('0' :: _ :: _, _) => none
  | other => other

/-- Reads a point and digits, if a point is there. -/
def readFraction (s : List Char) : Option (List Char × List Char) :=
  match s with
  | '.' :: rest => (readDigits rest).map fun r => ('.' :: r.1, r.2)
  | _ => some ([], s)

/-- Reads the sign of an exponent, if one is there. -/
def readSign (s : List Char) : List Char × List Char :=
  match s with
  | '+' :: rest => (['+'], rest)
  | '-' :: rest => (['-'], rest)
  | _ => ([], s)

/-- Reads an exponent, if one is there. -/
def readExponent (s : List Char) : Option (List Char × List Char) :=
  match s with
  | c :: rest =>
    if c = 'e' ∨ c = 'E' then
      let sign := readSign rest
      (readDigits sign.2).map fun r => (c :: sign.1 ++ r.1, r.2)
    else some ([], s)
  | [] => some ([], s)

/-- Reads a number without its sign. -/
def readUnsigned (s : List Char) : Option (List Char × List Char) :=
  match readWhole s with
  | none => none
  | some (whole, rest) =>
    match readFraction rest with
    | none => none
    | some (fraction, rest) =>
      (readExponent rest).map fun r => (whole ++ fraction ++ r.1, r.2)

/-- Reads a number. -/
def readNumber (s : List Char) : Option (List Char × List Char) :=
  match s with
  | '-' :: rest => (readUnsigned rest).map fun r => ('-' :: r.1, r.2)
  | _ => readUnsigned s

/-! ## 3. String literals -/

/-- One step of a literal: a character that stands for itself or has an escape of one letter, or a
    number of sixteen bits from an escape of four digits. -/
inductive Mark
  | char (c : Char)
  | unit (n : Nat)
  deriving DecidableEq, Repr

/-- The characters that an escape of one letter denotes. -/
def escaped? (c : Char) : Option Char :=
  if c = '"' then some '"'
  else if c = '\\' then some '\\'
  else if c = '/' then some '/'
  else if c = 'b' then some '\x08'
  else if c = 'f' then some '\x0c'
  else if c = 'n' then some '\n'
  else if c = 'r' then some '\r'
  else if c = 't' then some '\t'
  else none

/-- Reads the marks of a literal up to its closing quote. -/
def readMarks : List Char → Option (List Mark × List Char)
  | [] => none
  | c :: rest =>
    if c = '"' then some ([], rest)
    else if c = '\\' then
      match rest with
      | 'u' :: h₁ :: h₂ :: h₃ :: h₄ :: rest =>
        match Hex.fourDigits? h₁ h₂ h₃ h₄ with
        | none => none
        | some n => (readMarks rest).map fun r => (.unit n :: r.1, r.2)
      | e :: rest =>
        match escaped? e with
        | none => none
        | some c => (readMarks rest).map fun r => (.char c :: r.1, r.2)
      | [] => none
    else if c.toNat < 32 then none
    else (readMarks rest).map fun r => (.char c :: r.1, r.2)

/-- Whether a number is a surrogate that begins a pair. -/
def isHigh (n : Nat) : Bool := 0xD800 ≤ n && n ≤ 0xDBFF

/-- Whether a number is a surrogate that ends a pair. -/
def isLow (n : Nat) : Bool := 0xDC00 ≤ n && n ≤ 0xDFFF

/-- The character of a pair of surrogates. -/
def paired (high low : Nat) : Char :=
  Char.ofNat (0x10000 + (high - 0xD800) * 0x400 + (low - 0xDC00))

/-- The characters of the marks: a pair of surrogates is one character, a surrogate without its
    partner none. -/
def join : List Mark → Literal
  | [] => []
  | .char c :: rest => some c :: join rest
  | .unit n :: .unit m :: rest =>
    if isHigh n && isLow m then some (paired n m) :: join rest
    else if isHigh n || isLow n then none :: join (.unit m :: rest)
    else some (Char.ofNat n) :: join (.unit m :: rest)
  | .unit n :: rest =>
    if isHigh n || isLow n then none :: join rest else some (Char.ofNat n) :: join rest

/-- Reads a literal from behind its opening quote. -/
def readLiteral (s : List Char) : Option (Literal × List Char) :=
  (readMarks s).map fun r => (join r.1, r.2)

/-! ## 4. Values -/

mutual

/-- Reads a value, blanks in front of it skipped. -/
def readValue : Nat → List Char → Option (Json × List Char)
  | 0, _ => none
  | fuel + 1, s =>
    match skipBlank s with
    | 'n' :: 'u' :: 'l' :: 'l' :: rest => some (.null, rest)
    | 't' :: 'r' :: 'u' :: 'e' :: rest => some (.bool true, rest)
    | 'f' :: 'a' :: 'l' :: 's' :: 'e' :: rest => some (.bool false, rest)
    | '"' :: rest => (readLiteral rest).map fun r => (.string r.1, r.2)
    | '[' :: rest =>
      match skipBlank rest with
      | ']' :: rest => some (.list [], rest)
      | rest => (readItems fuel rest).map fun r => (.list r.1, r.2)
    | '\x7b' :: rest =>
      match skipBlank rest with
      | '\x7d' :: rest => some (.object [], rest)
      | rest => (readMembers fuel rest).map fun r => (.object r.1, r.2)
    | rest => (readNumber rest).map fun r => (.number r.1, r.2)

/-- Reads the items of a list, one at least, and its closing bracket. -/
def readItems : Nat → List Char → Option (List Json × List Char)
  | 0, _ => none
  | fuel + 1, s =>
    match readValue fuel s with
    | none => none
    | some (item, rest) =>
      match skipBlank rest with
      | ']' :: rest => some ([item], rest)
      | ',' :: rest => (readItems fuel rest).map fun r => (item :: r.1, r.2)
      | _ => none

/-- Reads the members of an object, one at least, and its closing brace. -/
def readMembers : Nat → List Char → Option (List (Literal × Json) × List Char)
  | 0, _ => none
  | fuel + 1, s =>
    match skipBlank s with
    | '"' :: rest =>
      match readLiteral rest with
      | none => none
      | some (key, rest) =>
        match skipBlank rest with
        | ':' :: rest =>
          match readValue fuel rest with
          | none => none
          | some (value, rest) =>
            match skipBlank rest with
            | '\x7d' :: rest => some ([(key, value)], rest)
            | ',' :: rest => (readMembers fuel rest).map fun r => ((key, value) :: r.1, r.2)
            | _ => none
        | _ => none
    | _ => none

end

/-- The value that a text holds. Two steps of the reader are enough for each character, because
    each bracket is opened by two of them and each separator passed by one. -/
def read? (text : String) : Option Json :=
  let s := text.toList
  match readValue (2 * s.length + 2) s with
  | none => none
  | some (value, rest) => if (skipBlank rest).isEmpty then some value else none

end Courier.Json
