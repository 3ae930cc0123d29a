import Courier.Decimal
import Courier.Hex

/-!
# JSON values

The values of a JSON text, as far as a reader of settings tells them apart:

* a number is kept as the characters it was written with;
* a string literal is kept as its characters, where an escaped surrogate that has no partner is no
  character. Such a literal is well-formed, but it denotes no text.
-/

namespace Courier

/-- The characters of a string literal; `none` stands for a surrogate without a partner. -/
abbrev Json.Literal := List (Option Char)

/-- A JSON value. -/
inductive Json
  | null
  | bool (value : Bool)
  | number (written : List Char)
  | string (literal : Json.Literal)
  | list (items : List Json)
  | object (members : List (Json.Literal × Json))

namespace Json

/-- The text that a literal denotes, unless it holds a surrogate without a partner. -/
def Literal.text? (l : Literal) : Option String := (l.mapM id).map String.ofList

/-- The number that a value denotes, if it is written with digits only and does not exceed the
    limit. A sign, a fraction or an exponent make it another sort of number. -/
def natural? (limit : Nat) : Json → Option Nat
  | .number written =>
    if written.all (fun c => (Decimal.digitValue? c).isSome) then
      match Decimal.read limit written with
      | .ok n => some n
      | .error _ => none
    else none
  | _ => none

/-- The truth value that a value denotes. -/
def bool? : Json → Option Bool
  | .bool b => some b
  | _ => none

/-- The text that a value denotes. -/
def text? : Json → Option String
  | .string literal => literal.text?
  | _ => none

/-! ## Writing string literals -/

/-- A character inside a literal: quotes, backslashes and controls are escaped, the rest stands for
    itself. -/
def literalChar (c : Char) : List Char :=
  if c = '"' then ['\\', '"']
  else if c = '\\' then ['\\', '\\']
  else if c = '\x08' then ['\\', 'b']
  else if c = '\t' then ['\\', 't']
  else if c = '\n' then ['\\', 'n']
  else if c = '\x0c' then ['\\', 'f']
  else if c = '\r' then ['\\', 'r']
  else if c.toNat < 32 then
    ['\\', 'u', '0', '0', Hex.digit (c.toNat / 16), Hex.digit (c.toNat % 16)]
  else [c]

/-- The literal of a text. -/
def literal (s : String) : List Char := '"' :: s.toList.flatMap literalChar ++ ['"']

end Json

end Courier
