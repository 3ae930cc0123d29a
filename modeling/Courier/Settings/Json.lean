import Courier.Json.Reader
import Courier.Settings

/-!
# Settings as JSON

Settings are written as one compact object with all seven fields in order. They are read from an
object or a list:

* in an object, members in any order replace the defaults, members with other names are passed
  over, and a field given twice is refused;
* in a list, the values stand for the fields in order and may end early;
* a value of the wrong sort or out of its range is refused, and so is a member whose name is no
  text.
-/

namespace Courier.Settings

/-! ## 1. Writing -/

/-- The value of a field, as it is written. -/
def fieldJson (s : Settings) : Field → List Char
  | .failOnHttpError => (boolText s.failOnHttpError).toList
  | .maxRetries => Decimal.digits s.maxRetries.toNat
  | .timeoutMs => Decimal.digits s.timeoutMs.toNat
  | .retryBackoffMs => Decimal.digits s.retryBackoffMs.toNat
  | .maxBackoffMs => Decimal.digits s.maxBackoffMs.toNat
  | .postContentType => Json.literal s.postContentType
  | .maxParallel => Decimal.digits s.maxParallel.toNat

/-- A member of the object that settings are written as. -/
def memberJson (s : Settings) (f : Field) : List Char :=
  Json.literal f.key ++ ':' :: s.fieldJson f

/-- Settings as a compact object. -/
def toJson (s : Settings) : String :=
  String.ofList
    ('\x7b' :: List.intercalate [','] (Field.all.map s.memberJson) ++ ['\x7d'])

/-! ## 2. Reading -/

/-- Puts a value into a field, if it is of the sort and in the range of the field. -/
def put? (s : Settings) (f : Field) (value : Json) : Option Settings :=
  match f with
  | .failOnHttpError => value.bool?.map fun b => { s with failOnHttpError := b }
  | .maxRetries =>
    (value.natural? (UInt32.size - 1)).map fun n => { s with maxRetries := UInt32.ofNat n }
  | .timeoutMs =>
    (value.natural? (UInt64.size - 1)).map fun n => { s with timeoutMs := UInt64.ofNat n }
  | .retryBackoffMs =>
    (value.natural? (UInt64.size - 1)).map fun n => { s with retryBackoffMs := UInt64.ofNat n }
  | .maxBackoffMs =>
    (value.natural? (UInt64.size - 1)).map fun n => { s with maxBackoffMs := UInt64.ofNat n }
  | .postContentType => value.text?.map fun t => { s with postContentType := t }
  | .maxParallel =>
    (value.natural? (UInt64.size - 1)).map fun n => { s with maxParallel := UInt64.ofNat n }

/-- Puts the members of an object into settings; `seen` holds the fields put before. -/
def putMembers (seen : List Field) (s : Settings) : List (Json.Literal × Json) → Option Settings
  | [] => some s
  | (key, value) :: rest =>
    match key.text? with
    | none => none
    | some name =>
      match Field.ofKey? name with
      | none => putMembers seen s rest
      | some f =>
        if f ∈ seen then none
        else
          match s.put? f value with
          | none => none
          | some s => putMembers (f :: seen) s rest

/-- Puts the items of a list into the given fields, in order. -/
def putItems (s : Settings) : List Field → List Json → Option Settings
  | _, [] => some s
  | [], _ :: _ => none
  | f :: fields, value :: rest =>
    match s.put? f value with
    | none => none
    | some s => putItems s fields rest

/-- The settings that a value denotes. -/
def ofValue? : Json → Option Settings
  | .object members => putMembers [] {} members
  | .list items => putItems {} Field.all items
  | _ => none

/-- The settings that a JSON text denotes. -/
def ofJson? (text : String) : Option Settings := (Json.read? text).bind ofValue?

end Courier.Settings
