import Courier.Fault
import Courier.Status

/-!
# Failures of operations

What an operation reports in place of its result. A failure holds causes, and `message` has the
wording of all of them; `status?` looks for a status through the layers of group members, and
`chain` walks from a failure to what lies beneath it. Failures nest: a member wraps one, and a
group gathers any number, each with its index.
-/

namespace Courier

/-! ## 1. Causes -/

/-- Why copying a body stopped. -/
inductive ReadCause
  /-- The place written to refused, with this report. -/
  | writing (report : String)
  /-- The body broke off. -/
  | body (fault : Fault)
  deriving DecidableEq, Repr

/-- What an operation reports in place of its result. -/
inductive Failure
  /-- No response came. -/
  | transport (url : String) (fault : Fault)
  /-- The response has a status outside the two hundreds, and that matters here. -/
  | http (status : Status) (url : String)
  /-- The body could not be copied. -/
  | read (url : String) (cause : ReadCause)
  /-- A group has not as many payloads as URLs. -/
  | mismatchedPayloads (urls payloads : Nat)
  /-- A group has no writer for the response with this index. -/
  | noWriter (index : Nat)
  /-- The response with this index could not be used. -/
  | member (index : Nat) (inner : Failure)
  /-- The task of the request with this index ended without an outcome. -/
  | taskFailed (index : Nat) (report : String)
  /-- All failures of a group, with their indexes. -/
  | group (members : List (Nat × Failure))
  /-- A body is not the text that it should be. -/
  | decode (report : String)
  /-- A setting cannot be used. -/
  | config (report : String)

/-! ## 2. Wording -/

/-- The wording of a reading cause. -/
def ReadCause.message : ReadCause → String
  | .writing report => report
  | .body fault => fault.message

mutual

/-- The wording of a failure. -/
def Failure.message : Failure → String
  | .transport url fault => "sending request to " ++ url ++ ": " ++ fault.message
  | .http status url => "HTTP error " ++ status.text ++ " for " ++ url
  | .read url cause => "reading response from " ++ url ++ ": " ++ cause.message
  | .mismatchedPayloads urls payloads =>
    "unable to perform requests, same number of URLs and POST payloads required (got " ++
      Decimal.text urls ++ " URLs and " ++ Decimal.text payloads ++ " payloads)"
  | .noWriter index => "request " ++ Decimal.text index ++ " has no writer defined"
  | .member index inner => "group response #" ++ Decimal.text index ++ ": " ++ inner.message
  | .taskFailed index report => "request task " ++ Decimal.text index ++ " failed: " ++ report
  | .group members =>
    Decimal.text members.length ++ " of the group requests failed: " ++
      String.intercalate "; " (Failure.entryTexts members)
  | .decode report => "decode error: " ++ report
  | .config report => "configuration error: " ++ report

/-- The wording of each entry of a group. -/
def Failure.entryTexts : List (Nat × Failure) → List String
  | [] => []
  | entry :: rest => Failure.entryText entry :: Failure.entryTexts rest

/-- The wording of one entry of a group. -/
def Failure.entryText : Nat × Failure → String
  | (index, inner) => "#" ++ Decimal.text index ++ ": " ++ inner.message

end

theorem Failure.entryTexts_eq_map (members : List (Nat × Failure)) :
    Failure.entryTexts members = members.map Failure.entryText := by
  induction members with
  | nil => rfl
  | cons entry rest ih => rw [Failure.entryTexts, ih, List.map_cons]

/-! ## 3. Looking into failures -/

/-- The status behind a failure, looked for through members only. -/
def Failure.status? : Failure → Option Status
  | .http status _ => some status
  | .member _ inner => inner.status?
  | _ => none

/-- The texts below a reading cause. -/
def ReadCause.chain : ReadCause → List String
  | .writing _ => []
  | .body fault => fault.cause.toList

/-- The wording of everything beneath a failure, from the nearest to the deepest. A group has
    nothing beneath it: its entries stand in its own wording. -/
def Failure.chain : Failure → List String
  | .transport _ fault => fault.message :: fault.cause.toList
  | .read _ cause => cause.message :: cause.chain
  | .member _ inner => inner.message :: inner.chain
  | _ => []

end Courier
