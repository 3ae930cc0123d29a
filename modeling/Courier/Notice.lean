import Courier.Fault
import Courier.Request
import Courier.Span
import Courier.Status

/-!
# Notices

What the agent reports about its work while it runs. A notice holds what happened; `line` words it.
-/

namespace Courier

/-- How much a notice matters. -/
inductive Notice.Level
  | debug
  | warn
  deriving DecidableEq, Repr

/-- What went wrong with an attempt that is followed by another. -/
inductive Setback
  /-- The response has this status. -/
  | status (status : Status)
  /-- There was no response. -/
  | fault (fault : Fault)
  deriving DecidableEq, Repr

/-- One report of the agent. -/
inductive Notice
  /-- A request goes out. -/
  | sending (method : Method) (url : String)
  /-- Attempt number `attempt` of `budget` met with a setback; the next one follows after `wait`. -/
  | retrying (method : Method) (url : String) (setback : Setback) (attempt budget : UInt32)
      (wait : Span)
  /-- A response was read whose status is outside the two hundreds, and that does not matter. -/
  | statusIgnored (status : Status) (url : String)
  /-- A group of requests goes out. -/
  | dispatching (requests : Nat) (parallel : UInt64)
  deriving DecidableEq, Repr

namespace Notice

/-- How much a notice matters. -/
def level : Notice → Level
  | .sending .. | .dispatching .. => .debug
  | .retrying .. | .statusIgnored .. => .warn

/-- The number of attempts left and the wait before the next one. -/
def outlook (attempt budget : UInt32) (wait : Span) : String :=
  "retrying " ++ Decimal.text (budget - attempt).toNat ++ " more times after " ++ wait.text

/-- The attempt's number within the budget. -/
def ordinal (attempt budget : UInt32) : String :=
  "(attempt " ++ Decimal.text attempt.toNat ++ "/" ++ Decimal.text budget.toNat ++ ")"

/-- The wording of a notice. -/
def message : Notice → String
  | .sending method url => "sending " ++ method.text ++ " request to " ++ url
  | .retrying method url (.status status) attempt budget wait =>
    method.text ++ " " ++ url ++ " returned " ++ status.text ++ " " ++ ordinal attempt budget ++
      ", " ++ outlook attempt budget wait
  | .retrying method url (.fault fault) attempt budget wait =>
    method.text ++ " " ++ url ++ " failed " ++ ordinal attempt budget ++ ": " ++ fault.message ++
      ", " ++ outlook attempt budget wait
  | .statusIgnored status url =>
    "got HTTP error " ++ status.text ++ " for " ++ url ++ " but fail_on_http_error is not set"
  | .dispatching requests parallel =>
    "dispatching " ++ Decimal.text requests ++ " requests, at most " ++
      Decimal.text parallel.toNat ++ " in parallel"

/-- The name of a level. -/
def Level.text : Level → String
  | .debug => "DEBUG"
  | .warn => "WARN"

/-- A notice as one line: the level, then the wording. -/
def line (n : Notice) : String := n.level.text ++ " " ++ n.message

end Notice

end Courier
