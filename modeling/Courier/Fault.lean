/-!
# Faults of one attempt

What a transport reports when it has no response to give, or when a body breaks off: a kind, a
message and perhaps the cause beneath it. Four of the seven kinds are transient, that is, another
attempt may fare better.
-/

namespace Courier

/-- The sorts of faults. -/
inductive Fault.Kind
  /-- The time allowed ran out. -/
  | timeout
  /-- No connection was made. -/
  | connect
  /-- The request could not be sent whole. -/
  | request
  /-- The body of the response broke off. -/
  | body
  /-- The request could not be built from its parts, the URL first of all. -/
  | invalidUrl
  /-- A redirect was not allowed. -/
  | redirect
  /-- Anything else. -/
  | other
  deriving DecidableEq, Repr

/-- Whether another attempt may fare better. -/
def Fault.Kind.isTransient : Fault.Kind → Bool
  | .timeout | .connect | .request | .body => true
  | .invalidUrl | .redirect | .other => false

/-- The name of a kind in messages. -/
def Fault.Kind.text : Fault.Kind → String
  | .timeout => "timeout"
  | .connect => "connect"
  | .request => "request"
  | .body => "body"
  | .invalidUrl => "invalid url"
  | .redirect => "redirect"
  | .other => "other"

/-- Why one attempt gave no response, or a body no more bytes. -/
structure Fault where
  /-- The sort of fault. -/
  kind : Fault.Kind
  /-- The report of the transport. -/
  report : String
  /-- What lies beneath, if the transport knows. -/
  cause : Option String := none
  deriving DecidableEq, Repr

/-- The wording of a fault. -/
def Fault.message (f : Fault) : String := f.kind.text ++ " error: " ++ f.report

/-- Whether the time allowed ran out. -/
def Fault.isTimeout (f : Fault) : Bool := f.kind == .timeout

end Courier
