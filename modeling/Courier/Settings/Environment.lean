import Courier.Failure
import Courier.Settings
import Courier.Text.Blank
import Courier.Utf8

/-!
# Settings from the environment

Each field has a variable. A variable that is not set, holds no text, or holds only blank
characters leaves the default; blank characters around a value do not count. The first variable
whose value is not of its type is reported, in the order time limit, attempts, first wait, longest
wait, status policy, requests side by side; the content type may be any text.
-/

namespace Courier.Settings

/-- The values of variables; `none` where one is not set. -/
abbrev Environment := String → Option Bytes

/-- The variable of a field. -/
def Field.variable : Field → String
  | .timeoutMs => "HTTP_AGENT_TIMEOUT_MS"
  | .maxRetries => "HTTP_AGENT_RETRIES"
  | .retryBackoffMs => "HTTP_AGENT_WAIT_MS"
  | .maxBackoffMs => "HTTP_AGENT_MAX_WAIT_MS"
  | .failOnHttpError => "HTTP_AGENT_FAIL_ON_HTTP_ERROR"
  | .maxParallel => "HTTP_AGENT_MAX_PARALLEL"
  | .postContentType => "HTTP_AGENT_POST_CONTENT_TYPE"

/-- The value of a field's variable without the blanks around it, if anything is left. -/
def given? (env : Environment) (f : Field) : Option String :=
  match (env f.variable).bind Utf8.decode? with
  | none => none
  | some value => if Text.trimmed value.toList = [] then none else some (Text.trim value)

/-- The failure that reports a variable. -/
def invalid (f : Field) (value reason : String) : Failure :=
  .config (f.variable ++ "=" ++ Text.quoted value ++ " is invalid: " ++ reason)

/-- The number in a field's variable, if one is given. -/
def givenNumber (env : Environment) (f : Field) (limit : Nat) : Except Failure (Option Nat) :=
  match given? env f with
  | none => .ok none
  | some value =>
    match Decimal.read limit value.toList with
    | .ok n => .ok (some n)
    | .error refusal => .error (invalid f value refusal.message)

/-- The truth value in a field's variable, if one is given. -/
def givenBool (env : Environment) (f : Field) : Except Failure (Option Bool) :=
  match given? env f with
  | none => .ok none
  | some value =>
    if value = "true" then .ok (some true)
    else if value = "false" then .ok (some false)
    else .error (invalid f value "provided string was not `true` or `false`")

/-- A word from a variable, or the default. -/
def word64 (default : UInt64) (given : Option Nat) : UInt64 :=
  match given with
  | none => default
  | some n => UInt64.ofNat n

/-- The settings that the environment holds. -/
def ofEnvironment (env : Environment) : Except Failure Settings := do
  let base : Settings := {}
  let timeout ← givenNumber env .timeoutMs (UInt64.size - 1)
  let retries ← givenNumber env .maxRetries (UInt32.size - 1)
  let wait ← givenNumber env .retryBackoffMs (UInt64.size - 1)
  let maxWait ← givenNumber env .maxBackoffMs (UInt64.size - 1)
  let failOnHttpError ← givenBool env .failOnHttpError
  let parallel ← givenNumber env .maxParallel (UInt64.size - 1)
  return {
    failOnHttpError := failOnHttpError.getD base.failOnHttpError
    maxRetries := (retries.map UInt32.ofNat).getD base.maxRetries
    timeoutMs := word64 base.timeoutMs timeout
    retryBackoffMs := word64 base.retryBackoffMs wait
    maxBackoffMs := word64 base.maxBackoffMs maxWait
    postContentType := (given? env .postContentType).getD base.postContentType
    maxParallel := word64 base.maxParallel (parallel.map (max 1)) }

end Courier.Settings
