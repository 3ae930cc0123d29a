import Courier.Span
import Courier.Text.Quoted

/-!
# Settings

The seven settings of an agent, their defaults, and what follows from them. A time limit of 0 is no
limit, and 0 requests side by side means one.
-/

namespace Courier

/-- The content type of payloads unless it is set otherwise. -/
def defaultContentType : String := "application/octet-stream"

/-- The settings of an agent. -/
structure Settings where
  /-- Whether a status outside the two hundreds is a failure when a response is read. -/
  failOnHttpError : Bool := true
  /-- How often a request is attempted; 0 and 1 both mean once. -/
  maxRetries : UInt32 := 3
  /-- The time limit of one request in milliseconds; 0 is no limit. -/
  timeoutMs : UInt64 := 3000
  /-- The wait after the first attempt in milliseconds. -/
  retryBackoffMs : UInt64 := 2000
  /-- The longest wait between attempts in milliseconds; 0 is no bound. -/
  maxBackoffMs : UInt64 := 60000
  /-- The content type of payloads. -/
  postContentType : String := defaultContentType
  /-- How many requests of a group run side by side. -/
  maxParallel : UInt64 := 5
  deriving DecidableEq, Repr

namespace Settings

/-- The time limit of one request, if there is one. -/
def timeout (s : Settings) : Option Span :=
  if s.timeoutMs = 0 then none else some (Span.ofMillis s.timeoutMs)

/-- How many requests of a group run side by side, one at least. -/
def parallelism (s : Settings) : UInt64 := if s.maxParallel = 0 then 1 else s.maxParallel

theorem parallelism_ne_zero (s : Settings) : s.parallelism ≠ 0 := by
  unfold parallelism
  split
  · decide
  · assumption

/-- A truth value in messages. -/
def boolText (b : Bool) : String := if b then "true" else "false"

/-- The settings in one sentence. -/
def summary (s : Settings) : String :=
  "HTTP agent options: timeout " ++ Decimal.text s.timeoutMs.toNat ++ "ms, retries " ++
    Decimal.text s.maxRetries.toNat ++ ", fail on HTTP error " ++ boolText s.failOnHttpError

/-- The settings in a listing of all fields. -/
def listing (s : Settings) : String :=
  "AgentOptions \x7b fail_on_http_error: " ++ boolText s.failOnHttpError ++
    ", max_retries: " ++ Decimal.text s.maxRetries.toNat ++
    ", timeout_ms: " ++ Decimal.text s.timeoutMs.toNat ++
    ", retry_backoff_ms: " ++ Decimal.text s.retryBackoffMs.toNat ++
    ", max_backoff_ms: " ++ Decimal.text s.maxBackoffMs.toNat ++
    ", post_content_type: " ++ Text.quoted s.postContentType ++
    ", max_parallel: " ++ Decimal.text s.maxParallel.toNat ++ " \x7d"

/-! ## The fields by name -/

/-- The fields, in the order of their declaration. -/
inductive Field
  | failOnHttpError
  | maxRetries
  | timeoutMs
  | retryBackoffMs
  | maxBackoffMs
  | postContentType
  | maxParallel
  deriving DecidableEq, Repr

/-- All fields, in the order of their declaration. -/
def Field.all : List Field :=
  [.failOnHttpError, .maxRetries, .timeoutMs, .retryBackoffMs, .maxBackoffMs, .postContentType,
    .maxParallel]

/-- The name of a field in written settings. -/
def Field.key : Field → String
  | .failOnHttpError => "fail_on_http_error"
  | .maxRetries => "max_retries"
  | .timeoutMs => "timeout_ms"
  | .retryBackoffMs => "retry_backoff_ms"
  | .maxBackoffMs => "max_backoff_ms"
  | .postContentType => "post_content_type"
  | .maxParallel => "max_parallel"

/-- The field with a given name. -/
def Field.ofKey? (key : String) : Option Field := Field.all.find? fun f => f.key == key

end Settings

end Courier
