import Courier.Decimal

/-!
# Response statuses

A status is a number of three digits that does not begin with a zero. Some have a reason phrase.
-/

namespace Courier

/-- The status of a response: a number from 100 to 999. -/
structure Status where
  /-- The number. -/
  code : Nat
  /-- It has three digits at least. -/
  hundred_le : 100 ≤ code := by decide
  /-- It has three digits at most. -/
  le_999 : code ≤ 999 := by decide
  deriving DecidableEq, Repr

namespace Status

/-- The status with a given number, if there is one. -/
def ofNat? (n : Nat) : Option Status :=
  if h : 100 ≤ n ∧ n ≤ 999 then some ⟨n, h.1, h.2⟩ else none

/-- The status of an answer that went well. -/
def ok : Status := { code := 200 }

/-- A status of the two hundreds. -/
def isSuccess (s : Status) : Bool := 200 ≤ s.code && s.code < 300

/-- A status of the five hundreds. -/
def isServerError (s : Status) : Bool := 500 ≤ s.code && s.code < 600

/-- The reason phrase, for the statuses that have one. -/
def reason? (s : Status) : Option String :=
  match s.code with
  | 100 => some "Continue"
  | 101 => some "Switching Protocols"
  | 102 => some "Processing"
  | 103 => some "Early Hints"
  | 200 => some "OK"
  | 201 => some "Created"
  | 202 => some "Accepted"
  | 203 => some "Non Authoritative Information"
  | 204 => some "No Content"
  | 205 => some "Reset Content"
  | 206 => some "Partial Content"
  | 207 => some "Multi-Status"
  | 208 => some "Already Reported"
  | 226 => some "IM Used"
  | 300 => some "Multiple Choices"
  | 301 => some "Moved Permanently"
  | 302 => some "Found"
  | 303 => some "See Other"
  | 304 => some "Not Modified"
  | 305 => some "Use Proxy"
  | 307 => some "Temporary Redirect"
  | 308 => some "Permanent Redirect"
  | 400 => some "Bad Request"
  | 401 => some "Unauthorized"
  | 402 => some "Payment Required"
  | 403 => some "Forbidden"
  | 404 => some "Not Found"
  | 405 => some "Method Not Allowed"
  | 406 => some "Not Acceptable"
  | 407 => some "Proxy Authentication Required"
  | 408 => some "Request Timeout"
  | 409 => some "Conflict"
  | 410 => some "Gone"
  | 411 => some "Length Required"
  | 412 => some "Precondition Failed"
  | 413 => some "Payload Too Large"
  | 414 => some "URI Too Long"
  | 415 => some "Unsupported Media Type"
  | 416 => some "Range Not Satisfiable"
  | 417 => some "Expectation Failed"
  | 418 => some "I'm a teapot"
  | 421 => some "Misdirected Request"
  | 422 => some "Unprocessable Entity"
  | 423 => some "Locked"
  | 424 => some "Failed Dependency"
  | 425 => some "Too Early"
  | 426 => some "Upgrade Required"
  | 428 => some "Precondition Required"
  | 429 => some "Too Many Requests"
  | 431 => some "Request Header Fields Too Large"
  | 451 => some "Unavailable For Legal Reasons"
  | 500 => some "Internal Server Error"
  | 501 => some "Not Implemented"
  | 502 => some "Bad Gateway"
  | 503 => some "Service Unavailable"
  | 504 => some "Gateway Timeout"
  | 505 => some "HTTP Version Not Supported"
  | 506 => some "Variant Also Negotiates"
  | 507 => some "Insufficient Storage"
  | 508 => some "Loop Detected"
  | 510 => some "Not Extended"
  | 511 => some "Network Authentication Required"
  | _ => none

/-- A status in messages: the number, then the reason phrase or a stand-in for it. -/
def text (s : Status) : String :=
  Decimal.text s.code ++ " " ++ s.reason?.getD "<unknown status code>"

end Status

end Courier
