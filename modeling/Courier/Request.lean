import Courier.Utf8

/-!
# Requests

One request: a method, a URL, and for POST a payload with its content type.
-/

namespace Courier

/-- The methods that are spoken. -/
inductive Method
  | get
  | post
  | head
  deriving DecidableEq, Repr

/-- The verb on the wire. -/
def Method.text : Method → String
  | .get => "GET"
  | .post => "POST"
  | .head => "HEAD"

/-- One request to send. -/
structure Request where
  /-- The method. -/
  method : Method
  /-- The URL, as the caller wrote it. -/
  url : String
  /-- The payload, if one was given. -/
  payload : Option Bytes := none
  /-- The content type of the payload. -/
  contentType : String := ""
  deriving DecidableEq, Repr

namespace Request

/-- A GET request. -/
def get (url : String) : Request := { method := .get, url }

/-- A HEAD request. -/
def head (url : String) : Request := { method := .head, url }

/-- A POST request. -/
def post (url : String) (payload : Bytes) (contentType : String) : Request :=
  { method := .post, url, payload := some payload, contentType }

/-- What is sent after the head of the request: nothing but for POST, whose missing payload is an
    empty one. -/
def sentPayload (r : Request) : Option Bytes :=
  match r.method with
  | .post => some (r.payload.getD [])
  | .get | .head => none

/-- The content type that is sent: none but for POST. -/
def sentContentType (r : Request) : Option String :=
  match r.method with
  | .post => some r.contentType
  | .get | .head => none

end Request

end Courier
