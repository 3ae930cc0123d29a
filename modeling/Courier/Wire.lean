import Courier.Settings
import Courier.Transport
import Courier.Url.Reader

/-!
# Sending requests over a network

A transport that speaks HTTP. The network beneath it is a parameter: it takes a message for a
server and tells what became of it, which may be nothing but a refusal (`Network.detached`).

* A request is built first. Its URL must be one of HTTP with a host that can be addressed, and its
  content type may hold no controls but the tab; otherwise nothing is sent.
* Redirects are followed, ten at most. After 301, 302 and 303 a POST goes on as a GET without
  payload; after 307 and 308 it stays as it is. Without a location that is a URL the response
  itself is the answer.
* A time limit counts from the start of the request to the end of the body.
* A body that ends before its announced length, or later than the time limit, gives what has
  arrived and then a fault.
-/

namespace Courier.Wire

/-! ## 1. Networks -/

/-- What goes to a server. -/
structure Message where
  /-- The method. -/
  method : Method
  /-- The URL. -/
  url : Url
  /-- The content type of the payload, as the server sees it. -/
  contentType : Option String
  /-- The payload. -/
  payload : Bytes
  deriving DecidableEq, Repr

/-- How the end of a body is known. -/
inductive Delivery
  /-- Its length was announced, and all of it arrives. -/
  | whole
  /-- It ends where the connection does. -/
  | untilClose
  /-- Its length was announced, and less arrives before the connection ends. -/
  | short
  deriving DecidableEq, Repr

/-- What a server sends back. -/
structure Answer where
  /-- The milliseconds until it comes. -/
  delay : Nat
  /-- The status. -/
  status : Status
  /-- The header lines. -/
  headers : List (String × Bytes)
  /-- The bytes of the body that arrive. -/
  body : Bytes
  /-- How the end of the body is known. -/
  delivery : Delivery
  /-- The milliseconds from there until the connection ends. -/
  closing : Nat

/-- What becomes of a message. -/
inductive Fate
  /-- There is no connection. -/
  | refused
  /-- The connection ends without an answer, after so many milliseconds. -/
  | closed (delay : Nat)
  /-- The server answers. -/
  | answered (answer : Answer)

/-- Something that takes messages to servers, with a state of its own. -/
structure Network (ν : Type) where
  /-- What becomes of a message, and the state afterwards. -/
  exchange : Message → ν → Fate × ν

/-- The network that reaches no server. -/
def Network.detached : Network Unit where
  exchange _ state := (.refused, state)

/-! ## 2. Building messages -/

/-- The fault of a request that cannot be built, and of its URL if the URL is to blame. -/
def builderFault (url : Option Url) : Fault where
  kind := .invalidUrl
  report :=
    match url with
    | none => "builder error"
    | some url => "builder error for url (" ++ url.text ++ ")"

/-- Whether a text can stand in a header line: it has no controls but the tab. -/
def isHeaderValue (s : String) : Bool :=
  s.toList.all fun c => c = '\t' || (32 ≤ c.toNat && c.toNat ≠ 127)

/-- A header value without the spaces and tabs around it. -/
def headerText (s : String) : String :=
  let outer (c : Char) : Bool := c = ' ' || c = '\t'
  String.ofList ((s.toList.dropWhile outer).reverse.dropWhile outer).reverse

/-- The content type of a request: an empty one means the default. -/
def contentTypeOf (r : Request) : Option String :=
  r.sentContentType.map fun s => if s = "" then defaultContentType else s

/-- Whether a URL has a host. -/
def hasHost (u : Url) : Bool := (u.host.getD "") != ""

/-- A text in which bytes may be encoded, if it is one. -/
def plainText? (s : String) : Option String := Utf8.decode? (Url.percentDecode s.toList)

/-- A URL without the name and password in front of its host, which do not stay in the URL of a
    message. Those that are no text are no credentials, and stay. -/
def withoutCredentials (u : Url) : Url :=
  match plainText? u.username with
  | none => u
  | some name =>
    if name ≠ "" ∨ (u.password.bind plainText?).isSome then u.withoutUserinfo else u

/-- The characters of hosts that can be addressed. -/
def isAddressable (c : Char) : Bool :=
  c.isAlphanum || "!$&'()*+,-.:;=[]_~".toList.contains c

/-- The longest URL that can be addressed. -/
def maxUrlLength : Nat := 65534

/-- Whether a message can go to a URL: one of HTTP, not too long, with a host that can be
    addressed. -/
def isReachable (u : Url) : Bool :=
  (u.scheme = "http" || u.scheme = "https") && u.text.length ≤ maxUrlLength &&
    (u.host.getD "").toList.all isAddressable

/-- The message that sends a request. -/
def build (r : Request) : Except Fault Message :=
  match Url.read? none r.url with
  | none => .error (builderFault none)
  | some url =>
    if !hasHost url then .error (builderFault (some url))
    else
      let url := withoutCredentials url
      if !(contentTypeOf r).all isHeaderValue then .error (builderFault none)
      else if isReachable url then
        .ok
          { method := r.method
            url := url
            contentType := (contentTypeOf r).map headerText
            payload := r.sentPayload.getD [] }
      else .error (builderFault (some url))

/-! ## 3. Exchanges -/

/-- Whether a time is beyond the limit. -/
def isLate (limit : Option Nat) (time : Nat) : Bool :=
  match limit with
  | none => false
  | some limit => limit ≤ time

/-- The fault of a message that got no answer. -/
def sendFault (kind : Fault.Kind) (url : Url) : Fault where
  kind := kind
  report := "error sending request for url (" ++ url.text ++ ")"

/-- The fault of a body that breaks off. -/
def bodyFault (kind : Fault.Kind) : Fault where
  kind := kind
  report := "error decoding response body"

/-- The items of a body that began to arrive at a given time. -/
def bodyItems (limit : Option Nat) (method : Method) (time : Nat) (a : Answer) : List Item :=
  let bytes : List Item := if a.body.isEmpty then [] else [.bytes a.body]
  let late := isLate limit (time + a.closing)
  match method, a.delivery with
  | .head, _ => []
  | _, .whole => bytes
  | _, .untilClose => if late then bytes ++ [.fault (bodyFault .timeout)] else bytes
  | _, .short => bytes ++ [.fault (bodyFault (if late then .timeout else .body))]

/-- The response that an answer is. -/
def response (limit : Option Nat) (m : Message) (time : Nat) (a : Answer) : Response :=
  let bare : Response :=
    { status := a.status
      url := m.url.withoutFragment.text
      body := .arriving (bodyItems limit m.method time a) }
  a.headers.foldl (fun r h => r.withHeader h.1 h.2) bare

/-- Whether an answer with a status sends the request elsewhere. -/
def isRedirect (s : Status) : Bool := [301, 302, 303, 307, 308].contains s.code

/-- Where an answer sends the request, if it does. -/
def location? (url : Url) (r : Response) : Option Url :=
  if isRedirect r.status then
    match r.headers.lookup "location" with
    | none => none
    | some value => (Utf8.decode? value).bind (Url.read? (some url))
  else none

/-- The message that follows a redirect. -/
def redirected (m : Message) (s : Status) (url : Url) : Message :=
  if s.code = 307 ∨ s.code = 308 then { m with url }
  else
    { url
      method := if m.method = .head then .head else .get
      contentType := none
      payload := [] }

/-- Sends a message and follows at most `left` redirects; `time` has passed before. -/
def follow {ν : Type} (n : Network ν) (limit : Option Nat) :
    (left : Nat) → (time : Nat) → Message → ν → Reply × ν
  | left, time, m, state =>
    let (fate, state) := n.exchange m state
    let late : Reply := ⟨some (limit.getD 0), .failed (sendFault .timeout m.url)⟩
    match fate with
    | .refused => (⟨some time, .failed (sendFault .connect m.url)⟩, state)
    | .closed delay =>
      if isLate limit (time + delay) then (late, state)
      else (⟨some (time + delay), .failed (sendFault .request m.url)⟩, state)
    | .answered a =>
      let time := time + a.delay
      if isLate limit time then (late, state)
      else
        let r := response limit m time a
        match location? m.url r with
        | none => (⟨some time, .answered r⟩, state)
        | some url =>
          match left with
          | 0 =>
            let report := "error following redirect for url (" ++ m.url.text ++ ")"
            (⟨some time, .failed { kind := .redirect, report }⟩, state)
          | left + 1 => follow n limit left time (redirected m a.status url) state

/-- The most redirects that are followed. -/
def maxRedirects : Nat := 10

/-- The transport that sends requests over a network. -/
def transport {ν : Type} (n : Network ν) : Transport ν where
  reply r timeout state :=
    match build r with
    | .error fault => (⟨none, .failed fault⟩, state)
    | .ok m => follow n (timeout.map Span.ceilMillis) maxRedirects 0 m state

end Courier.Wire
