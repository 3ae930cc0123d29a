import Courier.Group.Join
import Courier.Group.Routing
import Courier.Group.Run
import Courier.Settings.Change
import Courier.Text.Blank

/-!
# The agent

An agent has settings and a transport. It sends requests, alone or in groups, and each of the two
ways has three forms of result: the response itself, its bytes, or its bytes written to sinks.

* A lone request is attempted as the settings say (`RetryPlan.execute`); a group is dispatched with
  the settings' parallelism (`Group.dispatch?`).
* Only the response that the attempts ended with is read, and only after they have ended.
* An operation may have no result at all: a lone request whose transport crashes, and a group that
  asks for more permits than there can be.
-/

namespace Courier

/-- Settings, and the transport to send requests with. -/
structure Agent (σ : Type) where
  /-- The settings. -/
  settings : Settings
  /-- The transport. -/
  transport : Transport σ

/-- Why an operation has no result. -/
inductive Abort
  /-- The transport crashed, with this report. -/
  | crashed (report : String)
  /-- So many requests cannot run side by side. -/
  | tooManyPermits (wish : UInt64)
  deriving DecidableEq, Repr

/-- What an operation came to. -/
structure Ran (σ α : Type) where
  /-- Its result. -/
  result : α
  /-- When it ended, with the state of the transport then. -/
  moment : Moment σ
  /-- What happened, in order. -/
  events : List Event
  /-- The number of items that came off the network while bodies were read. -/
  pulled : Nat

namespace Agent

variable {σ : Type}

/-! ## 1. Settings and requests -/

/-- An agent in a listing. -/
def listing (settings : Settings) : String :=
  "HttpAgent \x7b options: " ++ settings.listing ++ ", .. \x7d"

/-- The agent after a change of its settings. -/
def change (a : Agent σ) (c : Settings.Change) : Agent σ :=
  { a with settings := a.settings.apply c }

/-- The way the agent attempts requests. -/
def plan (a : Agent σ) : RetryPlan := .ofSettings a.settings

/-- The request for a method and a URL; only POST has the payload. -/
def request (a : Agent σ) (method : Method) (url : String) (payload : Bytes) : Request :=
  match method with
  | .get => .get url
  | .head => .head url
  | .post => .post url payload a.settings.postContentType

/-! ## 2. One request -/

/-- Sends a request and gives the response as it is. -/
def send (a : Agent σ) (method : Method) (url : String) (payload : Bytes) (m : Moment σ) :
    Except Abort (Ran σ (Except Failure Response)) :=
  let run := a.plan.execute a.transport (a.request method url payload) m
  match run.ending with
  | .crashed report => .error (.crashed report)
  | .settled result => .ok ⟨result, run.moment, run.events, run.pulled⟩

/-- Sends a request and writes the body of the response to a sink. -/
def deliver (a : Agent σ) (method : Method) (url : String) (payload : Bytes) (sink : Sink)
    (m : Moment σ) : Except Abort (Ran σ (Except Failure Unit × Sink)) :=
  match a.send method url payload m with
  | .error abort => .error abort
  | .ok ran =>
    match ran.result with
    | .error failure => .ok { ran with result := (.error failure, sink) }
    | .ok response =>
      let reading := response.readInto sink a.settings.failOnHttpError
      .ok
        { ran with
          result := (reading.result, reading.sink)
          events := ran.events ++ reading.notices.map .noticed
          pulled := ran.pulled + response.body.pulled reading.taken }

/-- Sends a request and gives the body of the response. -/
def fetch (a : Agent σ) (method : Method) (url : String) (payload : Bytes) (m : Moment σ) :
    Except Abort (Ran σ (Except Failure Bytes)) :=
  match a.send method url payload m with
  | .error abort => .error abort
  | .ok ran =>
    match ran.result with
    | .error failure => .ok { ran with result := .error failure }
    | .ok response =>
      let reading := response.readToMemory a.settings.failOnHttpError
      .ok
        { ran with
          result := reading.bytes
          events := ran.events ++ reading.notices.map .noticed
          pulled := ran.pulled + response.body.pulled reading.taken }

/-- The text of a body that came from a URL, without the blanks around it if they are not wanted. -/
def bodyText (url : String) (trim : Bool) (bytes : Bytes) : Except Failure String :=
  match Utf8.decode bytes with
  | .error malformed =>
    .error (.decode ("response from " ++ url ++ " is not UTF-8: " ++ malformed.message))
  | .ok text => .ok (if trim then Text.trim text else text)

/-- Sends a GET request and gives the body of the response as a text. -/
def fetchText (a : Agent σ) (url : String) (trim : Bool) (m : Moment σ) :
    Except Abort (Ran σ (Except Failure String)) :=
  match a.fetch .get url [] m with
  | .error abort => .error abort
  | .ok ran =>
    .ok
      { ran with
        result :=
          match ran.result with
          | .error failure => .error failure
          | .ok bytes => bodyText url trim bytes }

/-! ## 3. Groups -/

/-- The requests of a group, or `none` where a POST group has not as many payloads as URLs. -/
def requests? (a : Agent σ) (method : Method) (urls : List String) (payloads : List Bytes) :
    Option (List Request) :=
  match method with
  | .post =>
    if urls.length = payloads.length then
      some (List.zipWith (fun url payload => a.request .post url payload) urls payloads)
    else none
  | method => some (urls.map fun url => a.request method url [])

/-- The results of a group that has not as many payloads as URLs. -/
def mismatched {α : Type} (urls payloads : Nat) : List (Except Failure α) :=
  List.replicate urls (.error (.mismatchedPayloads urls payloads))

/-- Sends a group of requests and gives the responses as they are. -/
def sendGroup (a : Agent σ) (method : Method) (urls : List String) (payloads : List Bytes)
    (m : Moment σ) : Except Abort (Ran σ (List (Except Failure Response))) :=
  match a.requests? method urls payloads with
  | none => .ok ⟨mismatched urls.length payloads.length, m, [], 0⟩
  | some requests =>
    let parallel := a.settings.parallelism
    match Group.dispatch? a.plan a.transport requests parallel m with
    | none => .error (.tooManyPermits parallel)
    | some d =>
      let opening : Event := .noticed (.dispatching requests.length parallel)
      .ok ⟨d.results, d.moment, opening :: d.events.map (·.2), 0⟩

/-- Sends a group of requests and gives the bodies of the responses. -/
def fetchGroup (a : Agent σ) (method : Method) (urls : List String) (payloads : List Bytes)
    (m : Moment σ) : Except Abort (Ran σ (List (Except Failure Bytes))) :=
  match a.sendGroup method urls payloads m with
  | .error abort => .error abort
  | .ok ran =>
    let collected := Group.read ran.result a.settings.failOnHttpError
    .ok
      { ran with
        result := collected.results
        events := ran.events ++ collected.notices.map .noticed
        pulled := collected.pulled }

/-- Sends a group of requests and writes the bodies of the responses to sinks. -/
def deliverGroup (a : Agent σ) (method : Method) (urls : List String) (payloads : List Bytes)
    (sinks : List Sink) (m : Moment σ) :
    Except Abort (Ran σ (List (Except Failure Unit) × List Sink)) :=
  match a.sendGroup method urls payloads m with
  | .error abort => .error abort
  | .ok ran =>
    let routed := Group.route sinks ran.result a.settings.failOnHttpError
    .ok
      { ran with
        result := (routed.1.results, routed.2)
        events := ran.events ++ routed.1.notices.map .noticed
        pulled := routed.1.pulled }

end Agent

end Courier
