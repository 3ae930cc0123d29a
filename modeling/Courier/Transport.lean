import Courier.Notice
import Courier.Response

/-!
# Transports and what is seen of them

A transport answers calls. What it does with a call may depend on a state of its own, and an answer
takes time: a reply has a latency, in milliseconds of a clock that moves only while somebody waits.
A reply is a response, a fault, or a crash, which ends the task that made the call.

What happened is kept as a list of events: calls with the times of their start and end, waits
between calls, and notices.
-/

namespace Courier

/-! ## 1. Replies -/

/-- What becomes of one call. -/
inductive Outcome
  /-- A response. -/
  | answered (response : Response)
  /-- A fault instead of a response. -/
  | failed (fault : Fault)
  /-- The transport crashes, with this report. -/
  | crashed (report : String)
  deriving DecidableEq

/-- What a transport makes of one call. -/
structure Reply where
  /-- How long it is waited for, in milliseconds. A reply that is there without a wait is not the
      same as one that is waited for in no time: a wait counts. -/
  wait : Option Nat
  /-- What becomes of the call. -/
  outcome : Outcome

/-- How long a reply takes, in milliseconds. -/
def Reply.latency (reply : Reply) : Nat := reply.wait.getD 0

/-- Something that answers calls, with a state of its own. -/
structure Transport (σ : Type) where
  /-- The reply to a request with a time limit, and the state afterwards. -/
  reply : Request → Option Span → σ → Reply × σ

/-- A point in time, with the state of the transport then. -/
structure Moment (σ : Type) where
  /-- The clock, in milliseconds. -/
  now : Nat
  /-- The state of the transport. -/
  state : σ

/-! ## 2. Events -/

/-- One call as the transport sees it. -/
structure Call where
  /-- When the call was made. -/
  start : Nat
  /-- When the reply was there. -/
  finish : Nat
  /-- The method. -/
  method : Method
  /-- The URL. -/
  url : String
  /-- The payload that was sent, if the method sends one. -/
  payload : Option Bytes
  /-- The content type that was sent, if the method sends one. -/
  contentType : Option String
  /-- The time limit. -/
  timeout : Option Span
  deriving DecidableEq, Repr

/-- The call that sends a request at a given time. -/
def Request.call (r : Request) (timeout : Option Span) (start latency : Nat) : Call where
  start := start
  finish := start + latency
  method := r.method
  url := r.url
  payload := r.sentPayload
  contentType := r.sentContentType
  timeout := timeout

/-- Something that happened. -/
inductive Event
  /-- A call was made, and this becomes of it. -/
  | called (call : Call) (outcome : Outcome)
  /-- Somebody began to wait before the next call. -/
  | waited (start : Nat) (length : Span)
  /-- Something was reported. -/
  | noticed (notice : Notice)
  deriving DecidableEq

namespace Event

/-- The call of an event. -/
def call? : Event → Option Call
  | .called call _ => some call
  | _ => none

/-- The notice of an event. -/
def notice? : Event → Option Notice
  | .noticed notice => some notice
  | _ => none

/-- The length of the wait of an event. -/
def wait? : Event → Option Span
  | .waited _ length => some length
  | _ => none

end Event

/-- The calls among events. -/
def callsOf (events : List Event) : List Call := events.filterMap Event.call?

/-- The notices among events. -/
def noticesOf (events : List Event) : List Notice := events.filterMap Event.notice?

/-- The waits among events. -/
def waitsOf (events : List Event) : List Span := events.filterMap Event.wait?

/-! ## 3. Scripts -/

/-- A transport that is known in advance: what it makes of call number `n` to a URL, counted from 0,
    whatever the method. -/
structure Script where
  /-- The reply to call number `n` to a URL. -/
  reply : (url : String) → (n : Nat) → Reply

namespace Script

/-- The reply of a server that has nothing else to say: its status is 200 and its body the URL. -/
def echo (url : String) : Reply where
  wait := none
  outcome :=
    .answered { status := .ok, url := url, body := .held (some (Bytes.ofText url)) }

/-- The script that goes through a table of replies and echoes where the table has no more. -/
def ofTable (table : List (String × List Reply)) : Script where
  reply url n :=
    match table.lookup url with
    | none => echo url
    | some replies => (replies[n]?).getD (echo url)

/-- The number of calls to each URL so far. -/
abbrev Served := String → Nat

/-- No call so far. -/
def Served.none : Served := fun _ => 0

/-- One more call to a URL. -/
def Served.add (served : Served) (url : String) : Served :=
  fun u => if u = url then served u + 1 else served u

/-- A reply that comes when a timer set to its latency rings. -/
def timed (reply : Reply) : Reply :=
  { reply with wait := reply.wait.map (min · Span.longestRest) }

/-- A script as a transport; its state counts the calls to each URL. -/
def transport (script : Script) : Transport Served where
  reply request _ served :=
    (timed (script.reply request.url (served request.url)), served.add request.url)

end Script

end Courier
