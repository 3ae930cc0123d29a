import Courier.Failure
import Courier.Notice
import Courier.Response
import Courier.Sink

/-!
# Reading responses

A response is read by pouring its body into a sink, item by item, and then flushing the sink. What
goes wrong first counts: a fault of the body or a refusal of the sink ends the pouring at once and
nothing is flushed; a flush that fails is reported whatever the status. Only then does the status
matter: outside the two hundreds it is a failure, or a notice where the caller does not mind.
-/

namespace Courier

/-- What pouring items into a sink came to. -/
structure Poured where
  /-- Whether everything was stored, or what stopped it. -/
  result : Except ReadCause Unit
  /-- The sink afterwards. -/
  sink : Sink
  /-- The number of items taken. -/
  taken : Nat

/-- Pours items into a sink. -/
def pour : List Item → Sink → Poured
  | [], sink => ⟨.ok (), sink, 0⟩
  | .fault fault :: _, sink => ⟨.error (.body fault), sink, 1⟩
  | .bytes bytes :: rest, sink =>
    match sink.writeAll bytes with
    | (.error report, sink) => ⟨.error (.writing report), sink, 1⟩
    | (.ok (), sink) =>
      let later := pour rest sink
      { later with taken := later.taken + 1 }

/-- What reading a response came to. -/
structure Reading where
  /-- Whether the response was read, or why not. -/
  result : Except Failure Unit
  /-- The sink afterwards. -/
  sink : Sink
  /-- The number of items taken from the body. -/
  taken : Nat
  /-- What was reported on the way. -/
  notices : List Notice

/-- What a reading that went well has stored. -/
def Reading.bytes (reading : Reading) : Except Failure Bytes :=
  reading.result.map fun _ => reading.sink.data

namespace Response

/-- What the status of a response that was read means. -/
def settleStatus (r : Response) (failOnHttpError : Bool) : Except Failure Unit × List Notice :=
  if r.isSuccess then (.ok (), [])
  else if failOnHttpError then (.error (.http r.status r.url), [])
  else (.ok (), [.statusIgnored r.status r.url])

/-- Reads a response into a sink. -/
def readInto (r : Response) (sink : Sink) (failOnHttpError : Bool) : Reading :=
  let poured := pour r.body.items sink
  match poured.result with
  | .error cause => ⟨.error (.read r.url cause), poured.sink, poured.taken, []⟩
  | .ok () =>
    match poured.sink.flush with
    | (.error report, sink) => ⟨.error (.read r.url (.writing report)), sink, poured.taken, []⟩
    | (.ok (), sink) =>
      let settled := r.settleStatus failOnHttpError
      ⟨settled.1, sink, poured.taken, settled.2⟩

/-- Reads a response into memory. -/
def readToMemory (r : Response) (failOnHttpError : Bool) : Reading :=
  r.readInto .memory failOnHttpError

end Response

end Courier
