import Courier.Reading

/-!
# What becomes of the responses of a group

The responses of a group are read one after the other, in input order. They are read into memory,
or into writers: a single writer takes all of them, otherwise response `i` goes to writer `i`, and
there is a failure where no such writer is. A slot that holds a failure keeps it and touches no
writer. What goes wrong while a response is read is wrapped with the index of its slot.
-/

namespace Courier.Group

/-- Wraps the failure of a slot with its index. -/
def atMember {α : Type} (i : Nat) : Except Failure α → Except Failure α
  | .ok a => .ok a
  | .error failure => .error (.member i failure)

/-- What reading the responses of a group came to. -/
structure Collected (α : Type) where
  /-- The results, in input order. -/
  results : List (Except Failure α)
  /-- The number of items that came off the network while they were read. -/
  pulled : Nat
  /-- What was reported, in order. -/
  notices : List Notice

/-! ## 1. Into memory -/

/-- Reads the responses from slot `i` on into memory. -/
def readFrom (failOnHttpError : Bool) (i : Nat) :
    List (Except Failure Response) → Collected Bytes
  | [] => ⟨[], 0, []⟩
  | .error failure :: rest =>
    let later := readFrom failOnHttpError (i + 1) rest
    { later with results := .error failure :: later.results }
  | .ok response :: rest =>
    let reading := response.readToMemory failOnHttpError
    let later := readFrom failOnHttpError (i + 1) rest
    { results := atMember i reading.bytes :: later.results
      pulled := response.body.pulled reading.taken + later.pulled
      notices := reading.notices ++ later.notices }

/-- Reads the responses of a group into memory. -/
def read (outcomes : List (Except Failure Response)) (failOnHttpError : Bool) : Collected Bytes :=
  readFrom failOnHttpError 0 outcomes

/-! ## 2. Into writers -/

/-- The writer for slot `i` among `n` writers: a single writer is there for all slots. -/
def writerFor (n i : Nat) : Nat := if n = 1 then 0 else i

/-- Reads the responses from slot `i` on into writers. -/
def routeFrom (failOnHttpError : Bool) (i : Nat) :
    List Sink → List (Except Failure Response) → Collected Unit × List Sink
  | writers, [] => (⟨[], 0, []⟩, writers)
  | writers, .error failure :: rest =>
    let later := routeFrom failOnHttpError (i + 1) writers rest
    ({ later.1 with results := .error failure :: later.1.results }, later.2)
  | writers, .ok response :: rest =>
    match writers[writerFor writers.length i]? with
    | none =>
      let later := routeFrom failOnHttpError (i + 1) writers rest
      ({ later.1 with results := .error (.noWriter i) :: later.1.results }, later.2)
    | some writer =>
      let reading := response.readInto writer failOnHttpError
      let later := routeFrom failOnHttpError (i + 1)
        (writers.set (writerFor writers.length i) reading.sink) rest
      ({ results := atMember i reading.result :: later.1.results
         pulled := response.body.pulled reading.taken + later.1.pulled
         notices := reading.notices ++ later.1.notices }, later.2)

/-- Reads the responses of a group into writers. -/
def route (writers : List Sink) (outcomes : List (Except Failure Response))
    (failOnHttpError : Bool) : Collected Unit × List Sink :=
  routeFrom failOnHttpError 0 writers outcomes

end Courier.Group
