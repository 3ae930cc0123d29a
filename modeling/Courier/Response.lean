import Courier.Fault
import Courier.Status
import Courier.Utf8

/-!
# Responses and their bodies

A body is held whole or arrives in pieces. Its view is the list of *items* it still has to give: a
held body that is not empty has one, an arriving body may have empty ones, and a fault among them
does not end it. `chunk` takes the first item; `items_chunk` is its law on the view.
-/

namespace Courier

/-! ## 1. Bodies -/

/-- One step of a body. -/
inductive Item
  /-- Some bytes, perhaps none. -/
  | bytes (bytes : Bytes)
  /-- The body breaks off here, though more may follow. -/
  | fault (fault : Fault)
  deriving DecidableEq, Repr

/-- The body of a response. -/
inductive Body
  /-- Held whole; nothing once the bytes were taken. -/
  | held (bytes : Option Bytes)
  /-- Arriving, with the items to come. -/
  | arriving (items : List Item)
  deriving DecidableEq

namespace Body

/-- A body without a byte. -/
def empty : Body := .held none

/-- The items that a body still has to give. -/
def items : Body → List Item
  | .held none => []
  | .held (some []) => []
  | .held (some bytes) => [.bytes bytes]
  | .arriving items => items

/-- Takes the next item. -/
def chunk : Body → Option Item × Body
  | .held none => (none, .held none)
  | .held (some []) => (none, .held none)
  | .held (some bytes) => (some (.bytes bytes), .held none)
  | .arriving [] => (none, .arriving [])
  | .arriving (item :: rest) => (some item, .arriving rest)

/-- What `chunk` gives and leaves are the first item and the others. -/
theorem items_chunk (b : Body) : b.chunk.1 = b.items.head? ∧ b.chunk.2.items = b.items.tail := by
  match b with
  | .held none => exact ⟨rfl, rfl⟩
  | .held (some []) => exact ⟨rfl, rfl⟩
  | .held (some (_ :: _)) => exact ⟨rfl, rfl⟩
  | .arriving [] => exact ⟨rfl, rfl⟩
  | .arriving (_ :: _) => exact ⟨rfl, rfl⟩

/-- How many of `taken` items came off the network while they were read: a held body has arrived
    before. -/
def pulled (b : Body) (taken : Nat) : Nat :=
  match b with
  | .held _ => 0
  | .arriving _ => taken

/-- A body in a listing: its length, or that it is still arriving. -/
def text : Body → String
  | .held bytes => "Body \x7b len: " ++ Decimal.text (bytes.getD []).length ++ " \x7d"
  | .arriving _ => "Body \x7b streaming: true \x7d"

end Body

/-- The bytes of all items up to the end, or the first fault; with the number of items taken. -/
def gather : List Item → Except Fault Bytes × Nat
  | [] => (.ok [], 0)
  | .fault fault :: _ => (.error fault, 1)
  | .bytes bytes :: rest =>
    let later := gather rest
    (later.1.map (bytes ++ ·), later.2 + 1)

/-- The bytes that come before the first fault. -/
def bytesBeforeFault : List Item → Bytes
  | [] => []
  | .fault _ :: _ => []
  | .bytes bytes :: rest => bytes ++ bytesBeforeFault rest

/-! ## 2. Responses -/

/-- The response of a transport. -/
structure Response where
  /-- The status. -/
  status : Status
  /-- The URL that was answered, redirects followed. -/
  url : String
  /-- The header lines, names in lower case, in the order of their arrival. -/
  headers : List (String × Bytes) := []
  /-- The body. -/
  body : Body := .empty
  deriving DecidableEq

namespace Response

/-- Adds a header line; names do not depend on case. -/
def withHeader (r : Response) (name : String) (value : Bytes) : Response :=
  { r with headers := r.headers ++ [(String.ofList (name.toList.map Char.toLower), value)] }

/-- The reason phrase of the status, empty where there is none. -/
def reason (r : Response) : String := r.status.reason?.getD ""

/-- Whether the status is one of the two hundreds. -/
def isSuccess (r : Response) : Bool := r.status.isSuccess

/-- The whole body, whatever the status. -/
def bytes (r : Response) : Except Fault Bytes := (gather r.body.items).1

end Response

end Courier
