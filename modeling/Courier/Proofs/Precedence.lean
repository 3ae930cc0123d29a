import Courier.Proofs.Reading
import Courier.Proofs.Writes

/-!
# What counts first when a response is read

Four things can go wrong while a response is read: the sink rejects a byte, the body has a fault,
the flush fails, and the status is none of the two hundreds. They count in the order in which the
reading comes to them (`Response.precedence`), and what comes first decides what is stored, how many
items are taken, and whether the sink is flushed.

The body is seen as its chunks before the first fault and that fault (`Body.chunks`, `Body.fault?`,
`items_eq`), and the sink as what it does with those chunks (`Sink.TakesAll`, `Sink.RefusesAt`).
`pour_of_refusesAt` and `pour_of_takesAll` are the two laws of pouring for it.
-/

namespace Courier

/-! ## 1. Chunks and the first fault -/

/-- The chunks that come before the first fault. -/
def chunksBeforeFault : List Item → List Bytes
  | [] => []
  | .fault _ :: _ => []
  | .bytes bytes :: rest => bytes :: chunksBeforeFault rest

/-- The first fault, if there is one. -/
def firstFault? : List Item → Option Fault
  | [] => none
  | .fault fault :: _ => some fault
  | .bytes _ :: rest => firstFault? rest

theorem flatten_chunksBeforeFault (items : List Item) :
    (chunksBeforeFault items).flatten = bytesBeforeFault items := by
  induction items with
  | nil => rfl
  | cons item rest ih =>
    cases item with
    | fault fault => rfl
    | bytes bytes => exact congrArg (bytes ++ ·) ih

/-- **Items are the chunks before the first fault, and then that fault with whatever follows it.** -/
theorem items_eq (items : List Item) : ∃ rest,
    items = (chunksBeforeFault items).map .bytes ++ rest ∧
      rest.head? = (firstFault? items).map .fault := by
  induction items with
  | nil => exact ⟨[], rfl, rfl⟩
  | cons item later ih =>
    cases item with
    | fault fault => exact ⟨.fault fault :: later, rfl, rfl⟩
    | bytes bytes =>
        obtain ⟨rest, heq, hhead⟩ := ih
        exact ⟨rest, congrArg (.bytes bytes :: ·) heq, hhead⟩

theorem getElem?_of_chunksBeforeFault {items : List Item} {j : Nat} {chunk : Bytes}
    (h : (chunksBeforeFault items)[j]? = some chunk) : items[j]? = some (.bytes chunk) := by
  obtain ⟨rest, heq, -⟩ := items_eq items
  have hlt := (List.getElem?_eq_some_iff.mp h).1
  rw [heq, List.getElem?_append_left (by simpa using hlt), List.getElem?_map, h]
  rfl

theorem getElem?_length_chunksBeforeFault (items : List Item) :
    items[(chunksBeforeFault items).length]? = (firstFault? items).map .fault := by
  obtain ⟨rest, heq, hhead⟩ := items_eq items
  have hlength : ((chunksBeforeFault items).map Item.bytes).length =
      (chunksBeforeFault items).length := List.length_map _
  generalize chunksBeforeFault items = chunks at heq hlength
  rw [heq, ← hlength, List.getElem?_append_right (Nat.le_refl _), Nat.sub_self,
    ← List.head?_eq_getElem?, ← heq, hhead]

theorem length_chunksBeforeFault {items : List Item} (h : firstFault? items = none) :
    (chunksBeforeFault items).length = items.length := by
  obtain ⟨rest, heq, hhead⟩ := items_eq items
  rw [h, Option.map_none, List.head?_eq_none_iff] at hhead
  have hlength := congrArg List.length heq
  rw [hhead, List.append_nil, List.length_map] at hlength
  exact hlength.symm

/-- The chunks of a body before its first fault. -/
def Body.chunks (b : Body) : List Bytes := chunksBeforeFault b.items

/-- The first fault of a body, if there is one. -/
def Body.fault? (b : Body) : Option Fault := firstFault? b.items

/-! ## 2. Pouring -/

section Pouring

variable {items : List Item} {sink s : Sink}

/-- Where the sink rejects a byte, pouring stops with that chunk. -/
theorem pour_of_refusesAt {j n : Nat} {report : String}
    (h : sink.RefusesAt (chunksBeforeFault items) j n report s) :
    pour items sink = ⟨.error (.writing report), s, j + 1⟩ := by
  induction items generalizing sink j with
  | nil => cases h
  | cons item rest ih =>
    cases item with
    | fault fault => cases h
    | bytes bytes =>
        cases h with
        | here h => rw [pour, h.writeAll_eq]
        | later first h =>
            rw [pour, first.writeAll_eq]
            dsimp only
            rw [ih h]

/-- Where the sink takes all chunks, pouring goes on to the first fault or to the end. -/
theorem pour_of_takesAll (h : sink.TakesAll (chunksBeforeFault items) s) :
    pour items sink =
      match firstFault? items with
      | some fault => ⟨.error (.body fault), s, (chunksBeforeFault items).length + 1⟩
      | none => ⟨.ok (), s, (chunksBeforeFault items).length⟩ := by
  induction items generalizing sink with
  | nil =>
    cases h
    rfl
  | cons item rest ih =>
    cases item with
    | fault fault =>
        cases h
        rfl
    | bytes bytes =>
        cases h with
        | cons first later =>
            rw [pour, first.writeAll_eq]
            dsimp only
            rw [ih later, firstFault?]
            cases firstFault? rest <;> rfl

/-- No sink does both. -/
theorem not_refusesAt_of_takesAll {s' : Sink} {j n : Nat} {report : String}
    (h : sink.TakesAll (chunksBeforeFault items) s) :
    ¬ sink.RefusesAt (chunksBeforeFault items) j n report s' := by
  intro h'
  have hpour := (pour_of_takesAll h).symm.trans (pour_of_refusesAt h')
  cases hfault : firstFault? items with
  | some fault =>
      rw [hfault] at hpour
      cases hpour
  | none =>
      rw [hfault] at hpour
      cases hpour

end Pouring

namespace Response

variable {r : Response} {sink s : Sink} {failOnHttpError : Bool} {taken : Nat}

/-! ## 3. Reading -/

theorem readInto_of_stopped {cause : ReadCause}
    (h : pour r.body.items sink = ⟨.error cause, s, taken⟩) :
    r.readInto sink failOnHttpError = ⟨.error (.read r.url cause), s, taken, []⟩ := by
  rw [readInto, h]

theorem readInto_of_poured (h : pour r.body.items sink = ⟨.ok (), s, taken⟩) :
    r.readInto sink failOnHttpError =
      match s.manner.flushFault s.flushes with
      | some report => ⟨.error (.read r.url (.writing report)), s.flushed, taken, []⟩
      | none => ⟨(r.settleStatus failOnHttpError).1, s.flushed, taken,
          (r.settleStatus failOnHttpError).2⟩ := by
  rw [readInto, h]
  dsimp only
  rw [Sink.flush]
  cases s.manner.flushFault s.flushes <;> rfl

theorem isSuccess_iff : r.isSuccess = true ↔ 200 ≤ r.status.code ∧ r.status.code < 300 := by
  rw [isSuccess, Status.isSuccess, Bool.and_eq_true, decide_eq_true_eq, decide_eq_true_eq]

/-- What a status comes to once everything else went well. -/
structure Settled (r : Response) (failOnHttpError : Bool) (reading : Reading) : Prop where
  /-- A status of the two hundreds is none to talk about. -/
  success : 200 ≤ r.status.code ∧ r.status.code < 300 →
    reading.result = .ok () ∧ reading.notices = []
  /-- Any other is a failure where the caller minds. -/
  http : ¬ (200 ≤ r.status.code ∧ r.status.code < 300) → failOnHttpError = true →
    reading.result = .error (.http r.status r.url) ∧ reading.notices = []
  /-- Where the caller does not, there is one warning. -/
  ignored : ¬ (200 ≤ r.status.code ∧ r.status.code < 300) → failOnHttpError = false →
    reading.result = .ok () ∧ reading.notices = [.statusIgnored r.status r.url] ∧
      reading.notices.map Notice.line = ["WARN " ++ ("got HTTP error " ++ r.status.text ++ " for " ++
        r.url ++ " but fail_on_http_error is not set")]

theorem settled_settleStatus {reading : Reading}
    (hresult : reading.result = (r.settleStatus failOnHttpError).1)
    (hnotices : reading.notices = (r.settleStatus failOnHttpError).2) :
    r.Settled failOnHttpError reading := by
  unfold settleStatus at hresult hnotices
  refine ⟨fun h => ?_, fun h flag => ?_, fun h flag => ?_⟩
  · rw [if_pos (isSuccess_iff.mpr h)] at hresult hnotices
    exact ⟨hresult, hnotices⟩
  · rw [if_neg (mt isSuccess_iff.mp h), if_pos flag] at hresult hnotices
    exact ⟨hresult, hnotices⟩
  · rw [if_neg (mt isSuccess_iff.mp h), if_neg (Bool.eq_false_iff.mp flag)] at hresult hnotices
    refine ⟨hresult, hnotices, ?_⟩
    rw [hnotices]
    rfl

/-- The reading of a response into a sink: what counts first, and what it comes to. -/
structure Precedence (r : Response) (sink : Sink) (failOnHttpError : Bool) (reading : Reading) :
    Prop where
  /-- What is added to the sink is a beginning of the bytes before the first fault. -/
  beginning : ∃ stored, reading.sink.data = sink.data ++ stored ∧
    stored <+: bytesBeforeFault r.body.items
  /-- The sink takes all chunks before the first fault, or it rejects a byte of one of them. -/
  either : (∃ s, sink.TakesAll r.body.chunks s) ↔
    ¬ ∃ j n report s', sink.RefusesAt r.body.chunks j n report s'
  /-- A rejected byte counts first. No item behind its chunk is taken, and nothing is flushed. -/
  rejected : ∀ j n report s', sink.RefusesAt r.body.chunks j n report s' →
    reading = ⟨.error (.read r.url (.writing report)), s', j + 1, []⟩ ∧
      s'.flushes = sink.flushes ∧
      ∃ chunk, r.body.items[j]? = some (.bytes chunk) ∧ n < chunk.length ∧
        s'.data = sink.data ++ ((r.body.chunks.take j).flatten ++ chunk.take n)
  /-- Then the first fault counts. No item behind it is taken, and nothing is flushed. -/
  faulted : ∀ s fault, sink.TakesAll r.body.chunks s → r.body.fault? = some fault →
    reading = ⟨.error (.read r.url (.body fault)), s, r.body.chunks.length + 1, []⟩ ∧
      s.flushes = sink.flushes ∧
      r.body.items[r.body.chunks.length]? = some (.fault fault) ∧
      s.data = sink.data ++ bytesBeforeFault r.body.items
  /-- Where there is none, all items are taken, and the sink is flushed once, whatever comes of
      it. -/
  flushed : ∀ s, sink.TakesAll r.body.chunks s → r.body.fault? = none →
    reading.sink = s.flushed ∧ reading.taken = r.body.items.length ∧
      s.flushed.flushes = sink.flushes + 1 ∧
      s.flushed.data = sink.data ++ bytesBeforeFault r.body.items
  /-- A flush that fails counts before the status. -/
  unflushed : ∀ s report, sink.TakesAll r.body.chunks s → r.body.fault? = none →
    sink.manner.flushFault sink.flushes = some report →
    reading.result = .error (.read r.url (.writing report)) ∧ reading.notices = []
  /-- The status counts last. -/
  settled : ∀ s, sink.TakesAll r.body.chunks s → r.body.fault? = none →
    sink.manner.flushFault sink.flushes = none →
    r.Settled failOnHttpError reading

/-- All chunks are all bytes before the first fault. -/
theorem data_of_takesAll (h : sink.TakesAll r.body.chunks s) :
    s.data = sink.data ++ bytesBeforeFault r.body.items := by
  rw [h.data, Body.chunks, flatten_chunksBeforeFault]

/-- A reading whose sink takes all bytes of a body without a fault is decided by the flush and the
    status. -/
theorem readInto_of_takesAll (h : sink.TakesAll r.body.chunks s) (unbroken : r.body.fault? = none) :
    r.readInto sink failOnHttpError =
      match sink.manner.flushFault sink.flushes with
      | some report =>
        ⟨.error (.read r.url (.writing report)), s.flushed, r.body.items.length, []⟩
      | none => ⟨(r.settleStatus failOnHttpError).1, s.flushed, r.body.items.length,
          (r.settleStatus failOnHttpError).2⟩ := by
  have hpour := pour_of_takesAll h
  obtain ⟨hmanner, hflushes⟩ := h.manner_flushes
  rw [show firstFault? r.body.items = none from unbroken, length_chunksBeforeFault unbroken] at hpour
  rw [readInto_of_poured hpour, hmanner, hflushes]

/-- **Precedence.** For any response, whatever its status and its body, any sink, whatever room it
    has at each write and whether it can be flushed or not, and either flag, what goes wrong first
    counts: a rejected byte or the first fault of the body, whichever the reading comes to, then the
    flush, and the status last. -/
theorem precedence (r : Response) (sink : Sink) (failOnHttpError : Bool) :
    r.Precedence sink failOnHttpError (r.readInto sink failOnHttpError) where
  beginning := by
    obtain ⟨stored, h⟩ := r.leaves_readInto sink failOnHttpError
    exact ⟨stored, h.data, h.beginning⟩
  either := by
    refine ⟨fun ⟨s, h⟩ ⟨j, n, report, s', h'⟩ => not_refusesAt_of_takesAll h h', fun h => ?_⟩
    exact (sink.takesAll_or_refusesAt _).resolve_right h
  rejected j n report s' h := by
    obtain ⟨chunk, hchunk, hlt, hdata⟩ := h.data
    exact ⟨readInto_of_stopped (pour_of_refusesAt h), h.flushes, chunk,
      getElem?_of_chunksBeforeFault hchunk, hlt, hdata⟩
  faulted s fault h hfault := by
    have hpour := pour_of_takesAll h
    have hitem := getElem?_length_chunksBeforeFault r.body.items
    rw [show firstFault? r.body.items = some fault from hfault] at hpour hitem
    exact ⟨readInto_of_stopped hpour, h.manner_flushes.2, hitem, data_of_takesAll h⟩
  flushed s h unbroken := by
    have hdata : s.data = sink.data ++ bytesBeforeFault r.body.items := data_of_takesAll h
    have hflushes : s.flushed.flushes = sink.flushes + 1 := congrArg (· + 1) h.manner_flushes.2
    rw [readInto_of_takesAll h unbroken]
    cases sink.manner.flushFault sink.flushes <;> exact ⟨rfl, rfl, hflushes, hdata⟩
  unflushed s report h unbroken hreport := by
    rw [readInto_of_takesAll h unbroken, hreport]
    exact ⟨rfl, rfl⟩
  settled s h unbroken hflush := by
    rw [readInto_of_takesAll h unbroken, hflush]
    exact settled_settleStatus rfl rfl

/-- A sink with room for three bytes, one in each write, rejects the last byte before the fault. -/
example :
    let r : Response :=
      { status := { code := 404 }, url := "http://a/"
        body := .arriving
          [.bytes [1, 2], .bytes [], .bytes [3, 4], .fault { kind := .body, report := "reset" }] }
    let sink : Sink := { manner := .limited (some 1) (some 3) "full" none }
    let reading := r.readInto sink false
    (reading.sink.data, reading.taken, reading.sink.flushes) = ([1, 2, 3], 3, 0) := by
  decide +kernel

end Response

end Courier
