import Courier.Proofs.Capacity
import Courier.Proofs.Precedence

/-!
# All ways of reading a body agree

The body of a response can be gathered whatever the status, read into memory, or read into any
other sink. All three come to the same (`Response.uniformity`):

* reading into memory goes well just where gathering does, or tells of the fault that gathering
  meets with, and the status counts only afterwards;
* a sink that never fails tells the same as memory, and stores the bytes before the first fault;
* how a body is cut into chunks is not seen, not even where the sink fails after some bytes.

`readInto_of_neverFails` and `readInto_of_failsAfter` say what reading into a sink of either kind
comes to, in terms of the bytes of the body alone.
-/

namespace Courier

/-! ## 1. Gathering -/

/-- Gathering goes on to the first fault or to the end, as pouring into a sink that takes
    everything does. -/
theorem gather_eq (items : List Item) :
    gather items =
      match firstFault? items with
      | some fault => (.error fault, (chunksBeforeFault items).length + 1)
      | none => (.ok (bytesBeforeFault items), (chunksBeforeFault items).length) := by
  induction items with
  | nil => rfl
  | cons item rest ih =>
    cases item with
    | fault fault => rfl
    | bytes bytes =>
        rw [gather, ih, firstFault?]
        cases firstFault? rest <;> rfl

/-- Two bodies have the same bytes, each cut into chunks in its own way, and behind them the same
    fault or none. -/
structure Body.Recut (b b' : Body) : Prop where
  fault : b'.fault? = b.fault?
  same : b'.chunks.flatten = b.chunks.flatten

/-- Two bodies without a fault have the same bytes, each cut into chunks in its own way. -/
structure Body.SameBytes (b b' : Body) : Prop where
  unbroken : b.fault? = none
  unbroken' : b'.fault? = none
  same : b'.chunks.flatten = b.chunks.flatten

theorem Body.SameBytes.recut {b b' : Body} (h : b.SameBytes b') : b.Recut b' where
  fault := h.unbroken'.trans h.unbroken.symm
  same := h.same

namespace Response

variable {r : Response} {sink : Sink} {failOnHttpError : Bool}

theorem bytes_of_fault {fault : Fault} (h : r.body.fault? = some fault) :
    r.bytes = .error fault := by
  rw [bytes, gather_eq, show firstFault? r.body.items = some fault from h]

theorem bytes_of_unbroken (unbroken : r.body.fault? = none) :
    r.bytes = .ok r.body.chunks.flatten := by
  rw [bytes, gather_eq, show firstFault? r.body.items = none from unbroken, Body.chunks,
    flatten_chunksBeforeFault]

theorem bytes_of_recut {body : Body} (h : r.body.Recut body) :
    bytes { r with body } = r.bytes := by
  cases hfault : r.body.fault? with
  | some fault => rw [bytes_of_fault hfault, bytes_of_fault (h.fault.trans hfault)]
  | none => rw [bytes_of_unbroken hfault, bytes_of_unbroken (h.fault.trans hfault), h.same]

theorem bytes_of_sameBytes {body : Body} (h : r.body.SameBytes body) :
    bytes { r with body } = r.bytes := bytes_of_recut h.recut

/-! ## 2. Sinks that never fail -/

/-- What is told of a response that is read into a sink which never fails. -/
def told (r : Response) (failOnHttpError : Bool) : Except Failure Unit × List Notice :=
  match r.bytes with
  | .error fault => (.error (.read r.url (.body fault)), [])
  | .ok _ => r.settleStatus failOnHttpError

theorem told_of_fault {fault : Fault} (h : r.body.fault? = some fault) :
    r.told failOnHttpError = (.error (.read r.url (.body fault)), []) := by
  rw [told, bytes_of_fault h]

theorem told_of_unbroken (unbroken : r.body.fault? = none) :
    r.told failOnHttpError = r.settleStatus failOnHttpError := by
  rw [told, bytes_of_unbroken unbroken]

theorem told_of_recut {body : Body} (h : r.body.Recut body) :
    told { r with body } failOnHttpError = r.told failOnHttpError := by
  rw [told, told, bytes_of_recut h]
  rfl

theorem told_of_sameBytes {body : Body} (h : r.body.SameBytes body) :
    told { r with body } failOnHttpError = r.told failOnHttpError := told_of_recut h.recut

/-- **Reading into a sink that never fails comes to what is told of the response**, and stores the
    bytes before the first fault. -/
theorem readInto_of_neverFails (r : Response) (never : sink.manner.NeverFails)
    (failOnHttpError : Bool) :
    ∃ s : Sink, s.manner = sink.manner ∧ s.data = sink.data ++ r.body.chunks.flatten ∧
      r.readInto sink failOnHttpError =
        ⟨(r.told failOnHttpError).1, s, (gather r.body.items).2, (r.told failOnHttpError).2⟩ := by
  obtain ⟨s, htakes⟩ := Sink.exists_takesAll never r.body.chunks
  have hpour := pour_of_takesAll htakes
  cases hfault : r.body.fault? with
  | some fault =>
      have hfirst : firstFault? r.body.items = some fault := hfault
      rw [hfirst] at hpour
      refine ⟨s, htakes.manner_flushes.1, htakes.data, ?_⟩
      rw [readInto_of_stopped hpour, told_of_fault hfault, gather_eq, hfirst]
  | none =>
      have hfirst : firstFault? r.body.items = none := hfault
      refine ⟨s.flushed, htakes.manner_flushes.1, htakes.data, ?_⟩
      rw [readInto_of_takesAll htakes hfault, never.flushes, told_of_unbroken hfault, gather_eq,
        hfirst, length_chunksBeforeFault hfirst]

theorem bytes_readToMemory (r : Response) (failOnHttpError : Bool) :
    (r.readToMemory failOnHttpError).bytes =
      (r.told failOnHttpError).1.map fun _ => r.body.chunks.flatten := by
  obtain ⟨s, -, hdata, hreading⟩ :=
    r.readInto_of_neverFails Sink.neverFails_memory failOnHttpError
  rw [readToMemory, hreading, Reading.bytes]
  dsimp only
  rw [hdata]
  rfl

theorem notices_readToMemory (r : Response) (failOnHttpError : Bool) :
    (r.readToMemory failOnHttpError).notices = (r.told failOnHttpError).2 := by
  obtain ⟨s, -, -, hreading⟩ := r.readInto_of_neverFails Sink.neverFails_memory failOnHttpError
  exact congrArg Reading.notices hreading

/-- Where the status does not matter, memory holds what gathering comes to, or the fault is told of
    with the URL. -/
theorem bytes_readToMemory_false (r : Response) :
    (r.readToMemory false).bytes =
      match r.bytes with
      | .error fault => .error (.read r.url (.body fault))
      | .ok bytes => .ok bytes := by
  rw [bytes_readToMemory]
  cases hfault : r.body.fault? with
  | some fault =>
      rw [told_of_fault hfault, bytes_of_fault hfault]
      rfl
  | none =>
      rw [told_of_unbroken hfault, bytes_of_unbroken hfault,
        settleStatus_eq_ok_iff.mpr (.inr rfl)]
      rfl

/-! ## 3. Sinks that fail after some bytes -/

/-- **Reading into a sink that fails after some bytes** stores as many bytes of the body as there is
    room for. It fails where some are left, and otherwise the flush and the status decide. -/
theorem readInto_of_failsAfter (r : Response) {total : Nat} {report : String}
    (fails : sink.manner.FailsAfter total report) (unbroken : r.body.fault? = none)
    (failOnHttpError : Bool) :
    let all := r.body.chunks.flatten
    let left := total - sink.data.length
    let reading := r.readInto sink failOnHttpError
    reading.sink.data = sink.data ++ all.take left ∧
      reading.result =
        if left < all.length then .error (.read r.url (.writing report))
        else
          match sink.manner.flushFault sink.flushes with
          | some report => .error (.read r.url (.writing report))
          | none => (r.settleStatus failOnHttpError).1 := by
  intro all left reading
  rcases sink.takesAll_or_refusesAt r.body.chunks with ⟨s, htakes⟩ | ⟨j, n, report', s, hrefuses⟩
  · have hfits : all.length ≤ left := htakes.fits fails
    have hreading : reading = _ := readInto_of_takesAll htakes unbroken
    rw [if_neg (Nat.not_lt.mpr hfits), List.take_of_length_le hfits, ← htakes.data, hreading]
    cases sink.manner.flushFault sink.flushes <;> exact ⟨rfl, rfl⟩
  · obtain ⟨hlt, hdata, rfl⟩ := hrefuses.overflows fails
    have hreading : reading = _ := readInto_of_stopped (pour_of_refusesAt hrefuses)
    rw [if_pos hlt, hreading]
    exact ⟨hdata, rfl⟩

/-! ## 4. All ways of reading -/

/-- The ways of reading a response agree, and how its body is cut is not seen. -/
structure Uniform (r : Response) : Prop where
  /-- Reading into memory goes well just where gathering does, with the same bytes. -/
  whole : ∀ bytes, r.bytes = .ok bytes ↔ (r.readToMemory false).bytes = .ok bytes
  /-- It fails just where gathering meets with a fault, and tells of it with the URL. -/
  broken : ∀ fault, r.bytes = .error fault ↔
    (r.readToMemory false).bytes = .error (.read r.url (.body fault))
  /-- As many items are taken. -/
  taken : ∀ failOnHttpError, (r.readToMemory failOnHttpError).taken = (gather r.body.items).2
  /-- Where the status matters, the same comes of it, other than that what went well becomes a
      failure unless the status is one of the two hundreds. -/
  minded : (r.readToMemory true).bytes =
    match (r.readToMemory false).bytes with
    | .error failure => .error failure
    | .ok bytes =>
      if 200 ≤ r.status.code ∧ r.status.code < 300 then .ok bytes
      else .error (.http r.status r.url)
  /-- A sink that never fails tells the same as memory and stores the bytes before the first
      fault. -/
  elsewhere : ∀ (sink : Sink) (failOnHttpError : Bool), sink.manner.NeverFails →
    let reading := r.readInto sink failOnHttpError
    let inMemory := r.readToMemory failOnHttpError
    reading.result = inMemory.bytes.map (fun _ => ()) ∧ reading.taken = inMemory.taken ∧
      reading.notices = inMemory.notices ∧
      reading.sink.data = sink.data ++ bytesBeforeFault r.body.items
  /-- With the same bytes cut in another way, gathering and reading into memory or into a sink that
      never fails come to the same. -/
  recut : ∀ body, r.body.SameBytes body →
    let r' : Response := { r with body }
    r'.bytes = r.bytes ∧
      ∀ failOnHttpError,
        (r'.readToMemory failOnHttpError).bytes = (r.readToMemory failOnHttpError).bytes ∧
        ∀ sink : Sink, sink.manner.NeverFails →
          (r'.readInto sink failOnHttpError).result = (r.readInto sink failOnHttpError).result ∧
          (r'.readInto sink failOnHttpError).sink.data =
            (r.readInto sink failOnHttpError).sink.data
  /-- So does reading into a sink that fails after some bytes. -/
  overflowing : ∀ body, r.body.SameBytes body →
    ∀ (sink : Sink) (total : Nat) (report : String) (failOnHttpError : Bool),
      sink.manner.FailsAfter total report →
      let reading' := readInto { r with body } sink failOnHttpError
      let reading := r.readInto sink failOnHttpError
      reading'.result = reading.result ∧ reading'.sink.data = reading.sink.data

/-- **Uniformity.** For any response, be its body held or arriving, in whatever chunks and with
    faults anywhere: gathering its body, reading it into memory and reading it into a sink that
    never fails agree, and how the bytes of a body without a fault are cut is not seen, not even
    where the sink fails after some of them. -/
theorem uniformity (r : Response) : r.Uniform where
  whole bytes := by
    rw [bytes_readToMemory_false]
    cases r.bytes with
    | error fault => exact ⟨nofun, nofun⟩
    | ok bytes' => simp only [Except.ok.injEq]
  broken fault := by
    rw [bytes_readToMemory_false]
    cases r.bytes with
    | error fault' =>
        simp only [Except.error.injEq, Failure.read.injEq, ReadCause.body.injEq, true_and]
    | ok bytes => exact ⟨nofun, nofun⟩
  taken flag := by
    obtain ⟨s, -, -, hreading⟩ := r.readInto_of_neverFails Sink.neverFails_memory flag
    exact congrArg Reading.taken hreading
  minded := by
    rw [bytes_readToMemory, bytes_readToMemory]
    cases hfault : r.body.fault? with
    | some fault =>
        rw [told_of_fault hfault, told_of_fault hfault]
        rfl
    | none =>
        rw [told_of_unbroken hfault, told_of_unbroken hfault,
          settleStatus_eq_ok_iff.mpr (.inr rfl), settleStatus]
        simp only [isSuccess_iff]
        split <;> rfl
  elsewhere sink flag never := by
    obtain ⟨s, -, hdata, hreading⟩ := r.readInto_of_neverFails never flag
    obtain ⟨s', -, -, hmemory⟩ := r.readInto_of_neverFails Sink.neverFails_memory flag
    intro reading inMemory
    have hbytes : inMemory.bytes = _ := r.bytes_readToMemory flag
    have hreading : reading = _ := hreading
    have hmemory : inMemory = _ := hmemory
    rw [hbytes, hreading, hmemory, ← flatten_chunksBeforeFault]
    refine ⟨?_, rfl, rfl, hdata⟩
    cases (r.told flag).1 <;> rfl
  recut body h := by
    refine ⟨bytes_of_sameBytes h, fun flag => ⟨?_, fun sink never => ?_⟩⟩
    · rw [bytes_readToMemory, bytes_readToMemory, told_of_sameBytes h, h.same]
    · obtain ⟨s, -, hdata, hreading⟩ := r.readInto_of_neverFails never flag
      obtain ⟨s', -, hdata', hreading'⟩ :=
        readInto_of_neverFails { r with body } never flag
      rw [hreading, hreading', told_of_sameBytes h, hdata, hdata', h.same]
      exact ⟨rfl, rfl⟩
  overflowing body h sink total report flag fails := by
    obtain ⟨hdata, hresult⟩ := r.readInto_of_failsAfter fails h.unbroken flag
    obtain ⟨hdata', hresult'⟩ :=
      readInto_of_failsAfter { r with body } fails h.unbroken' flag
    refine ⟨hresult'.trans (Eq.trans ?_ hresult.symm), hdata'.trans (Eq.trans ?_ hdata.symm)⟩
    · dsimp only
      rw [h.same]
      rfl
    · dsimp only
      rw [h.same]

/-- Six bytes, held or in five chunks of which two are empty: a sink that takes one at each write
    gets the same six, and a sink for four bytes that takes two at each write the same four. -/
theorem uniformity_of_six_bytes :
    let r : Response :=
      { status := .ok, url := "http://a/", body := .held (some [1, 2, 3, 4, 5, 6]) }
    let body : Body :=
      .arriving [.bytes [1, 2, 3], .bytes [], .bytes [4], .bytes [5, 6], .bytes []]
    let patient : Sink := { manner := .limited (some 1) none "full" none }
    let sink : Sink := { manner := .limited (some 2) (some 4) "full" none }
    r.body.SameBytes body ∧ patient.manner.NeverFails ∧ sink.manner.FailsAfter 4 "full" ∧
      (readInto { r with body } patient true).sink.data = [1, 2, 3, 4, 5, 6] ∧
      (readInto { r with body } sink true).result = (r.readInto sink true).result ∧
      (readInto { r with body } sink true).sink.data = [1, 2, 3, 4] := by
  intro r body patient sink
  have same : r.body.SameBytes body := ⟨rfl, rfl, rfl⟩
  have never : patient.manner.NeverFails := Sink.Manner.neverFails_limited (by decide) "full"
  have fails : sink.manner.FailsAfter 4 "full" :=
    Sink.Manner.failsAfter_limited (by decide) 4 "full" none
  obtain ⟨-, hpatient⟩ := (((uniformity r).recut body same).2 true).2 patient never
  obtain ⟨hresult, hdata⟩ := (uniformity r).overflowing body same sink 4 "full" true fails
  exact ⟨same, never, fails, hpatient.trans (by decide +kernel), hresult,
    hdata.trans (by decide +kernel)⟩

/-- A sink that counts its writes is of neither kind, and sees how a body is cut. -/
example :
    let manner : Sink.Manner :=
      { room := fun write _ => if write = 0 then .ok none else .error "once"
        flushFault := fun _ => none }
    let whole : Response := { status := .ok, url := "http://a/", body := .held (some [1, 2]) }
    let cut : Response := { whole with body := .arriving [.bytes [1], .bytes [2]] }
    ((whole.readInto { manner } true).sink.data, (cut.readInto { manner } true).sink.data) =
      ([1, 2], [1]) := by
  decide +kernel

end Response

end Courier
