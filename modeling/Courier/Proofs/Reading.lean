import Courier.Reading

/-!
# What reading a response leaves in a sink

Whatever a sink does and wherever a body breaks off, the sink has kept what it held, followed by a
beginning of the bytes that come before the first fault (`Response.leaves_readInto`). It is the
whole body where the reading went well or met with nothing but the status, and a reading that went
well has flushed the sink once.

`Response.readInto_cases` says once what a reading can come to; the other statements on readings
follow from it.
-/

namespace Courier

/-! ## 1. Pouring -/

theorem flushes_pour (items : List Item) (sink : Sink) :
    (pour items sink).sink.flushes = sink.flushes := by
  induction items generalizing sink with
  | nil => rfl
  | cons item rest ih =>
    cases item with
    | fault fault => rfl
    | bytes bytes =>
        have hwritten := (sink.manner_flushes_writeAll bytes).2
        rw [pour]
        rcases hw : sink.writeAll bytes with ⟨written, after⟩
        rw [hw] at hwritten
        cases written with
        | error report => exact hwritten
        | ok _ => exact (ih after).trans hwritten

theorem taken_pour_le (items : List Item) (sink : Sink) :
    (pour items sink).taken ≤ items.length := by
  induction items generalizing sink with
  | nil => exact Nat.le_refl 0
  | cons item rest ih =>
    rw [List.length_cons]
    cases item with
    | fault fault => exact Nat.le_add_left 1 rest.length
    | bytes bytes =>
        rw [pour]
        rcases sink.writeAll bytes with ⟨written, after⟩
        cases written with
        | error report => exact Nat.le_add_left 1 rest.length
        | ok _ => exact Nat.succ_le_succ (ih after)

/-- **What pouring adds to a sink is a beginning of the bytes before the first fault**, and all the
    bytes there are where it went well. -/
theorem data_pour (items : List Item) (sink : Sink) :
    ∃ stored, (pour items sink).sink.data = sink.data ++ stored ∧
      stored <+: bytesBeforeFault items ∧
      ((pour items sink).result = .ok () → (gather items).1 = .ok stored) := by
  induction items generalizing sink with
  | nil => exact ⟨[], (List.append_nil _).symm, List.nil_prefix, fun _ => rfl⟩
  | cons item rest ih =>
    cases item with
    | fault fault =>
        refine ⟨[], (List.append_nil _).symm, List.nil_prefix, fun h => ?_⟩
        cases h
    | bytes bytes =>
        obtain ⟨n, hdata, hall⟩ := sink.data_writeAll bytes
        rw [pour, bytesBeforeFault, gather]
        rcases hw : sink.writeAll bytes with ⟨written, after⟩
        rw [hw] at hdata hall
        cases written with
        | error report =>
            refine ⟨bytes.take n, hdata,
              (List.take_prefix n bytes).trans (List.prefix_append _ _), fun h => ?_⟩
            cases h
        | ok _ =>
            obtain ⟨stored, hstored, hbeginning, hwhole⟩ := ih after
            refine ⟨bytes ++ stored, ?_, (List.prefix_append_right_inj bytes).mpr hbeginning,
              fun h => ?_⟩
            · rw [hstored, hdata, hall rfl, List.append_assoc]
            · rw [hwhole h]
              rfl

/-! ## 2. Readings -/

/-- The result of a reading that has come to the end of a body: it went well, or met with nothing
    but the status. -/
inductive AtEnd : Except Failure Unit → Prop
  | ok : AtEnd (.ok ())
  | http (status : Status) (url : String) : AtEnd (.error (.http status url))

/-- A sink after a flush. -/
def Sink.flushed (s : Sink) : Sink := { s with flushes := s.flushes + 1 }

namespace Response

variable {r : Response} {sink : Sink} {failOnHttpError : Bool}

/-- **What a reading can come to.** The pouring stops, or the flush after it fails, or the status
    decides. -/
theorem readInto_cases (r : Response) (sink : Sink) (failOnHttpError : Bool)
    {motive : Reading → Prop}
    (stopped : ∀ cause, (pour r.body.items sink).result = .error cause →
      motive ⟨.error (.read r.url cause), (pour r.body.items sink).sink,
        (pour r.body.items sink).taken, []⟩)
    (unflushed : ∀ report, (pour r.body.items sink).result = .ok () →
      motive ⟨.error (.read r.url (.writing report)), (pour r.body.items sink).sink.flushed,
        (pour r.body.items sink).taken, []⟩)
    (settled : (pour r.body.items sink).result = .ok () →
      motive ⟨(r.settleStatus failOnHttpError).1, (pour r.body.items sink).sink.flushed,
        (pour r.body.items sink).taken, (r.settleStatus failOnHttpError).2⟩) :
    motive (r.readInto sink failOnHttpError) := by
  rw [readInto]
  cases hpoured : (pour r.body.items sink).result with
  | error cause => exact stopped cause hpoured
  | ok _ =>
      dsimp only
      rw [Sink.flush]
      cases (pour r.body.items sink).sink.manner.flushFault
          (pour r.body.items sink).sink.flushes with
      | none => exact settled hpoured
      | some report => exact unflushed report hpoured

theorem taken_readInto_le (r : Response) (sink : Sink) (failOnHttpError : Bool) :
    (r.readInto sink failOnHttpError).taken ≤ r.body.items.length :=
  readInto_cases r sink failOnHttpError
    (motive := fun reading => reading.taken ≤ r.body.items.length)
    (fun _ _ => taken_pour_le _ sink) (fun _ _ => taken_pour_le _ sink)
    fun _ => taken_pour_le _ sink

/-- A status does not matter where it is one of the two hundreds, or where the caller does not
    mind. -/
theorem settleStatus_eq_ok_iff :
    (r.settleStatus failOnHttpError).1 = .ok () ↔ r.isSuccess = true ∨ failOnHttpError = false := by
  rw [settleStatus]
  cases r.isSuccess <;> cases failOnHttpError <;> simp

/-- A sink after a reading of a response, when `stored` is what the reading added to it. -/
structure Leaves (r : Response) (sink : Sink) (failOnHttpError : Bool) (stored : Bytes)
    (reading : Reading) : Prop where
  /-- The sink has kept what it held. -/
  data : reading.sink.data = sink.data ++ stored
  /-- What was added is a beginning of the bytes before the first fault. -/
  beginning : stored <+: bytesBeforeFault r.body.items
  /-- It is the whole body where the reading came to the end. -/
  whole : AtEnd reading.result → r.bytes = .ok stored
  /-- A reading that went well has flushed the sink once, and the status did not matter. -/
  settled : reading.result = .ok () → reading.sink.flushes = sink.flushes + 1 ∧
    (r.isSuccess = true ∨ failOnHttpError = false)

/-- **Every reading leaves a sink so.** -/
theorem leaves_readInto (r : Response) (sink : Sink) (failOnHttpError : Bool) :
    ∃ stored, r.Leaves sink failOnHttpError stored (r.readInto sink failOnHttpError) := by
  obtain ⟨stored, hdata, hbeginning, hwhole⟩ := data_pour r.body.items sink
  have hflushes := flushes_pour r.body.items sink
  refine ⟨stored, readInto_cases r sink failOnHttpError (fun cause _ => ?_) (fun report _ => ?_)
    fun hpoured => ?_⟩
  · exact ⟨hdata, hbeginning, nofun, nofun⟩
  · exact ⟨hdata, hbeginning, nofun, nofun⟩
  · refine ⟨hdata, hbeginning, fun _ => hwhole hpoured, fun h => ⟨?_, ?_⟩⟩
    · exact congrArg (· + 1) hflushes
    · exact settleStatus_eq_ok_iff.mp h

/-- A failure of the reading of this response: it says whose response it was. -/
inductive Unreadable (r : Response) : Failure → Prop
  | http : Unreadable r (.http r.status r.url)
  | read (cause : ReadCause) : Unreadable r (.read r.url cause)

theorem unreadable_of_settleStatus {failure : Failure}
    (h : (r.settleStatus failOnHttpError).1 = .error failure) : r.Unreadable failure := by
  unfold settleStatus at h
  split at h
  · cases h
  · split at h
    · cases h
      exact .http
    · cases h

/-- **Whatever goes wrong while a response is read is told with the URL of the response.** -/
theorem unreadable_of_readInto {failure : Failure}
    (h : (r.readInto sink failOnHttpError).result = .error failure) : r.Unreadable failure := by
  revert h
  refine readInto_cases r sink failOnHttpError
    (motive := fun reading => reading.result = .error failure → r.Unreadable failure)
    (fun cause _ h => ?_) (fun report _ h => ?_) fun _ h => unreadable_of_settleStatus h
  · cases h
    exact .read cause
  · cases h
    exact .read (.writing report)

end Response

end Courier
