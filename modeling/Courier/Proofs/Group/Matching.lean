import Courier.Proofs.Group.Slots
import Courier.Proofs.Uniformity

/-!
# Reading a group into memory and into writers

The responses of a group are read into memory by one recursion over the slots and into writers by
another. Over writers that never fail they come to the same: the results differ only in that one
list holds the bodies, as many items are pulled, and the same is reported (`matches_routeFrom`). It
does not count whether there is a writer for each slot or a single one for all.

What becomes of the bodies is told by the writers: with one for each slot, each holds the body of
its own (`readSlot_eq_ok_iff`), and a single one holds all of them, one behind the other
(`data_foldl_leftBy`). `matching` puts it together for writers in memory.
-/

namespace Courier.Group

variable {failOnHttpError : Bool} {i : Nat} {writer : Sink} {writers : List Sink}
  {outcomes : List (Except Failure Response)}

/-! ## 1. Results, items and reports -/

/-- A result without its value. -/
def withoutValue {α : Type} (result : Except Failure α) : Except Failure Unit :=
  result.map fun _ => ()

theorem withoutValue_eq_error_iff {α : Type} {result : Except Failure α} {failure : Failure} :
    withoutValue result = .error failure ↔ result = .error failure := by
  cases result with
  | error failure' => simp only [withoutValue, Except.map, Except.error.injEq]
  | ok a => exact ⟨nofun, nofun⟩

/-- Responses were read into writers as they were into memory. -/
structure Matches (read : Collected Bytes) (routed : Collected Unit) : Prop where
  /-- The results differ only in the bodies. -/
  results : routed.results = read.results.map withoutValue
  /-- As many items came off the network. -/
  pulled : routed.pulled = read.pulled
  /-- The same was reported, in the same order. -/
  notices : routed.notices = read.notices

theorem atMember_withoutValue {α : Type} (i : Nat) (result : Except Failure α) :
    atMember i (withoutValue result) = withoutValue (atMember i result) := by
  cases result <;> rfl

/-- Reading into memory visits one slot after the other, each with an empty writer. -/
theorem readFrom_cons (failOnHttpError : Bool) (i : Nat) (outcome : Except Failure Response)
    (outcomes : List (Except Failure Response)) :
    let v := visit failOnHttpError i (some .memory) outcome
    let later := readFrom failOnHttpError (i + 1) outcomes
    readFrom failOnHttpError i (outcome :: outcomes) =
      ⟨readSlot failOnHttpError i outcome :: later.results, v.pulled + later.pulled,
        v.notices ++ later.notices⟩ := by
  intro v later
  cases outcome with
  | error failure =>
      show { later with results := _ } = Collected.mk _ (0 + later.pulled) ([] ++ later.notices)
      rw [Nat.zero_add, List.nil_append]
      rfl
  | ok response => rfl

/-- A visit to a response with a writer that never fails comes to what is told of the response. -/
theorem visit_of_neverFails (never : writer.manner.NeverFails) (failOnHttpError : Bool) (i : Nat)
    (response : Response) :
    ∃ s : Sink, visit failOnHttpError i (some writer) (.ok response) =
      ⟨atMember i (response.told failOnHttpError).1, some s,
        response.body.pulled (gather response.body.items).2,
        (response.told failOnHttpError).2⟩ := by
  obtain ⟨s, -, -, hreading⟩ := response.readInto_of_neverFails never failOnHttpError
  refine ⟨s, ?_⟩
  show Visit.mk _ _ _ _ = _
  rw [hreading]

/-- **A visit with a writer that never fails tells the same as one with an empty writer**, and its
    result is that of reading into memory. -/
theorem visit_matches (never : writer.manner.NeverFails) (failOnHttpError : Bool) (i : Nat)
    (outcome : Except Failure Response) :
    let v := visit failOnHttpError i (some writer) outcome
    let inMemory := visit failOnHttpError i (some .memory) outcome
    v.result = withoutValue (readSlot failOnHttpError i outcome) ∧ v.pulled = inMemory.pulled ∧
      v.notices = inMemory.notices := by
  intro v inMemory
  cases outcome with
  | error failure => exact ⟨rfl, rfl, rfl⟩
  | ok response =>
      obtain ⟨s, hv⟩ := visit_of_neverFails never failOnHttpError i response
      obtain ⟨s', hinMemory⟩ :=
        visit_of_neverFails Sink.neverFails_memory failOnHttpError i response
      have hv : v = _ := hv
      have hinMemory : inMemory = _ := hinMemory
      rw [hv, hinMemory]
      refine ⟨?_, rfl, rfl⟩
      rw [readSlot, Response.bytes_readToMemory, ← atMember_withoutValue]
      cases (response.told failOnHttpError).1 <;> rfl

/-- A writer that never fails is left as it was, with the bytes of the body behind its own. -/
theorem leftBy_of_neverFails (never : writer.manner.NeverFails) (failOnHttpError : Bool)
    (response : Response) :
    (leftBy failOnHttpError writer (.ok response)).manner = writer.manner ∧
      (leftBy failOnHttpError writer (.ok response)).data =
        writer.data ++ response.body.chunks.flatten := by
  obtain ⟨s, hmanner, hdata, hreading⟩ := response.readInto_of_neverFails never failOnHttpError
  rw [leftBy, hreading]
  exact ⟨hmanner, hdata⟩

theorem neverFails_leftBy (never : writer.manner.NeverFails) (outcome : Except Failure Response) :
    (leftBy failOnHttpError writer outcome).manner.NeverFails := by
  cases outcome with
  | error failure => exact never
  | ok response =>
      rw [(leftBy_of_neverFails never failOnHttpError response).1]
      exact never

/-- **Over writers that never fail, one for each slot or one for all, routing tells the same as
    reading into memory.** -/
theorem matches_routeFrom (never : ∀ writer ∈ writers, writer.manner.NeverFails)
    (enough : ∀ j < outcomes.length, writerFor writers.length (i + j) < writers.length) :
    Matches (readFrom failOnHttpError i outcomes)
      (routeFrom failOnHttpError i writers outcomes).1 := by
  induction outcomes generalizing i writers with
  | nil => exact ⟨rfl, rfl, rfl⟩
  | cons outcome rest ih =>
    have hplace : writerFor writers.length i < writers.length := enough 0 (Nat.succ_pos _)
    have hcons := routeFrom_cons failOnHttpError i writers outcome rest
    generalize writerFor writers.length i = place at hplace hcons
    obtain ⟨writer, hwriter⟩ : ∃ writer, writers[place]? = some writer :=
      ⟨_, List.getElem?_eq_getElem hplace⟩
    have hnever : writer.manner.NeverFails := never writer (List.mem_of_getElem? hwriter)
    have hleave : (visit failOnHttpError i (some writer) outcome).leave place writers =
        writers.set place (leftBy failOnHttpError writer outcome) := by
      rw [Visit.leave, writer_visit]
    -- the writer that the slot leaves is one that never fails, and there are as many as before
    have hlater : Matches (readFrom failOnHttpError (i + 1) rest) (routeFrom failOnHttpError (i + 1)
        (writers.set place (leftBy failOnHttpError writer outcome)) rest).1 := by
      refine ih (fun w hw => ?_) fun j hj => ?_
      · rcases List.mem_or_eq_of_mem_set hw with hw | rfl
        · exact never w hw
        · exact neverFails_leftBy hnever outcome
      · rw [List.length_set, Nat.add_right_comm]
        exact enough (j + 1) (Nat.succ_lt_succ hj)
    obtain ⟨hresult, hpulled, hnotices⟩ := visit_matches hnever failOnHttpError i outcome
    dsimp only at hcons
    rw [hwriter, hleave] at hcons
    rw [hcons, readFrom_cons]
    exact ⟨congrArg₂ List.cons hresult hlater.results, congrArg₂ (· + ·) hpulled hlater.pulled,
      congrArg₂ (· ++ ·) hnotices hlater.notices⟩

/-! ## 2. Bodies -/

/-- **What a slot has in memory is what it leaves in a writer of its own.** -/
theorem readSlot_eq_ok_iff {outcome : Except Failure Response} {bytes : Bytes} :
    readSlot failOnHttpError i outcome = .ok bytes ↔
      (pourSlot failOnHttpError i .memory outcome).1 = .ok () ∧
        (pourSlot failOnHttpError i .memory outcome).2.data = bytes := by
  cases outcome with
  | error failure =>
      constructor
      · intro h
        cases h
      · rintro ⟨h, -⟩
        cases h
  | ok response =>
      show atMember i (response.readToMemory failOnHttpError).bytes = _ ↔
        atMember i (response.readToMemory failOnHttpError).result = _ ∧
          (response.readToMemory failOnHttpError).sink.data = _
      rw [Reading.bytes]
      cases (response.readToMemory failOnHttpError).result with
      | error failure =>
          constructor
          · intro h
            cases h
          · rintro ⟨h, -⟩
            cases h
      | ok _ => simp only [Except.map, atMember, Except.ok.injEq, true_and]

/-- What a response has in memory are the bytes of its body. -/
theorem flatten_chunks_of_readSlot {response : Response} {bytes : Bytes}
    (h : readSlot failOnHttpError i (.ok response) = .ok bytes) :
    response.body.chunks.flatten = bytes := by
  rw [readSlot, response.bytes_readToMemory] at h
  cases htold : (response.told failOnHttpError).1 with
  | error failure =>
      rw [htold] at h
      cases h
  | ok _ =>
      rw [htold] at h
      exact Except.ok.inj h

/-- **A single writer holds all bodies, one behind the other**, where every slot went well. -/
theorem data_foldl_leftBy (never : writer.manner.NeverFails) {bodies : List Bytes}
    (h : (readFrom failOnHttpError i outcomes).results = bodies.map .ok) :
    (outcomes.foldl (leftBy failOnHttpError) writer).data = writer.data ++ bodies.flatten := by
  induction outcomes generalizing i writer bodies with
  | nil =>
    obtain rfl : bodies = [] := List.map_eq_nil_iff.mp h.symm
    exact (List.append_nil _).symm
  | cons outcome rest ih =>
    cases bodies with
    | nil => cases outcome <;> cases h
    | cons body bodies =>
      cases outcome with
      | error failure => cases h
      | ok response =>
          obtain ⟨hbody, hrest⟩ := List.cons.inj h
          obtain ⟨hmanner, hdata⟩ := leftBy_of_neverFails never failOnHttpError response
          rw [List.foldl_cons, ih (hmanner ▸ never) hrest, hdata, flatten_chunks_of_readSlot hbody,
            List.flatten_cons, List.append_assoc]

/-! ## 3. Writers in memory -/

/-- Reading the responses of a group into memory; into an empty writer for each of them, their
    `own`; and into one empty writer, which is `shared`. -/
structure Matching (failOnHttpError : Bool) (outcomes : List (Except Failure Response))
    (read : Collected Bytes) (own shared : Collected Unit × List Sink) : Prop where
  /-- A slot has some bytes in memory just where its writer went well and ends with them. -/
  whole : ∀ (i : Nat) (bytes : Bytes), read.results[i]? = some (.ok bytes) ↔
    own.1.results[i]? = some (.ok ()) ∧ (own.2[i]?).map Sink.data = some bytes
  /-- It has a failure in memory just where it has the same with its writer. -/
  failed : ∀ (i : Nat) (failure : Failure), read.results[i]? = some (.error failure) ↔
    own.1.results[i]? = some (.error failure)
  /-- A failure that stood there before is kept. -/
  kept : ∀ (i : Nat) (failure : Failure), outcomes[i]? = some (.error failure) →
    read.results[i]? = some (.error failure)
  /-- A failure of reading is wrapped with the index. -/
  wrapped : ∀ (i : Nat) (response : Response) (failure : Failure),
    outcomes[i]? = some (.ok response) →
    (read.results[i]? = some (.error failure) ↔ ∃ inner, failure = .member i inner ∧
      (response.readToMemory failOnHttpError).bytes = .error inner)
  /-- As many items are pulled, and the same is reported. -/
  apart : Matches read own.1
  /-- A single writer makes no difference to results, items and reports. -/
  together : Matches read shared.1
  /-- Where every slot went well it holds the bodies, one behind the other. -/
  joined : ∀ bodies : List Bytes, read.results = bodies.map .ok →
    shared.2.map Sink.data = [bodies.flatten]

/-- **Matching.** For any outcomes and either flag, reading the responses into memory and reading
    them into empty writers come to the same, be there a writer for each of them or one for all. -/
theorem matching (failOnHttpError : Bool) (outcomes : List (Except Failure Response)) :
    Matching failOnHttpError outcomes (read outcomes failOnHttpError)
      (route (List.replicate outcomes.length .memory) outcomes failOnHttpError)
      (route [.memory] outcomes failOnHttpError) := by
  have hslot : ∀ i (outcome : Except Failure Response), outcomes[i]? = some outcome →
      (route (List.replicate outcomes.length .memory) outcomes failOnHttpError).1.results[i]? =
          some (pourSlot failOnHttpError i .memory outcome).1 ∧
        (route (List.replicate outcomes.length .memory) outcomes failOnHttpError).2[i]? =
          some (pourSlot failOnHttpError i .memory outcome).2 := by
    intro i outcome hi
    refine route_of_enough (Nat.le_of_eq List.length_replicate.symm) ?_ hi
    rw [List.getElem?_replicate, if_pos (List.getElem?_eq_some_iff.mp hi).1]
  have hapart : Matches (read outcomes failOnHttpError)
      (route (List.replicate outcomes.length .memory) outcomes failOnHttpError).1 := by
    refine matches_routeFrom (fun writer hw => ?_) fun j hj => ?_
    · rw [List.eq_of_mem_replicate hw]
      exact Sink.neverFails_memory
    · rw [List.length_replicate, Nat.zero_add, writerFor_of_lt hj]
      exact hj
  refine
    { whole := fun i bytes => ?_
      failed := fun i failure => ?_
      kept := fun i failure hi => ?_
      wrapped := fun i response failure hi => ?_
      apart := hapart
      together := matches_routeFrom (fun writer hw => ?_) fun j _ => Nat.zero_lt_one
      joined := fun bodies h => ?_ }
  · rw [getElem?_read]
    cases hi : outcomes[i]? with
    | none =>
        rw [hapart.results, List.getElem?_map, getElem?_read, hi]
        exact ⟨nofun, nofun⟩
    | some outcome =>
        obtain ⟨hresult, hwriter⟩ := hslot i outcome hi
        rw [hresult, hwriter, Option.map_some, Option.map_some, Option.some.injEq,
          Option.some.injEq, Option.some.injEq]
        exact readSlot_eq_ok_iff
  · rw [hapart.results, List.getElem?_map]
    cases (read outcomes failOnHttpError).results[i]? with
    | none => exact ⟨nofun, nofun⟩
    | some result =>
        rw [Option.map_some, Option.some.injEq, Option.some.injEq, withoutValue_eq_error_iff]
  · rw [getElem?_read, hi]
    rfl
  · rw [getElem?_read, hi, Option.map_some, Option.some.injEq, readSlot]
    cases (response.readToMemory failOnHttpError).bytes with
    | ok bytes => exact ⟨nofun, fun ⟨_, _, h⟩ => by cases h⟩
    | error inner =>
        simp only [atMember, Except.error.injEq, exists_eq_right']
        exact eq_comm
  · rw [List.mem_singleton.mp hw]
    exact Sink.neverFails_memory
  · rw [route, routeFrom_single, handedTo, List.take_length, List.map_singleton,
      data_foldl_leftBy Sink.neverFails_memory h]
    rfl

end Courier.Group
