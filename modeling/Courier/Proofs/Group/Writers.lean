import Courier.Proofs.Group.Slots

/-!
# What a group leaves in its writers

The responses of a group are written to writers that may refuse, fail to flush or keep half of what
they are offered (`routing`).

* A single writer takes all responses, in input order. It ends with what it held, followed by what
  each slot has added: a beginning of its body, and all of it where nothing but the status is wrong.
  A slot that fails does not keep those behind it from being tried (`Handed`).
* Otherwise each slot has a place of its own. A response is read into the writer there as it would
  be alone, or is not looked at where there is none, and no slot has a part in what becomes of
  another (`Separate`).
-/

namespace Courier.Group

variable {failOnHttpError : Bool} {i : Nat} {writer : Sink} {writers : List Sink}
  {outcomes : List (Except Failure Response)}

/-! ## 1. A single writer -/

/-- The bytes that slot `i` adds to a single writer. -/
def addedBy (failOnHttpError : Bool) (writer : Sink) (outcomes : List (Except Failure Response))
    (i : Nat) : Bytes :=
  (handedTo failOnHttpError writer outcomes (i + 1)).data.drop
    (handedTo failOnHttpError writer outcomes i).data.length

theorem handedTo_succ {outcome : Except Failure Response} (hi : outcomes[i]? = some outcome) :
    handedTo failOnHttpError writer outcomes (i + 1) =
      leftBy failOnHttpError (handedTo failOnHttpError writer outcomes i) outcome := by
  rw [handedTo, List.take_add_one, hi, List.foldl_append]
  rfl

theorem addedBy_failure {failure : Failure} (hi : outcomes[i]? = some (.error failure)) :
    addedBy failOnHttpError writer outcomes i = [] := by
  rw [addedBy, handedTo_succ hi]
  exact List.drop_length

/-- What a response adds to a single writer is what reading it adds. -/
theorem leaves_addedBy {response : Response} (hi : outcomes[i]? = some (.ok response)) :
    let sink := handedTo failOnHttpError writer outcomes i
    response.Leaves sink failOnHttpError (addedBy failOnHttpError writer outcomes i)
      (response.readInto sink failOnHttpError) := by
  intro sink
  obtain ⟨stored, hleaves⟩ := response.leaves_readInto sink failOnHttpError
  have hadded : addedBy failOnHttpError writer outcomes i = stored := by
    rw [addedBy, handedTo_succ hi]
    show (response.readInto sink failOnHttpError).sink.data.drop sink.data.length = stored
    rw [hleaves.data, List.drop_left]
  rw [hadded]
  exact hleaves

theorem data_handedTo_succ (hi : i < outcomes.length) :
    (handedTo failOnHttpError writer outcomes (i + 1)).data =
      (handedTo failOnHttpError writer outcomes i).data ++
        addedBy failOnHttpError writer outcomes i := by
  have hget : outcomes[i]? = some outcomes[i] := List.getElem?_eq_getElem hi
  cases houtcome : outcomes[i] with
  | error failure =>
      rw [houtcome] at hget
      rw [addedBy_failure hget, handedTo_succ hget, List.append_nil]
      rfl
  | ok response =>
      rw [houtcome] at hget
      rw [handedTo_succ hget]
      exact (leaves_addedBy hget).data

/-- **A single writer keeps what it held and what each slot added, in order.** -/
theorem data_handedTo (n : Nat) (hn : n ≤ outcomes.length) :
    (handedTo failOnHttpError writer outcomes n).data =
      writer.data ++ (List.range n).flatMap (addedBy failOnHttpError writer outcomes) := by
  induction n with
  | zero => exact (List.append_nil _).symm
  | succ n ih =>
    rw [data_handedTo_succ hn, ih (Nat.le_of_succ_le hn), List.range_succ, List.flatMap_append,
      List.flatMap_singleton, List.append_assoc]

/-- What becomes of a single writer: slot `i` finds it as `sinks i` and adds `stored i` to it. -/
structure Handed (failOnHttpError : Bool) (writer : Sink)
    (outcomes : List (Except Failure Response)) (routed : Collected Unit × List Sink)
    (sinks : Nat → Sink) (stored : Nat → Bytes) : Prop where
  /-- The first slot finds it as it was. -/
  first : sinks 0 = writer
  /-- It ends as the last slot leaves it. -/
  last : routed.2 = [sinks outcomes.length]
  /-- It ends with what it held, followed by what each slot added, in order. -/
  contents : (sinks outcomes.length).data =
    writer.data ++ (List.range outcomes.length).flatMap stored
  /-- A slot that holds a failure does not touch it. -/
  untouched : ∀ (i : Nat) (failure : Failure), outcomes[i]? = some (.error failure) →
    sinks (i + 1) = sinks i ∧ stored i = []
  /-- Any response is read into it as the slots before have left it, whatever became of them. -/
  read : ∀ (i : Nat) (response : Response), outcomes[i]? = some (.ok response) →
    routed.1.results[i]? =
        some (atMember i (response.readInto (sinks i) failOnHttpError).result) ∧
      sinks (i + 1) = (response.readInto (sinks i) failOnHttpError).sink
  /-- A response adds a beginning of its body. -/
  beginning : ∀ (i : Nat) (response : Response), outcomes[i]? = some (.ok response) →
    (sinks (i + 1)).data = (sinks i).data ++ stored i ∧
      stored i <+: bytesBeforeFault response.body.items
  /-- It adds the whole body where the slot went well or only the status is a failure. -/
  whole : ∀ (i : Nat) (response : Response), outcomes[i]? = some (.ok response) →
    (routed.1.results[i]? = some (.ok ()) ∨
      ∃ status url, routed.1.results[i]? = some (.error (.member i (.http status url)))) →
    response.bytes = .ok (stored i)

/-- A slot that went well, or has a status for its failure, has come to the end of its body. -/
theorem atEnd_of_atMember {result : Except Failure Unit}
    (h : atMember i result = .ok () ∨
      ∃ status url, atMember i result = .error (.member i (.http status url))) : AtEnd result := by
  cases result with
  | ok _ => exact .ok
  | error failure =>
      rcases h with h | ⟨status, url, h⟩
      · cases h
      · cases h
        exact .http status url

theorem getElem?_results_route_single {response : Response}
    (hi : outcomes[i]? = some (.ok response)) :
    (route [writer] outcomes failOnHttpError).1.results[i]? =
      some (atMember i (response.readInto (handedTo failOnHttpError writer outcomes i)
        failOnHttpError).result) := by
  rw [route, routeFrom_single, Collected.ofVisits, List.getElem?_map, List.getElem?_mapIdx, hi,
    Nat.zero_add]
  rfl

theorem handed_route (failOnHttpError : Bool) (writer : Sink)
    (outcomes : List (Except Failure Response)) :
    Handed failOnHttpError writer outcomes (route [writer] outcomes failOnHttpError)
      (handedTo failOnHttpError writer outcomes) (addedBy failOnHttpError writer outcomes) where
  first := rfl
  last := by rw [route, routeFrom_single]
  contents := data_handedTo _ (Nat.le_refl _)
  untouched i failure hi := ⟨handedTo_succ hi, addedBy_failure hi⟩
  read i response hi := ⟨getElem?_results_route_single hi, handedTo_succ hi⟩
  beginning i response hi := by
    rw [handedTo_succ hi]
    exact ⟨(leaves_addedBy hi).data, (leaves_addedBy hi).beginning⟩
  whole i response hi h := by
    rw [getElem?_results_route_single hi, Option.some.injEq] at h
    refine (leaves_addedBy hi).whole (atEnd_of_atMember (i := i) (h.imp_right ?_))
    rintro ⟨status, url, h⟩
    exact ⟨status, url, Option.some.inj h⟩

/-! ## 2. A place for each slot -/

/-- What becomes of writers and slots where each slot has a place of its own. -/
structure Separate (failOnHttpError : Bool) (writers : List Sink)
    (outcomes : List (Except Failure Response)) (routed : Collected Unit × List Sink) : Prop where
  /-- A response is read into the writer in its place, as it would be alone. -/
  read : ∀ (i : Nat) (response : Response) (writer : Sink), outcomes[i]? = some (.ok response) →
    writers[i]? = some writer →
    routed.1.results[i]? = some (atMember i (response.readInto writer failOnHttpError).result) ∧
      routed.2[i]? = some (response.readInto writer failOnHttpError).sink
  /-- A response with no writer in its place is a failure that says so. -/
  missing : ∀ (i : Nat) (response : Response), outcomes[i]? = some (.ok response) →
    writers.length ≤ i → routed.1.results[i]? = some (.error (.noWriter i))
  /-- It is not looked at: any other response might stand there. -/
  unread : ∀ (i : Nat) (response other : Response), outcomes[i]? = some (.ok response) →
    writers.length ≤ i → route writers (outcomes.set i (.ok other)) failOnHttpError = routed
  /-- Items are pulled in visits to slots that have a writer, and in no others. -/
  pulled : routed.1.pulled =
    ((visitsFrom failOnHttpError 0 writers outcomes).map Visit.pulled).sum
  /-- A writer that no response comes to is left as it was. -/
  untouched : ∀ (i : Nat) (writer : Sink), writers[i]? = some writer →
    (∀ response, outcomes[i]? ≠ some (.ok response)) → routed.2[i]? = some writer
  /-- Another outcome in one slot changes nothing in another one. -/
  others : ∀ (i j : Nat) (outcome : Except Failure Response), i ≠ j →
    let changed := route writers (outcomes.set j outcome) failOnHttpError
    changed.1.results[i]? = routed.1.results[i]? ∧ changed.2[i]? = routed.2[i]?

theorem apart_route (several : writers.length ≠ 1) :
    Apart failOnHttpError 0 writers outcomes (route writers outcomes failOnHttpError) :=
  apart_routeFrom fun _ _ => if_neg several

/-- A response with no writer in its place comes to the same as any other there. -/
theorem visitsFrom_set_of_missing {response other : Response}
    (hi : outcomes[i]? = some (.ok response)) (hw : writers.length ≤ i) :
    visitsFrom failOnHttpError 0 writers (outcomes.set i (.ok other)) =
      visitsFrom failOnHttpError 0 writers outcomes := by
  refine List.ext_getElem? fun l => ?_
  rw [getElem?_visitsFrom_zero, getElem?_visitsFrom_zero, List.getElem?_set]
  split
  · rename_i hl
    subst hl
    rw [if_pos (List.getElem?_eq_some_iff.mp hi).1, hi, List.getElem?_eq_none hw]
    rfl
  · rfl

theorem separate_route (several : writers.length ≠ 1) :
    Separate failOnHttpError writers outcomes (route writers outcomes failOnHttpError) := by
  have hapart : ∀ outcomes : List (Except Failure Response),
      Apart failOnHttpError 0 writers outcomes (route writers outcomes failOnHttpError) :=
    fun _ => apart_route several
  refine
    { read := fun i response writer hi hw => ?_
      missing := fun i response hi hw => ?_
      unread := fun i response other hi hw => ?_
      pulled := ?_
      untouched := fun i writer hw hnone => ?_
      others := fun i j outcome hne => ?_ }
  · rw [(hapart _).getElem?_results, (hapart _).getElem?_writers, getElem?_visitsFrom_zero, hi, hw]
    exact ⟨rfl, rfl⟩
  · rw [(hapart _).getElem?_results, hi, List.getElem?_eq_none hw]
    rfl
  · exact (hapart _).eq_of_visits (hapart _) (visitsFrom_set_of_missing hi hw)
  · rw [(hapart _).visits]
    rfl
  · rw [(hapart _).getElem?_writers, getElem?_visitsFrom_zero, hw]
    cases hi : outcomes[i]? with
    | none => rfl
    | some outcome =>
        cases outcome with
        | error failure => rfl
        | ok response => exact absurd hi (hnone response)
  · intro changed
    rw [(hapart _).getElem?_results, (hapart _).getElem?_results, (hapart _).getElem?_writers,
      (hapart _).getElem?_writers, getElem?_visitsFrom_zero, getElem?_visitsFrom_zero,
      List.getElem?_set_ne (Ne.symm hne)]
    exact ⟨rfl, rfl⟩

/-! ## 3. Routing -/

/-- **Routing.** For any outcomes, any writers and whether or not a status matters, there is one
    result for each outcome and no writer is lost. A slot that holds a failure keeps it. A single
    writer is handed on from slot to slot; otherwise each slot has a place of its own. -/
theorem routing (writers : List Sink) (outcomes : List (Except Failure Response))
    (failOnHttpError : Bool) :
    let routed := route writers outcomes failOnHttpError
    routed.1.results.length = outcomes.length ∧ routed.2.length = writers.length ∧
      (∀ (i : Nat) (failure : Failure), outcomes[i]? = some (.error failure) →
        routed.1.results[i]? = some (.error failure)) ∧
      (∀ writer, writers = [writer] → ∃ sinks stored,
        Handed failOnHttpError writer outcomes routed sinks stored) ∧
      (writers.length ≠ 1 → Separate failOnHttpError writers outcomes routed) := by
  intro routed
  have hlength : routed.1.results.length = outcomes.length ∧ routed.2.length = writers.length :=
    length_routeFrom writers
  refine ⟨hlength.1, hlength.2, fun i failure hi => ?_, ?_, separate_route⟩
  · obtain ⟨writer, -, hvisit⟩ := exists_visit_routeFrom failOnHttpError 0 writers hi
    rw [visit_error] at hvisit
    exact hvisit
  · rintro writer rfl
    exact ⟨_, _, handed_route failOnHttpError writer outcomes⟩

end Courier.Group
