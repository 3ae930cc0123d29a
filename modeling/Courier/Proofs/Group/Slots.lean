import Courier.Group.Routing
import Courier.Proofs.Reading
import Mathlib.Algebra.GroupWithZero.Nat

/-!
# What becomes of the slots of a group

The responses of a group are read by a recursion over the slots, one writer after the other. Seen
from one slot this is simple: it is read into memory (`readSlot`) or into a writer (`visit`,
`pourSlot`). Routing is one visit after the other (`routeFrom_cons`):

* with a place of its own for each slot, no other slot has a part in a visit (`apart_routeFrom`,
  `route_of_enough`);
* a single writer is handed on from each slot to the next (`routeFrom_single`).

The failures that reading a response may come to are two: that it could not be read, and that its
status is one that matters (`Unread`).
-/

namespace Courier

/-! ## 1. Failures of reading -/

/-- A failure of the reading of a response. -/
inductive Unread : Failure → Prop
  | http (status : Status) (url : String) : Unread (.http status url)
  | read (url : String) (cause : ReadCause) : Unread (.read url cause)

/-- The status behind a result that is a failure. -/
def statusOf? {α : Type} : Except Failure α → Option Status
  | .ok _ => none
  | .error failure => failure.status?

/-- **Whatever goes wrong while a response is read is a failure of reading.** -/
theorem Response.unread_of_readInto {r : Response} {sink : Sink} {failOnHttpError : Bool}
    {failure : Failure} (h : (r.readInto sink failOnHttpError).result = .error failure) :
    Unread failure := by
  cases unreadable_of_readInto h with
  | http => exact .http r.status r.url
  | read cause => exact .read r.url cause

theorem Reading.result_of_bytes {reading : Reading} {failure : Failure}
    (h : reading.bytes = .error failure) : reading.result = .error failure := by
  obtain ⟨result, sink, taken, notices⟩ := reading
  cases result with
  | ok _ => cases h
  | error _ =>
      cases h
      rfl

namespace Group

variable {failOnHttpError : Bool} {i j : Nat} {outcomes : List (Except Failure Response)}

/-! ## 2. Into memory -/

/-- Reads the response of slot `i` into memory. -/
def readSlot (failOnHttpError : Bool) (i : Nat) : Except Failure Response → Except Failure Bytes
  | .error failure => .error failure
  | .ok response => atMember i (response.readToMemory failOnHttpError).bytes

theorem getElem?_readFrom (j : Nat) :
    (readFrom failOnHttpError i outcomes).results[j]? =
      (outcomes[j]?).map (readSlot failOnHttpError (i + j)) := by
  induction outcomes generalizing i j with
  | nil => rfl
  | cons outcome rest ih =>
    have hlater : ∀ l, (readFrom failOnHttpError (i + 1) rest).results[l]? =
        (rest[l]?).map (readSlot failOnHttpError (i + (l + 1))) := by
      intro l
      rw [ih l, Nat.add_assoc, Nat.add_comm 1 l]
    cases outcome with
    | error failure =>
        cases j with
        | zero => rfl
        | succ j => exact hlater j
    | ok response =>
        cases j with
        | zero => rfl
        | succ j => exact hlater j

theorem length_read : (read outcomes failOnHttpError).results.length = outcomes.length := by
  suffices h : ∀ i, (readFrom failOnHttpError i outcomes).results.length = outcomes.length from h 0
  induction outcomes with
  | nil => exact fun _ => rfl
  | cons outcome rest ih =>
    intro i
    cases outcome <;> exact congrArg (· + 1) (ih (i + 1))

/-- **Each slot is read by itself.** -/
theorem getElem?_read (i : Nat) :
    (read outcomes failOnHttpError).results[i]? =
      (outcomes[i]?).map (readSlot failOnHttpError i) := by
  rw [read, getElem?_readFrom, Nat.zero_add]

/-! ## 3. Into writers -/

/-- Reads the response of slot `i` into a writer. -/
def pourSlot (failOnHttpError : Bool) (i : Nat) (writer : Sink) :
    Except Failure Response → Except Failure Unit × Sink
  | .error failure => (.error failure, writer)
  | .ok response =>
    let reading := response.readInto writer failOnHttpError
    (atMember i reading.result, reading.sink)

/-- What a slot comes to. -/
structure Visit where
  /-- Its result. -/
  result : Except Failure Unit
  /-- Its writer afterwards, if it has one. -/
  writer : Option Sink
  /-- The number of items that came off the network while it was read. -/
  pulled : Nat
  /-- What was reported, in order. -/
  notices : List Notice

/-- Reads the response of slot `i` into its writer, if it has one. -/
def visit (failOnHttpError : Bool) (i : Nat) : Option Sink → Except Failure Response → Visit
  | writer, .error failure => ⟨.error failure, writer, 0, []⟩
  | none, .ok _ => ⟨.error (.noWriter i), none, 0, []⟩
  | some writer, .ok response =>
    let reading := response.readInto writer failOnHttpError
    ⟨atMember i reading.result, some reading.sink, response.body.pulled reading.taken,
      reading.notices⟩

theorem visit_some (failOnHttpError : Bool) (i : Nat) (writer : Sink)
    (outcome : Except Failure Response) :
    (visit failOnHttpError i (some writer) outcome).result =
        (pourSlot failOnHttpError i writer outcome).1 ∧
      (visit failOnHttpError i (some writer) outcome).writer =
        some (pourSlot failOnHttpError i writer outcome).2 := by
  cases outcome <;> exact ⟨rfl, rfl⟩

theorem visit_error (failOnHttpError : Bool) (i : Nat) (writer : Option Sink) (failure : Failure) :
    visit failOnHttpError i writer (.error failure) = ⟨.error failure, writer, 0, []⟩ := by
  cases writer <;> rfl

/-- A visit has a writer just where the slot has one. -/
theorem isSome_writer_visit (failOnHttpError : Bool) (i : Nat) (writer : Option Sink)
    (outcome : Except Failure Response) :
    (visit failOnHttpError i writer outcome).writer.isSome = writer.isSome := by
  cases writer <;> cases outcome <;> rfl

/-- The writers after a visit of the one with a given index. -/
def Visit.leave (v : Visit) (place : Nat) (writers : List Sink) : List Sink :=
  match v.writer with
  | none => writers
  | some writer => writers.set place writer

theorem Visit.length_leave (v : Visit) (place : Nat) (writers : List Sink) :
    (v.leave place writers).length = writers.length := by
  unfold leave
  split
  · rfl
  · exact List.length_set

/-- A visit changes no writer but its own. -/
theorem getElem?_leave (failOnHttpError : Bool) (i place : Nat) (writers : List Sink)
    (outcome : Except Failure Response) (l : Nat) :
    let v := visit failOnHttpError i writers[place]? outcome
    (v.leave place writers)[l]? = if l = place then v.writer else writers[l]? := by
  intro v
  have hsome : v.writer.isSome = writers[place]?.isSome := isSome_writer_visit _ _ _ _
  cases hv : v.writer with
  | none =>
      rw [hv, Option.isSome_none, eq_comm, Option.isSome_eq_false_iff, Option.isNone_iff_eq_none]
        at hsome
      rw [Visit.leave, hv]
      dsimp only
      split
      · rename_i hl
        rw [hl, hsome]
      · rfl
  | some writer =>
      rw [hv, Option.isSome_some, eq_comm, isSome_getElem?] at hsome
      rw [Visit.leave, hv]
      dsimp only
      rw [List.getElem?_set, if_pos hsome]
      simp only [eq_comm]

/-- What a slot and those behind it come to together. -/
def Visit.before (v : Visit) (later : Collected Unit) : Collected Unit where
  results := v.result :: later.results
  pulled := v.pulled + later.pulled
  notices := v.notices ++ later.notices

/-- What slots come to together. -/
def Collected.ofVisits (visits : List Visit) : Collected Unit where
  results := visits.map Visit.result
  pulled := (visits.map Visit.pulled).sum
  notices := visits.flatMap Visit.notices

theorem Collected.ofVisits_cons (v : Visit) (visits : List Visit) :
    ofVisits (v :: visits) = v.before (ofVisits visits) := rfl

/-- **Routing visits one slot after the other**, each with the writer that is there for it. -/
theorem routeFrom_cons (failOnHttpError : Bool) (i : Nat) (writers : List Sink)
    (outcome : Except Failure Response) (outcomes : List (Except Failure Response)) :
    let place := writerFor writers.length i
    let v := visit failOnHttpError i writers[place]? outcome
    let later := routeFrom failOnHttpError (i + 1) (v.leave place writers) outcomes
    routeFrom failOnHttpError i writers (outcome :: outcomes) =
      (v.before later.1, later.2) := by
  intro place v later
  cases hw : writers[place]? with
  | none =>
      have hnone : writers[writerFor writers.length i]? = none := hw
      cases outcome with
      | error failure =>
          simp only [v, later, hw, visit, Visit.before, Visit.leave, routeFrom, Nat.zero_add,
            List.nil_append]
      | ok response =>
          simp only [v, later, hw, visit, Visit.before, Visit.leave, routeFrom, Nat.zero_add,
            List.nil_append, hnone]
  | some writer =>
      cases outcome with
      | error failure =>
          have hset : writers.set place writer = writers := by
            obtain ⟨hlt, rfl⟩ := List.getElem?_eq_some_iff.mp hw
            exact List.set_getElem_self hlt
          simp only [v, later, hw, visit, Visit.before, Visit.leave, routeFrom, Nat.zero_add,
            List.nil_append, hset]
      | ok response => simp only [v, later, hw, visit, Visit.before, Visit.leave, routeFrom, place]

theorem length_routeFrom (writers : List Sink) :
    (routeFrom failOnHttpError i writers outcomes).1.results.length = outcomes.length ∧
      (routeFrom failOnHttpError i writers outcomes).2.length = writers.length := by
  induction outcomes generalizing i writers with
  | nil => exact ⟨rfl, rfl⟩
  | cons outcome rest ih =>
    rw [routeFrom_cons]
    obtain ⟨hresults, hwriters⟩ := ih (i := i + 1) ((visit failOnHttpError i
      writers[writerFor writers.length i]? outcome).leave (writerFor writers.length i) writers)
    rw [Visit.length_leave] at hwriters
    exact ⟨congrArg (· + 1) hresults, hwriters⟩

/-- **The result of a slot is that of a visit**, with a writer just where there is one for it. -/
theorem exists_visit_routeFrom (failOnHttpError : Bool) (i : Nat) (writers : List Sink) {j : Nat}
    {outcome : Except Failure Response} (hj : outcomes[j]? = some outcome) :
    ∃ writer : Option Sink,
      (writer = none ↔ writers.length ≤ writerFor writers.length (i + j)) ∧
      (routeFrom failOnHttpError i writers outcomes).1.results[j]? =
        some (visit failOnHttpError (i + j) writer outcome).result := by
  induction outcomes generalizing i j writers with
  | nil => cases hj
  | cons first rest ih =>
    rw [routeFrom_cons]
    cases j with
    | zero =>
        obtain rfl := Option.some.inj hj
        exact ⟨_, List.getElem?_eq_none_iff, rfl⟩
    | succ j =>
        obtain ⟨writer, hwriter, hresult⟩ := ih (i + 1) ((visit failOnHttpError i
          writers[writerFor writers.length i]? first).leave (writerFor writers.length i) writers)
          (j := j) hj
        rw [Visit.length_leave, Nat.add_right_comm] at hwriter
        rw [Nat.add_right_comm] at hresult
        exact ⟨writer, hwriter, hresult⟩

/-! ### A place for each slot -/

/-- The visits of the slots from slot `i` on, each with the writer in its place. -/
def visitsFrom (failOnHttpError : Bool) (i : Nat) (writers : List Sink)
    (outcomes : List (Except Failure Response)) : List Visit :=
  outcomes.mapIdx fun j outcome => visit failOnHttpError (i + j) writers[i + j]? outcome

/-- What becomes of writers and of the slots from slot `i` on when each slot has a place of its own,
    be there a writer or not. -/
structure Apart (failOnHttpError : Bool) (i : Nat) (writers : List Sink)
    (outcomes : List (Except Failure Response)) (routed : Collected Unit × List Sink) : Prop where
  /-- Each slot is visited with the writer that was there at first. -/
  visits : routed.1 = .ofVisits (visitsFrom failOnHttpError i writers outcomes)
  /-- The visit leaves the writer of the slot as it is in the end. -/
  own : ∀ j outcome, outcomes[j]? = some outcome →
    routed.2[i + j]? = (visit failOnHttpError (i + j) writers[i + j]? outcome).writer
  /-- Other writers are left alone. -/
  others : ∀ l, l < i ∨ i + outcomes.length ≤ l → routed.2[l]? = writers[l]?

/-- A slot is visited first, and then those behind it. -/
theorem Apart.cons {writers : List Sink} {outcome : Except Failure Response}
    {later : Collected Unit × List Sink}
    (h : Apart failOnHttpError (i + 1)
      ((visit failOnHttpError i writers[i]? outcome).leave i writers) outcomes later) :
    let v := visit failOnHttpError i writers[i]? outcome
    Apart failOnHttpError i writers (outcome :: outcomes) (v.before later.1, later.2) := by
  intro v
  have hleave := getElem?_leave failOnHttpError i i writers outcome
  have hother : ∀ l, l ≠ i → (v.leave i writers)[l]? = writers[l]? := fun l hl => by
    rw [hleave, if_neg hl]
  refine ⟨?_, fun j outcome' hj => ?_, fun l hl => ?_⟩
  · have hvisits : visitsFrom failOnHttpError (i + 1) (v.leave i writers) outcomes =
        outcomes.mapIdx fun j outcome =>
          visit failOnHttpError (i + (j + 1)) writers[i + (j + 1)]? outcome := by
      refine List.mapIdx_eq_mapIdx_iff.mpr fun j hj => ?_
      rw [hother _ (by omega), Nat.add_right_comm]
      rfl
    rw [h.visits, hvisits, visitsFrom, List.mapIdx_cons]
    rfl
  · cases j with
    | zero =>
        obtain rfl := Option.some.inj hj
        show later.2[i]? = v.writer
        rw [h.others i (.inl (Nat.lt_succ_self i)), hleave, if_pos rfl]
    | succ j =>
        have hown := h.own j outcome' hj
        rw [hother _ (by omega), Nat.add_right_comm] at hown
        exact hown
  · rw [List.length_cons] at hl
    rw [← hother l (by omega)]
    exact h.others l (by omega)

theorem apart_routeFrom {writers : List Sink}
    (places : ∀ j < outcomes.length, writerFor writers.length (i + j) = i + j) :
    Apart failOnHttpError i writers outcomes (routeFrom failOnHttpError i writers outcomes) := by
  induction outcomes generalizing i writers with
  | nil => exact ⟨rfl, nofun, fun _ _ => rfl⟩
  | cons outcome rest ih =>
    have hplace : writerFor writers.length i = i := places 0 (Nat.succ_pos _)
    have hcons := routeFrom_cons failOnHttpError i writers outcome rest
    rw [hplace] at hcons
    rw [hcons]
    refine .cons (ih fun j hj => ?_)
    rw [Visit.length_leave, Nat.add_right_comm]
    exact places (j + 1) (Nat.succ_lt_succ hj)

theorem getElem?_visitsFrom_zero (failOnHttpError : Bool) (writers : List Sink)
    (outcomes : List (Except Failure Response)) (i : Nat) :
    (visitsFrom failOnHttpError 0 writers outcomes)[i]? =
      (outcomes[i]?).map (visit failOnHttpError i writers[i]?) := by
  rw [visitsFrom, List.getElem?_mapIdx, Nat.zero_add]

theorem Apart.getElem?_results {writers : List Sink} {routed : Collected Unit × List Sink}
    (h : Apart failOnHttpError 0 writers outcomes routed) (i : Nat) :
    routed.1.results[i]? =
      (outcomes[i]?).map fun outcome => (visit failOnHttpError i writers[i]? outcome).result := by
  rw [h.visits, Collected.ofVisits, List.getElem?_map, getElem?_visitsFrom_zero, Option.map_map]
  rfl

theorem Apart.getElem?_writers {writers : List Sink} {routed : Collected Unit × List Sink}
    (h : Apart failOnHttpError 0 writers outcomes routed) (i : Nat) :
    routed.2[i]? =
      ((visitsFrom failOnHttpError 0 writers outcomes)[i]?).elim writers[i]? Visit.writer := by
  rw [getElem?_visitsFrom_zero]
  cases hi : outcomes[i]? with
  | none => exact h.others i (.inr (by rw [Nat.zero_add]; exact List.getElem?_eq_none_iff.mp hi))
  | some outcome =>
      have hown := h.own i outcome hi
      rw [Nat.zero_add] at hown
      exact hown

/-- The visits decide what slots and writers come to. -/
theorem Apart.eq_of_visits {writers : List Sink} {outcomes' : List (Except Failure Response)}
    {routed routed' : Collected Unit × List Sink}
    (h : Apart failOnHttpError 0 writers outcomes routed)
    (h' : Apart failOnHttpError 0 writers outcomes' routed')
    (same : visitsFrom failOnHttpError 0 writers outcomes' =
      visitsFrom failOnHttpError 0 writers outcomes) : routed' = routed := by
  refine Prod.ext ?_ (List.ext_getElem? fun l => ?_)
  · rw [h.visits, h'.visits, same]
  · rw [h.getElem?_writers, h'.getElem?_writers, same]

/-- Where there are enough writers, each slot has its own. -/
theorem writerFor_of_lt {n i : Nat} (h : i < n) : writerFor n i = i := by
  unfold writerFor
  split
  · omega
  · rfl

/-- **With a writer for each slot, each is read into its own, whatever is read into the others.** -/
theorem route_of_enough {writers : List Sink} (enough : outcomes.length ≤ writers.length)
    {writer : Sink} {outcome : Except Failure Response} (hw : writers[i]? = some writer)
    (hi : outcomes[i]? = some outcome) :
    (route writers outcomes failOnHttpError).1.results[i]? =
        some (pourSlot failOnHttpError i writer outcome).1 ∧
      (route writers outcomes failOnHttpError).2[i]? =
        some (pourSlot failOnHttpError i writer outcome).2 := by
  have hapart : Apart failOnHttpError 0 writers outcomes (route writers outcomes failOnHttpError) :=
    apart_routeFrom fun j hj => writerFor_of_lt (by omega)
  obtain ⟨hresult, hwriter⟩ := visit_some failOnHttpError i writer outcome
  rw [hapart.getElem?_results, hapart.getElem?_writers, getElem?_visitsFrom_zero, hi, hw]
  exact ⟨congrArg some hresult, hwriter⟩

/-! ### A single writer -/

/-- A writer after a slot was read into it. -/
def leftBy (failOnHttpError : Bool) (writer : Sink) : Except Failure Response → Sink
  | .error _ => writer
  | .ok response => (response.readInto writer failOnHttpError).sink

/-- A writer before slot `n` is read into it, when all slots are. -/
def handedTo (failOnHttpError : Bool) (writer : Sink) (outcomes : List (Except Failure Response))
    (n : Nat) : Sink :=
  (outcomes.take n).foldl (leftBy failOnHttpError) writer

theorem writer_visit (failOnHttpError : Bool) (i : Nat) (writer : Sink)
    (outcome : Except Failure Response) :
    (visit failOnHttpError i (some writer) outcome).writer =
      some (leftBy failOnHttpError writer outcome) := by
  cases outcome <;> rfl

/-- **A single writer is handed on from each slot to the next.** -/
theorem routeFrom_single (writer : Sink) :
    routeFrom failOnHttpError i [writer] outcomes =
      (.ofVisits (outcomes.mapIdx fun j outcome => visit failOnHttpError (i + j)
          (some (handedTo failOnHttpError writer outcomes j)) outcome),
        [handedTo failOnHttpError writer outcomes outcomes.length]) := by
  induction outcomes generalizing i writer with
  | nil => rfl
  | cons outcome rest ih =>
    have hleave : (visit failOnHttpError i (some writer) outcome).leave 0 [writer] =
        [leftBy failOnHttpError writer outcome] := by
      rw [Visit.leave, writer_visit]
      rfl
    have hcons : let v := visit failOnHttpError i (some writer) outcome
        let later := routeFrom failOnHttpError (i + 1) (v.leave 0 [writer]) rest
        routeFrom failOnHttpError i [writer] (outcome :: rest) =
          (v.before later.1, later.2) :=
      routeFrom_cons failOnHttpError i [writer] outcome rest
    have hvisits : (rest.mapIdx fun j outcome' => visit failOnHttpError (i + (j + 1))
          (some (handedTo failOnHttpError writer (outcome :: rest) (j + 1))) outcome') =
        rest.mapIdx fun j outcome' => visit failOnHttpError (i + 1 + j)
          (some (handedTo failOnHttpError (leftBy failOnHttpError writer outcome) rest j))
          outcome' := by
      refine List.mapIdx_eq_mapIdx_iff.mpr fun j _ => ?_
      rw [Nat.add_right_comm]
      rfl
    dsimp only at hcons
    rw [hleave, ih] at hcons
    rw [hcons, List.mapIdx_cons, Collected.ofVisits_cons, hvisits]
    rfl

end Group

end Courier
