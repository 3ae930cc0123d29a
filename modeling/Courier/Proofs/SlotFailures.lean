import Courier.Proofs.Group.Joining
import Courier.Proofs.Requests

/-!
# Which failure can stand in which slot

A failure gets its index in four places: where a task ends without an outcome, where a response is
read into memory or into a writer, and where there is no writer for it; and joining the results of
the group adds one again. All of them agree (`Agent.slot_failures`). Each form of a group adds to
the failures of the one before:

* `Unsent`: no response came;
* `Unfetched`: or the response in this slot could not be read;
* `Undelivered`: or there was no writer for it.

Each of these is wrapped once at most, and every index in it is that of its slot (`Failure.Placed`).
A group that was sent has one entry for each URL, and its failures are of the first sort
(`Agent.OnePerUrl`).
-/

namespace Courier

/-! ## 1. Indexes in failures -/

namespace Failure

/-- An index that stands somewhere in a failure. -/
inductive Carries : Failure → Nat → Prop
  | noWriter (i : Nat) : Carries (.noWriter i) i
  | taskFailed (i : Nat) (report : String) : Carries (.taskFailed i report) i
  | member (i : Nat) (inner : Failure) : Carries (.member i inner) i
  | beneath (i : Nat) {inner : Failure} {j : Nat} (h : Carries inner j) :
      Carries (.member i inner) j
  | entry {members : List (Nat × Failure)} {i : Nat} {inner : Failure}
      (own : (i, inner) ∈ members) : Carries (.group members) i
  | within {members : List (Nat × Failure)} {i : Nat} {inner : Failure} {j : Nat}
      (own : (i, inner) ∈ members) (h : Carries inner j) : Carries (.group members) j

/-- A failure that no slot of a group holds: one of a whole group or of no request at all, one of
    reading that has no index, or one that is wrapped twice. -/
inductive Foreign : Failure → Prop
  | group (members : List (Nat × Failure)) : Foreign (.group members)
  | decode (report : String) : Foreign (.decode report)
  | config (report : String) : Foreign (.config report)
  | http (status : Status) (url : String) : Foreign (.http status url)
  | read (url : String) (cause : ReadCause) : Foreign (.read url cause)
  | nested (i j : Nat) (inner : Failure) : Foreign (.member i (.member j inner))

/-- A failure that belongs in slot `i`. -/
structure Placed (failure : Failure) (i : Nat) : Prop where
  /-- Some slot may hold it. -/
  known : ¬ failure.Foreign
  /-- Every index that stands in it is that of its slot. -/
  index : ∀ j, failure.Carries j → j = i

end Failure

/-- A failure of reading carries no index. -/
theorem Response.Unreadable.not_carries {r : Response} {failure : Failure}
    (h : r.Unreadable failure) (i : Nat) : ¬ failure.Carries i := by
  cases h with
  | http => exact nofun
  | read cause => exact nofun

/-! ## 2. The failures of a slot -/

/-- The failures of slot `i` of a group without a response there. -/
inductive Unsent (method : Method) (urls : List String) (payloads : List Bytes) (i : Nat) :
    Failure → Prop
  /-- The group could not be sent. -/
  | mismatched (posted : method = .post) (unequal : urls.length ≠ payloads.length) :
      Unsent method urls payloads i (.mismatchedPayloads urls.length payloads.length)
  /-- The last attempt met with a fault. -/
  | transport (url : String) (fault : Fault) (own : urls[i]? = some url) :
      Unsent method urls payloads i (.transport url fault)
  /-- The task of the request crashed. -/
  | taskFailed (report : String) : Unsent method urls payloads i (.taskFailed i report)

/-- The failures of slot `i` of a group whose responses are read, where `sent` are the results
    before that. -/
inductive Unfetched (method : Method) (urls : List String) (payloads : List Bytes)
    (sent : List (Except Failure Response)) (i : Nat) : Failure → Prop
  /-- There was no response. -/
  | unsent {failure : Failure} (h : Unsent method urls payloads i failure) :
      Unfetched method urls payloads sent i failure
  /-- The response could not be read, or has a status that matters. -/
  | unread {response : Response} {inner : Failure} (own : sent[i]? = some (.ok response))
      (h : response.Unreadable inner) : Unfetched method urls payloads sent i (.member i inner)

/-- The failures of slot `i` of a group whose responses are written to this number of sinks. -/
inductive Undelivered (method : Method) (urls : List String) (payloads : List Bytes)
    (sent : List (Except Failure Response)) (sinks i : Nat) : Failure → Prop
  /-- There was no response, or it could not be read. -/
  | unfetched {failure : Failure} (h : Unfetched method urls payloads sent i failure) :
      Undelivered method urls payloads sent sinks i failure
  /-- There was a response, but no sink for it. -/
  | noWriter {response : Response} (own : sent[i]? = some (.ok response)) (several : sinks ≠ 1)
      (beyond : sinks ≤ i) : Undelivered method urls payloads sent sinks i (.noWriter i)

section Placed

variable {method : Method} {urls : List String} {payloads : List Bytes}
  {sent : List (Except Failure Response)} {sinks i : Nat} {failure : Failure}

theorem Unsent.placed (h : Unsent method urls payloads i failure) : failure.Placed i := by
  cases h with
  | mismatched => exact ⟨nofun, nofun⟩
  | transport => exact ⟨nofun, nofun⟩
  | taskFailed report =>
      refine ⟨nofun, fun j hj => ?_⟩
      cases hj
      rfl

theorem Unfetched.placed (h : Unfetched method urls payloads sent i failure) :
    failure.Placed i := by
  cases h with
  | unsent h => exact h.placed
  | unread own h =>
      constructor
      · intro hforeign
        cases hforeign with
        | nested i j inner => cases h
      · intro j hj
        cases hj with
        | member => rfl
        | beneath i hinner => exact absurd hinner (h.not_carries j)

/-- **The failure of a slot is wrapped once at most, and has no index but that of its slot.** -/
theorem Undelivered.placed (h : Undelivered method urls payloads sent sinks i failure) :
    failure.Placed i := by
  cases h with
  | unfetched h => exact h.placed
  | noWriter =>
      refine ⟨nofun, fun j hj => ?_⟩
      cases hj
      rfl

/-- The failure of unequal numbers stands only where the numbers are unequal. -/
theorem Unsent.unequal {n p : Nat}
    (h : Unsent method urls payloads i (.mismatchedPayloads n p)) :
    urls.length ≠ payloads.length := by
  cases h with
  | mismatched posted unequal => exact unequal

theorem Unfetched.unequal {n p : Nat}
    (h : Unfetched method urls payloads sent i (.mismatchedPayloads n p)) :
    urls.length ≠ payloads.length := by
  cases h with
  | unsent h => exact h.unequal

theorem Undelivered.unequal {n p : Nat}
    (h : Undelivered method urls payloads sent sinks i (.mismatchedPayloads n p)) :
    urls.length ≠ payloads.length := by
  cases h with
  | unfetched h => exact h.unequal

end Placed

/-! ## 3. The results of a group -/

/-- Results of a group whose failures are accounted for: each is one that `possible` allows in its
    slot, and belongs there. -/
structure Accounted {α : Type} (possible : Nat → Failure → Prop)
    (results : List (Except Failure α)) : Prop where
  /-- The failure in a slot is possible there, and belongs there. -/
  slots : ∀ (i : Nat) (failure : Failure), results[i]? = some (.error failure) →
    possible i failure ∧ failure.Placed i
  /-- Joined results are a failure just where one of them is. -/
  fails : (∃ failure, Group.join results = .error failure) ↔
    ∃ (i : Nat) (failure : Failure), results[i]? = some (.error failure)
  /-- That failure is one of the whole group, and each of its entries belongs where it is from. -/
  joined : ∀ failure, Group.join results = .error failure → ∃ members, failure = .group members ∧
    members ≠ [] ∧ ∀ i inner, (i, inner) ∈ members →
      results[i]? = some (.error inner) ∧ inner.Placed i

section Slots

variable {method : Method} {urls : List String} {payloads : List Bytes}
  {sent : List (Except Failure Response)} {failOnHttpError : Bool}

theorem accounted_of_slots {α : Type} {possible : Nat → Failure → Prop}
    {results : List (Except Failure α)}
    (slots : ∀ (i : Nat) (failure : Failure), results[i]? = some (.error failure) →
      possible i failure)
    (placed : ∀ i failure, possible i failure → failure.Placed i) : Accounted possible results where
  slots i failure hi := ⟨slots i failure hi, placed i failure (slots i failure hi)⟩
  fails := Group.exists_join_eq_error_iff
  joined failure h := by
    obtain ⟨hne, rfl⟩ := Group.join_eq_error_iff.mp h
    refine ⟨_, rfl, hne, fun i inner hmem => ?_⟩
    have hi : results[i]? = some (.error inner) := (Group.mem_of_join h).mp hmem
    exact ⟨hi, placed i inner (slots i inner hi)⟩

theorem atMember_eq_error_iff {α : Type} {i : Nat} {result : Except Failure α} {failure : Failure} :
    Group.atMember i result = .error failure ↔
      ∃ inner, result = .error inner ∧ failure = .member i inner := by
  cases result with
  | ok a => simp [Group.atMember]
  | error inner => simp [Group.atMember, eq_comm]

/-- A slot that held a response holds its failure of reading; any other failure was there before. -/
theorem unfetched_of_read
    (hsent : ∀ (i : Nat) (failure : Failure), sent[i]? = some (.error failure) →
      Unsent method urls payloads i failure)
    {i : Nat} {failure : Failure}
    (h : (Group.read sent failOnHttpError).results[i]? = some (.error failure)) :
    Unfetched method urls payloads sent i failure := by
  rw [Group.getElem?_read, Option.map_eq_some_iff] at h
  obtain ⟨outcome, houtcome, h⟩ := h
  cases outcome with
  | error _ =>
      cases h
      exact .unsent (hsent i failure houtcome)
  | ok response =>
      obtain ⟨inner, hinner, rfl⟩ := atMember_eq_error_iff.mp h
      exact .unread houtcome (Response.unreadable_of_readInto (Reading.result_of_bytes hinner))

/-- So it is where responses are written, except where there is no sink. -/
theorem undelivered_of_route
    (hsent : ∀ (i : Nat) (failure : Failure), sent[i]? = some (.error failure) →
      Unsent method urls payloads i failure)
    (sinks : List Sink) {i : Nat} {failure : Failure}
    (h : (Group.route sinks sent failOnHttpError).1.results[i]? = some (.error failure)) :
    Undelivered method urls payloads sent sinks.length i failure := by
  have hlt : i < sent.length := by
    rw [← (Group.length_routeFrom sinks).1]
    exact (List.getElem?_eq_some_iff.mp h).1
  obtain ⟨outcome, houtcome⟩ : ∃ outcome, sent[i]? = some outcome :=
    ⟨_, List.getElem?_eq_getElem hlt⟩
  obtain ⟨writer, hwriter, hvisit⟩ :=
    Group.exists_visit_routeFrom failOnHttpError 0 sinks houtcome
  rw [Nat.zero_add] at hwriter hvisit
  have hresult : (Group.visit failOnHttpError i writer outcome).result = .error failure :=
    Option.some.inj (hvisit.symm.trans h)
  cases outcome with
  | error _ =>
      rw [Group.visit_error] at hresult
      cases hresult
      exact .unfetched (.unsent (hsent i failure houtcome))
  | ok response =>
      cases writer with
      | none =>
          have hbeyond := hwriter.mp rfl
          cases hresult
          unfold Group.writerFor at hbeyond
          split at hbeyond
          · omega
          · exact .noWriter houtcome ‹_› hbeyond
      | some writer =>
          obtain ⟨inner, hinner, rfl⟩ := atMember_eq_error_iff.mp hresult
          exact .unfetched (.unread houtcome (Response.unreadable_of_readInto hinner))

end Slots

namespace Agent

variable {σ : Type} {a : Agent σ} {method : Method} {urls : List String} {payloads : List Bytes}
  {m : Moment σ}

/-- The results of a group that was dispatched: the failure of a slot says why there is no response
    to the request with its index. -/
theorem unsent_of_complete {requests : List Request} {k i : Nat} {s : Group.State σ}
    {failure : Failure} (hrequests : a.requests? method urls payloads = some requests)
    (h : Group.Complete a.plan a.transport (.start requests k m) s) (pos : 0 < k)
    (hi : s.dispatched.results[i]? = some (.error failure)) :
    Unsent method urls payloads i failure := by
  have hlt : i < requests.length := by
    rw [← h.length_results]
    exact (List.getElem?_eq_some_iff.mp hi).1
  have hr : requests[i]? = some requests[i] := List.getElem?_eq_getElem hlt
  obtain ⟨replies, -, last, -, -, hresult⟩ := h.ends pos hr
  obtain ⟨url, payload, hurl, -, hrequest⟩ := request_of_requests? hrequests hr
  rw [hresult, Option.some.injEq, Outcome.slot_ending, hrequest] at hi
  cases houtcome : (replies last).outcome with
  | answered response =>
      rw [houtcome] at hi
      cases hi
  | failed fault =>
      rw [houtcome, Outcome.slot, url_request] at hi
      cases hi
      exact .transport url fault hurl
  | crashed report =>
      rw [houtcome] at hi
      cases hi
      exact .taskFailed _

/-- The results of a group that was sent: one entry for each URL, and a failure among them says why
    there is no response to the request with its index. -/
structure OnePerUrl (method : Method) (urls : List String) (payloads : List Bytes)
    (sent : List (Except Failure Response)) : Prop where
  /-- There is one entry for each URL. -/
  length : sent.length = urls.length
  /-- A failure stays in its slot. -/
  slots : ∀ (i : Nat) (failure : Failure), sent[i]? = some (.error failure) →
    Unsent method urls payloads i failure

theorem onePerUrl_of_complete {requests : List Request} {k : Nat} {s : Group.State σ}
    (hrequests : a.requests? method urls payloads = some requests)
    (h : Group.Complete a.plan a.transport (.start requests k m) s) (pos : 0 < k) :
    OnePerUrl method urls payloads s.dispatched.results where
  length := by rw [h.length_results, length_of_requests? hrequests]
  slots _ _ hi := unsent_of_complete hrequests h pos hi

theorem onePerUrl_mismatched (unequal : urls.length ≠ payloads.length) :
    OnePerUrl .post urls payloads (mismatched urls.length payloads.length) where
  length := List.length_replicate
  slots i failure hi := by
    obtain ⟨-, rfl⟩ := List.eq_of_mem_replicate (List.mem_of_getElem? hi)
    exact .mismatched rfl unequal

/-- **Every group comes to results**, if there can be as many permits as it asks for. -/
theorem exists_onePerUrl (possible : a.settings.parallelism.toNat ≤ Group.maxPermits)
    (m : Moment σ) :
    ∃ sent, a.sendGroup method urls payloads m = .ok sent ∧
      OnePerUrl method urls payloads sent.result := by
  cases hrequests : a.requests? method urls payloads with
  | none =>
      obtain ⟨rfl, unequal⟩ := requests?_eq_none_iff.mp hrequests
      exact ⟨_, sendGroup_of_unequal a m unequal, onePerUrl_mismatched unequal⟩
  | some requests =>
      obtain ⟨s, sent, -, hs, hsent, hresults, -⟩ := exists_sendGroup hrequests possible m
      refine ⟨sent, hsent, ?_⟩
      rw [hresults]
      exact onePerUrl_of_complete hrequests hs a.permits_pos

/-! ## 4. All forms of a group -/

/-- The three forms of a group: every failure is accounted for by the one that it has in the form
    before, and only the first form makes calls. -/
theorem exists_forms (a : Agent σ) (method : Method) (urls : List String) (payloads : List Bytes)
    (sinks : List Sink) (m : Moment σ)
    (possible : a.settings.parallelism.toNat ≤ Group.maxPermits) :
    ∃ sent fetched delivered,
      a.sendGroup method urls payloads m = .ok sent ∧
      a.fetchGroup method urls payloads m = .ok fetched ∧
      a.deliverGroup method urls payloads sinks m = .ok delivered ∧
      (∀ (i : Nat) (failure : Failure), sent.result[i]? = some (.error failure) →
        Unsent method urls payloads i failure) ∧
      (∀ (i : Nat) (failure : Failure), fetched.result[i]? = some (.error failure) →
        Unfetched method urls payloads sent.result i failure) ∧
      (∀ (i : Nat) (failure : Failure), delivered.result.1[i]? = some (.error failure) →
        Undelivered method urls payloads sent.result sinks.length i failure) ∧
      callsOf fetched.events = callsOf sent.events ∧
      callsOf delivered.events = callsOf sent.events := by
  obtain ⟨sent, hsent, -, hunsent⟩ := exists_onePerUrl possible m
  obtain ⟨fetched, read, hfetched, hread, hreading⟩ := fetchGroup_of_send hsent
  obtain ⟨delivered, routed, hdelivered, hwritten, -, hrouting⟩ := deliverGroup_of_send sinks hsent
  refine ⟨sent, fetched, delivered, hsent, hfetched, hdelivered, hunsent, fun i failure hi => ?_,
    fun i failure hi => ?_, ?_, ?_⟩
  · rw [hread] at hi
    exact unfetched_of_read hunsent hi
  · rw [hwritten] at hi
    exact undelivered_of_route hunsent sinks hi
  · rw [hreading, callsOf_append_noticed]
  · rw [hrouting, callsOf_append_noticed]

/-- **Which failure can stand in which slot.** For any agent whose parallelism can be met, any
    method, URLs, payloads and sinks, over any transport, the three forms of a group have results,
    and the failures among them are accounted for. Where a POST group has not as many payloads as
    URLs, every slot holds that failure. -/
theorem slot_failures (a : Agent σ) (method : Method) (urls : List String) (payloads : List Bytes)
    (sinks : List Sink) (m : Moment σ)
    (possible : a.settings.parallelism.toNat ≤ Group.maxPermits) :
    ∃ sent fetched delivered,
      a.sendGroup method urls payloads m = .ok sent ∧
      a.fetchGroup method urls payloads m = .ok fetched ∧
      a.deliverGroup method urls payloads sinks m = .ok delivered ∧
      Accounted (Unsent method urls payloads) sent.result ∧
      Accounted (Unfetched method urls payloads sent.result) fetched.result ∧
      Accounted (Undelivered method urls payloads sent.result sinks.length) delivered.result.1 ∧
      (method = .post → urls.length ≠ payloads.length → ∀ i < urls.length,
        let failure := Failure.mismatchedPayloads urls.length payloads.length
        sent.result[i]? = some (.error failure) ∧ fetched.result[i]? = some (.error failure) ∧
          delivered.result.1[i]? = some (.error failure)) := by
  obtain ⟨sent, fetched, delivered, hsent, hfetched, hdelivered, hunsent, hunfetched, hundelivered,
    -, -⟩ := exists_forms a method urls payloads sinks m possible
  refine ⟨sent, fetched, delivered, hsent, hfetched, hdelivered,
    accounted_of_slots hunsent fun _ _ => Unsent.placed,
    accounted_of_slots hunfetched fun _ _ => Unfetched.placed,
    accounted_of_slots hundelivered fun _ _ => Undelivered.placed, ?_⟩
  rintro rfl unequal i hi failure
  cases hsent.symm.trans (sendGroup_of_unequal a m unequal)
  cases hfetched.symm.trans (fetchGroup_of_unequal a m unequal)
  cases hdelivered.symm.trans (deliverGroup_of_unequal a m sinks unequal)
  have hslot : ∀ {α : Type}, (mismatched urls.length payloads.length :
      List (Except Failure α))[i]? = some (.error failure) := by
    intro α
    rw [mismatched, List.getElem?_replicate, if_pos hi]
  exact ⟨hslot, hslot, hslot⟩

/-- Of three requests one crashes, one has a status that matters and one has no writer. -/
theorem slot_failures_of_three :
    let script := Script.ofTable [("http://a/", [⟨none, .crashed "lost"⟩]),
      ("http://b/", [⟨none, .answered { status := { code := 404 }, url := "http://b/" }⟩])]
    let a : Agent Script.Served := ⟨{}, script.transport⟩
    let urls := ["http://a/", "http://b/", "http://c/"]
    let m : Moment Script.Served := ⟨0, Script.Served.none⟩
    a.settings.parallelism.toNat ≤ Group.maxPermits ∧
    ∃ delivered members, a.deliverGroup .get urls [] [.memory, .memory] m = .ok delivered ∧
      Group.join delivered.result.1 = .error (.group members) ∧
      (Failure.group members).message = "3 of the group requests failed: " ++
        "#0: request task 0 failed: task N panicked with message \"lost\"; " ++
        "#1: group response #1: HTTP error 404 Not Found for http://b/; " ++
        "#2: request 2 has no writer defined" ∧
      ∀ i inner, (i, inner) ∈ members → inner.Placed i := by
  intro script a urls m
  have possible : a.settings.parallelism.toNat ≤ Group.maxPermits := by decide
  obtain ⟨sent, fetched, delivered, -, -, hdelivered, -, -, accounted, -⟩ :=
    slot_failures a .get urls [] [.memory, .memory] m possible
  have htext : (a.deliverGroup .get urls [] [.memory, .memory] m).map
      (fun ran => (Group.join ran.result.1).mapError Failure.message) =
        .ok (.error ("3 of the group requests failed: " ++
          "#0: request task 0 failed: task N panicked with message \"lost\"; " ++
          "#1: group response #1: HTTP error 404 Not Found for http://b/; " ++
          "#2: request 2 has no writer defined")) := by
    decide +kernel
  rw [hdelivered] at htext
  have htext : (Group.join delivered.result.1).mapError Failure.message = _ := Except.ok.inj htext
  cases hjoin : Group.join delivered.result.1 with
  | ok _ =>
      rw [hjoin] at htext
      cases htext
  | error failure =>
      rw [hjoin] at htext
      obtain ⟨members, rfl, -, hmembers⟩ := accounted.joined failure hjoin
      exact ⟨possible, delivered, members, hdelivered, hjoin, Except.error.inj htext,
        fun i inner hmem => (hmembers i inner hmem).2⟩

end Agent

end Courier
