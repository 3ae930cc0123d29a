import Courier.Proofs.SlotFailures

/-!
# The payloads of a POST group

A POST group sends each payload to the URL with the same index, or nothing at all (`Agent.pairing`).

* With unequal numbers of URLs and payloads, each form of the group has that failure in every slot,
  and nothing has happened: no call, no notice, no time gone, no sink touched (`Agent.Refused`).
* With equal numbers, no slot has that failure. However the steps of the members interleave, every
  call of every attempt sends the payload of its member to the URL of its member (`Agent.Paired`).
-/

namespace Courier.Agent

variable {σ : Type} {a : Agent σ} {urls : List String} {payloads : List Bytes} {m : Moment σ}

/-! ## 1. Unequal numbers -/

/-- What becomes of a POST group with unequal numbers of URLs and payloads. -/
structure Refused (a : Agent σ) (urls : List String) (payloads : List Bytes) (sinks : List Sink)
    (m : Moment σ) (failure : Failure) : Prop where
  /-- Every slot holds the failure, and all else is as it was. -/
  sent : a.sendGroup .post urls payloads m =
    .ok ⟨List.replicate urls.length (.error failure), m, [], 0⟩
  /-- Reading the responses adds nothing to it. -/
  fetched : a.fetchGroup .post urls payloads m =
    .ok ⟨List.replicate urls.length (.error failure), m, [], 0⟩
  /-- Writing them adds nothing to it, and leaves the sinks as they were. -/
  delivered : a.deliverGroup .post urls payloads sinks m =
    .ok ⟨(List.replicate urls.length (.error failure), sinks), m, [], 0⟩
  /-- Joined, it is listed with every index; without a URL there is none to list. -/
  joined : ∀ {α : Type},
    Group.join (List.replicate urls.length (.error failure : Except Failure α)) =
      if urls.length = 0 then .ok []
      else .error (.group ((List.range urls.length).map fun i => (i, failure)))

theorem refused_of_unequal (a : Agent σ) (sinks : List Sink) (m : Moment σ)
    (unequal : urls.length ≠ payloads.length) :
    a.Refused urls payloads sinks m (.mismatchedPayloads urls.length payloads.length) where
  sent := sendGroup_of_unequal a m unequal
  fetched := fetchGroup_of_unequal a m unequal
  delivered := deliverGroup_of_unequal a m sinks unequal
  joined := Group.join_replicate urls.length _

/-! ## 2. Equal numbers -/

/-- A call that sends payload `i` to URL `i`, as the agent sends payloads. -/
structure Paired (a : Agent σ) (urls : List String) (payloads : List Bytes) (i : Nat)
    (call : Call) : Prop where
  method : call.method = .post
  url : urls[i]? = some call.url
  payload : ∃ payload, payloads[i]? = some payload ∧ call.payload = some payload
  contentType : call.contentType = some a.settings.postContentType

/-- **Every call of a POST group is one of its pairs**, at whatever point of whatever order. -/
theorem paired_of_complete {requests : List Request} {k : Nat} {s : Group.State σ}
    (hrequests : a.requests? .post urls payloads = some requests)
    (h : Group.Complete a.plan a.transport (.start requests k m) s) (pos : 0 < k)
    {e : Nat × Event} (he : e ∈ s.events) {call : Call} {outcome : Outcome}
    (hcall : e.2 = .called call outcome) : a.Paired urls payloads e.1 call := by
  obtain ⟨r, hr, hmethod, hurl, hpayload, htype, -⟩ := h.carried pos he hcall
  obtain ⟨url, payload, hown, hpaid, rfl⟩ := request_of_requests? hrequests hr
  exact
    { method := hmethod
      url := by rw [hurl]; exact hown
      payload := ⟨payload, hpaid rfl, hpayload⟩
      contentType := htype }

/-! ## 3. POST groups -/

/-- **Pairing.** For any agent, any URLs, payloads and sinks, over any transport: a POST group with
    unequal numbers of URLs and payloads is refused. With equal numbers, and where the parallelism
    of the agent can be met, it comes to an end however the steps of its members interleave, and
    every call in its log is that of a pair. The calls of the three forms are those of one such end,
    and no slot has the failure of unequal numbers. -/
theorem pairing (a : Agent σ) (urls : List String) (payloads : List Bytes) (sinks : List Sink)
    (m : Moment σ) :
    (urls.length ≠ payloads.length →
      a.Refused urls payloads sinks m (.mismatchedPayloads urls.length payloads.length)) ∧
    (urls.length = payloads.length → a.settings.parallelism.toNat ≤ Group.maxPermits →
      ∃ requests s sent fetched delivered,
        let start := Group.State.start requests (max 1 a.settings.parallelism.toNat) m
        a.requests? .post urls payloads = some requests ∧
        Group.ComesTo a.plan a.transport start (fun s =>
          ∀ e ∈ s.events, ∀ call outcome, e.2 = .called call outcome →
            a.Paired urls payloads e.1 call) ∧
        Group.Complete a.plan a.transport start s ∧
        a.sendGroup .post urls payloads m = .ok sent ∧
        a.fetchGroup .post urls payloads m = .ok fetched ∧
        a.deliverGroup .post urls payloads sinks m = .ok delivered ∧
        sent.result = s.dispatched.results ∧
        callsOf sent.events = callsOf (s.events.map (·.2)) ∧
        callsOf fetched.events = callsOf sent.events ∧
        callsOf delivered.events = callsOf sent.events ∧
        ∀ i n p : Nat,
          sent.result[i]? ≠ some (.error (.mismatchedPayloads n p)) ∧
          fetched.result[i]? ≠ some (.error (.mismatchedPayloads n p)) ∧
          delivered.result.1[i]? ≠ some (.error (.mismatchedPayloads n p))) := by
  refine ⟨refused_of_unequal a sinks m, fun equal possible => ?_⟩
  obtain ⟨requests, hrequests⟩ : ∃ requests, a.requests? .post urls payloads = some requests :=
    ⟨_, if_pos equal⟩
  obtain ⟨s, sent, opening, hs, hsent, hresults, hevents⟩ := exists_sendGroup hrequests possible m
  obtain ⟨sent', fetched, delivered, hsent', hfetched, hdelivered, hunsent, hunfetched,
    hundelivered, hreading, hrouting⟩ := exists_forms a .post urls payloads sinks m possible
  obtain rfl := Except.ok.inj (hsent'.symm.trans hsent)
  refine ⟨requests, s, sent', fetched, delivered, hrequests, ⟨Group.no_endless_run, ?_⟩, hs, hsent,
    hfetched, hdelivered, hresults, ?_, hreading, hrouting, fun i n p => ⟨?_, ?_, ?_⟩⟩
  · intro s h e he call outcome hcall
    exact paired_of_complete hrequests h a.permits_pos he hcall
  · rw [hevents]
    rfl
  · exact fun hi => (hunsent i _ hi).unequal equal
  · exact fun hi => (hunfetched i _ hi).unequal equal
  · exact fun hi => (hundelivered i _ hi).unequal equal

/-- A busy URL gets its payload twice, the other one gets its own once; and a URL without a payload
    gets nothing. -/
theorem pairing_of_busy_url :
    let script := Script.ofTable [("http://a/",
      [⟨none, .answered { status := { code := 503 }, url := "http://a/" }⟩])]
    let a : Agent Script.Served := ⟨{}, script.transport⟩
    let urls := ["http://a/", "http://b/"]
    let payloads : List Bytes := [[1], [2]]
    let m : Moment Script.Served := ⟨0, Script.Served.none⟩
    urls.length = payloads.length ∧ a.settings.parallelism.toNat ≤ Group.maxPermits ∧
    (∃ sent, a.sendGroup .post urls payloads m = .ok sent ∧ (callsOf sent.events).length = 3 ∧
      ∀ call ∈ callsOf sent.events, ∃ i, a.Paired urls payloads i call) ∧
    urls.length ≠ [[1]].length ∧ a.Refused urls [[1]] [] m (.mismatchedPayloads 2 1) := by
  intro script a urls payloads m
  have possible : a.settings.parallelism.toNat ≤ Group.maxPermits := by decide
  obtain ⟨-, hpaired⟩ := pairing a urls payloads [] m
  obtain ⟨hrefused, -⟩ := pairing a urls [[1]] [] m
  obtain ⟨requests, s, sent, -, -, -, hcomes, hs, hsent, -, -, -, hcalls, -⟩ := hpaired rfl possible
  have hlength : (a.sendGroup .post urls payloads m).map (fun ran => (callsOf ran.events).length) =
      .ok 3 := by
    decide +kernel
  rw [hsent] at hlength
  refine ⟨rfl, possible, ⟨sent, hsent, Except.ok.inj hlength, fun call hcall => ?_⟩, by decide,
    hrefused (by decide)⟩
  rw [hcalls, callsOf, List.filterMap_map] at hcall
  obtain ⟨e, he, hcall⟩ := List.mem_filterMap.mp hcall
  obtain ⟨i, event⟩ := e
  cases event with
  | called own outcome =>
      obtain rfl := Option.some.inj hcall
      exact ⟨i, hcomes.atEnd s hs _ he own outcome rfl⟩
  | waited start length => cases hcall
  | noticed notice => cases hcall

end Courier.Agent
