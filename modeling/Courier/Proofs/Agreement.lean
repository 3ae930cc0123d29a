import Courier.Agent
import Courier.Proofs.Group.Attribution
import Courier.Proofs.Group.Isolation
import Courier.Proofs.Group.Slots
import Mathlib.Data.List.Zip

/-!
# Groups and lone requests agree

An agent sends requests alone or in groups, and each of the two ways has three forms of result. The
forms are written separately, but they agree (`Agent.agreement`): over a transport that is known in
advance and never crashes, where no URL is asked for twice, each slot of a group holds what its
request comes to alone, in each of the three forms, and each URL gets the same calls. Only a failure
of the reading of a response looks different: in a group it is wrapped with the index of its slot
(`InSlot`).
-/

namespace Courier

/-! ## 1. The same run at another time -/

/-- A call, whenever it is made. -/
def Call.untimed (call : Call) : Call := { call with start := 0, finish := 0 }

/-- The calls among events, whenever they are made. -/
def untimedCalls (es : List Event) : List Call := (callsOf es).map Call.untimed

theorem untimedCalls_append (xs ys : List Event) :
    untimedCalls (xs ++ ys) = untimedCalls xs ++ untimedCalls ys := by
  rw [untimedCalls, callsOf, List.filterMap_append, List.map_append]
  rfl

theorem untimedCalls_noticed (notices : List Notice) :
    untimedCalls (notices.map .noticed) = [] := by
  rw [untimedCalls, callsOf_eq_map_answersOf, answersOf_noticed]
  rfl

theorem untimedCalls_append_noticed (es : List Event) (notices : List Notice) :
    untimedCalls (es ++ notices.map .noticed) = untimedCalls es := by
  rw [untimedCalls, callsOf_append_noticed]
  rfl

theorem untimedCalls_delayed (delay : Nat) (es : List Event) :
    untimedCalls (es.map (Event.delayed delay)) = untimedCalls es := by
  rw [untimedCalls, callsOf_delayed, List.map_map]
  rfl

/-- When a run of attempts starts has a part in when all of it happens, but not in what happens. -/
theorem RetryPlan.execute_later {σ : Type} (plan : RetryPlan) (t : Transport σ) (r : Request)
    (start : Nat) (state : σ) :
    (plan.execute t r ⟨start, state⟩).ending = (plan.execute t r ⟨0, state⟩).ending ∧
      (plan.execute t r ⟨start, state⟩).events =
        (plan.execute t r ⟨0, state⟩).events.map (Event.delayed start) := by
  obtain ⟨last, ends, hrun⟩ := plan.execute_eq t r ⟨start, state⟩
  obtain ⟨last', ends', hrun'⟩ := plan.execute_eq t r ⟨0, state⟩
  obtain rfl := ends.unique ends'
  rw [hrun, hrun']
  refine ⟨rfl, ?_⟩
  rw [← eventsThrough_delayed, Nat.zero_add]

/-! ## 2. Whose the calls to a URL are -/

/-- The calls to a URL among events, whenever they are made. -/
def callsTo (url : String) (es : List Event) : List Call :=
  (untimedCalls es).filter fun call => call.url = url

theorem callsTo_append (url : String) (xs ys : List Event) :
    callsTo url (xs ++ ys) = callsTo url xs ++ callsTo url ys := by
  rw [callsTo, untimedCalls_append, List.filter_append]
  rfl

theorem callsTo_append_noticed (url : String) (es : List Event) (notices : List Notice) :
    callsTo url (es ++ notices.map .noticed) = callsTo url es := by
  rw [callsTo, untimedCalls_append_noticed]
  rfl

theorem callsTo_noticed_append (url : String) (notices : List Notice) (es : List Event) :
    callsTo url (notices.map .noticed ++ es) = callsTo url es := by
  rw [callsTo_append, callsTo, untimedCalls_noticed]
  rfl

namespace Group

variable {σ : Type} {plan : RetryPlan} {t : Transport σ} {k : Nat} {s : State σ} {i : Nat}
  {requests : List Request} {m : Moment σ} {r : Request}

/-- **A call in the log of a group sends the request of its member.** -/
theorem Complete.carried (h : Complete plan t (.start requests k m) s) (pos : 0 < k)
    {e : Nat × Event} (he : e ∈ s.events) {call : Call} {outcome : Outcome}
    (hcall : e.2 = .called call outcome) :
    ∃ r, requests[e.1]? = some r ∧ call.method = r.method ∧ call.url = r.url ∧
      call.payload = (if r.method = .post then some (r.payload.getD []) else none) ∧
      call.contentType = (if r.method = .post then some r.contentType else none) ∧
      call.timeout = plan.timeout := by
  have hlt := h.reachable.owner_lt e he
  have hr : requests[e.1]? = some requests[e.1] := List.getElem?_eq_getElem hlt
  obtain ⟨replies, start, last, -, hshare, -⟩ := h.ends pos hr
  have hmem : call ∈ callsOf (s.share e.1) := by
    refine List.mem_filterMap.mpr ⟨e.2, ?_, by rw [hcall]; rfl⟩
    exact List.mem_map.mpr ⟨e, List.mem_filter.mpr ⟨he, decide_eq_true rfl⟩, rfl⟩
  rw [hshare] at hmem
  exact ⟨_, hr, RetryPlan.carried_of_mem_callsOf hmem⟩

/-- **The calls to the URL of a member are the calls of that member.** -/
theorem Complete.callsTo_url (distinct : (requests.map Request.url).Nodup)
    (h : Complete plan t (.start requests k m) s) (pos : 0 < k) (hi : requests[i]? = some r) :
    callsTo r.url (s.events.map (·.2)) = untimedCalls (s.share i) := by
  have owned : ∀ e ∈ s.events, ∀ call outcome, e.2 = .called call outcome →
      (call.url = r.url ↔ e.1 = i) := by
    intro e he call outcome hcall
    obtain ⟨q, hq, -, hurl, -⟩ := h.carried pos he hcall
    rw [hurl]
    constructor
    · intro hurl
      by_contra hne
      exact url_ne_of_ne distinct hne hq hi hurl
    · intro howner
      rw [howner, hi] at hq
      rw [Option.some.inj hq]
  rw [callsTo, untimedCalls, untimedCalls, callsOf, callsOf, State.share, List.filterMap_map,
    List.filterMap_map, List.filterMap_filter, List.filter_map, List.filter_filterMap]
  congr 1
  refine List.filterMap_congr fun e he => ?_
  obtain ⟨owner, event⟩ := e
  cases event with
  | called call outcome =>
      have hown : call.url = r.url ↔ owner = i := owned _ he call outcome rfl
      show Option.filter (fun call => decide (call.url = r.url)) (some call) =
        if decide (owner = i) = true then some call else none
      by_cases howner : owner = i
      · rw [if_pos (decide_eq_true howner), Option.filter_some,
          if_pos (decide_eq_true (hown.mpr howner))]
      · have hurl : call.url ≠ r.url := fun hurl => howner (hown.mp hurl)
        rw [if_neg (by simpa using howner), Option.filter_some, if_neg (by simpa using hurl)]
  | waited start length => exact (ite_self _).symm
  | noticed notice => exact (ite_self _).symm

end Group

/-! ## 3. The same result in a slot -/

/-- What slot `i` of a group holds where its request comes to a result alone: the same, only that a
    failure of reading is wrapped with the index. -/
inductive InSlot {α : Type} (i : Nat) : (alone slot : Except Failure α) → Prop
  | ok (a : α) : InSlot i (.ok a) (.ok a)
  | unsent (url : String) (fault : Fault) :
      InSlot i (.error (.transport url fault)) (.error (.transport url fault))
  | unread (failure : Failure) (h : Unread failure) :
      InSlot i (.error failure) (.error (.member i failure))

/-- **The status behind a failure is the same in a slot.** -/
theorem InSlot.statusOf?_eq {α : Type} {i : Nat} {alone slot : Except Failure α}
    (h : InSlot i alone slot) : statusOf? slot = statusOf? alone := by
  cases h <;> rfl

theorem inSlot_atMember {α : Type} (i : Nat) {result : Except Failure α}
    (h : ∀ failure, result = .error failure → Unread failure) :
    InSlot i result (Group.atMember i result) := by
  cases result with
  | ok a => exact .ok a
  | error failure => exact .unread failure (h failure rfl)

/-- The outcome of a request, whose failures are failures to send. -/
def Sent (outcome : Except Failure Response) : Prop :=
  ∀ failure, outcome = .error failure → ∃ url fault, failure = .transport url fault

/-- Reads the response to a lone request into memory. -/
def readAlone (failOnHttpError : Bool) : Except Failure Response → Except Failure Bytes
  | .error failure => .error failure
  | .ok response => (response.readToMemory failOnHttpError).bytes

/-- Reads the response to a lone request into a sink. -/
def pourAlone (failOnHttpError : Bool) (sink : Sink) :
    Except Failure Response → Except Failure Unit × Sink
  | .error failure => (.error failure, sink)
  | .ok response =>
    ((response.readInto sink failOnHttpError).result, (response.readInto sink failOnHttpError).sink)

/-- A request comes to a result where none of the replies to it is a crash. -/
theorem RetryPlan.exists_settled_of_steady {σ : Type} (plan : RetryPlan) (t : Transport σ)
    (r : Request) (m : Moment σ)
    (steady : ∀ k report, (t.replies r plan.timeout m.state k).outcome ≠ .crashed report) :
    ∃ result, Sent result ∧ (plan.execute t r m).ending = .settled result := by
  obtain ⟨last, -, hrun⟩ := plan.execute_eq t r m
  rw [hrun]
  cases houtcome : (t.replies r plan.timeout m.state last).outcome with
  | answered response => exact ⟨.ok response, nofun, rfl⟩
  | failed fault =>
      refine ⟨.error (.transport r.url fault), fun failure h => ?_, rfl⟩
      cases h
      exact ⟨r.url, fault, rfl⟩
  | crashed report => exact absurd houtcome (steady last report)

/-- Over a transport that is known in advance and never crashes, it comes to the same result
    whenever it is sent. -/
theorem RetryPlan.exists_settled {σ : Type} (plan : RetryPlan) {t : Transport σ} {state : σ}
    {answer : String → Nat → Reply} (foretold : t.Foretold state answer)
    (steady : ∀ url n report, (answer url n).outcome ≠ .crashed report) (r : Request) :
    ∃ result, Sent result ∧
      ∀ start, (plan.execute t r ⟨start, state⟩).ending = .settled result := by
  have steady : ∀ k report, (t.replies r plan.timeout state k).outcome ≠ .crashed report := by
    rw [foretold.replies_eq]
    exact steady r.url
  obtain ⟨result, sent, hresult⟩ := plan.exists_settled_of_steady t r ⟨0, state⟩ steady
  exact ⟨result, sent, fun start => (plan.execute_later t r start state).1.trans hresult⟩

section Slots

variable {failOnHttpError : Bool} {i : Nat} {sink : Sink} {outcome : Except Failure Response}

theorem inSlot_readSlot (sent : Sent outcome) :
    InSlot i (readAlone failOnHttpError outcome) (Group.readSlot failOnHttpError i outcome) := by
  cases outcome with
  | error failure =>
      obtain ⟨url, fault, rfl⟩ := sent failure rfl
      exact .unsent url fault
  | ok response =>
      exact inSlot_atMember i fun failure h =>
        Response.unread_of_readInto (Reading.result_of_bytes h)

theorem inSlot_pourSlot (sent : Sent outcome) :
    InSlot i (pourAlone failOnHttpError sink outcome).1
        (Group.pourSlot failOnHttpError i sink outcome).1 ∧
      (Group.pourSlot failOnHttpError i sink outcome).2 =
        (pourAlone failOnHttpError sink outcome).2 := by
  cases outcome with
  | error failure =>
      obtain ⟨url, fault, rfl⟩ := sent failure rfl
      exact ⟨.unsent url fault, rfl⟩
  | ok response =>
      exact ⟨inSlot_atMember i fun failure h => Response.unread_of_readInto h, rfl⟩

end Slots

/-! ## 4. The operations of an agent -/

namespace Agent

variable {σ : Type} {a : Agent σ} {method : Method} {url : String} {payload : Bytes}
  {urls : List String} {payloads : List Bytes} {m : Moment σ}

theorem url_request (a : Agent σ) (method : Method) (url : String) (payload : Bytes) :
    (a.request method url payload).url = url := by
  cases method <;> rfl

/-- The requests of a group are those that are sent alone. -/
theorem exists_requests (a : Agent σ)
    (payable : method = .post → payloads.length = urls.length) :
    ∃ requests, a.requests? method urls payloads = some requests ∧
      requests.map Request.url = urls ∧
      ∀ (i : Nat) (url : String) (payload : Bytes), urls[i]? = some url →
        (method = .post → payloads[i]? = some payload) →
        requests[i]? = some (a.request method url payload) := by
  cases method with
  | get =>
      refine ⟨_, rfl, ?_, fun i url payload hi _ => ?_⟩
      · rw [List.map_map]
        exact List.map_id urls
      · rw [List.getElem?_map, hi]
        rfl
  | head =>
      refine ⟨_, rfl, ?_, fun i url payload hi _ => ?_⟩
      · rw [List.map_map]
        exact List.map_id urls
      · rw [List.getElem?_map, hi]
        rfl
  | post =>
      have hlength := payable rfl
      refine ⟨_, if_pos hlength.symm, ?_, fun i url payload hi hpayload => ?_⟩
      · rw [List.map_zipWith, ← List.map_uncurry_zip_eq_zipWith]
        exact List.map_fst_zip (Nat.le_of_eq hlength.symm)
      · rw [List.getElem?_zipWith, hi, hpayload rfl]

theorem send_of_settled {result : Except Failure Response}
    (h : (a.plan.execute a.transport (a.request method url payload) m).ending = .settled result) :
    ∃ ran, a.send method url payload m = .ok ran ∧ ran.result = result ∧
      ran.events = (a.plan.execute a.transport (a.request method url payload) m).events := by
  let run := a.plan.execute a.transport (a.request method url payload) m
  refine ⟨⟨result, run.moment, run.events, run.pulled⟩, ?_, rfl, rfl⟩
  rw [send, h]

theorem fetch_of_send {ran : Ran σ (Except Failure Response)}
    (h : a.send method url payload m = .ok ran) :
    ∃ (got : Ran σ (Except Failure Bytes)) (notices : List Notice),
      a.fetch method url payload m = .ok got ∧
      got.result = readAlone a.settings.failOnHttpError ran.result ∧
      got.events = ran.events ++ notices.map .noticed := by
  rw [fetch, h]
  dsimp only
  cases hresult : ran.result with
  | error failure => exact ⟨_, [], rfl, rfl, (List.append_nil _).symm⟩
  | ok response => exact ⟨_, _, rfl, rfl, rfl⟩

theorem deliver_of_send {ran : Ran σ (Except Failure Response)} (sink : Sink)
    (h : a.send method url payload m = .ok ran) :
    ∃ (put : Ran σ (Except Failure Unit × Sink)) (notices : List Notice),
      a.deliver method url payload sink m = .ok put ∧
      put.result = pourAlone a.settings.failOnHttpError sink ran.result ∧
      put.events = ran.events ++ notices.map .noticed := by
  rw [deliver, h]
  dsimp only
  cases hresult : ran.result with
  | error failure => exact ⟨_, [], rfl, rfl, (List.append_nil _).symm⟩
  | ok response => exact ⟨_, _, rfl, rfl, rfl⟩

theorem exists_sendGroup {requests : List Request}
    (hrequests : a.requests? method urls payloads = some requests)
    (possible : a.settings.parallelism.toNat ≤ Group.maxPermits) (m : Moment σ) :
    ∃ (s : Group.State σ) (sent : Ran σ (List (Except Failure Response))) (opening : Notice),
      Group.Complete a.plan a.transport
          (.start requests (max 1 a.settings.parallelism.toNat) m) s ∧
        a.sendGroup method urls payloads m = .ok sent ∧ sent.result = s.dispatched.results ∧
        sent.events = [opening].map .noticed ++ s.events.map (·.2) := by
  obtain ⟨s, hs, hdispatch⟩ : ∃ s, Group.Complete a.plan a.transport
        (.start requests (max 1 a.settings.parallelism.toNat) m) s ∧
      Group.dispatch? a.plan a.transport requests a.settings.parallelism m = some s.dispatched :=
    Group.dispatch_complete (Nat.max_le.mpr ⟨by decide, possible⟩)
  let opening : Notice := .dispatching requests.length a.settings.parallelism
  refine ⟨s, ⟨s.dispatched.results, s.moment, .noticed opening :: s.events.map (·.2), 0⟩, opening,
    hs, ?_, rfl, rfl⟩
  rw [sendGroup, hrequests]
  dsimp only
  rw [hdispatch]
  rfl

theorem fetchGroup_of_send {sent : Ran σ (List (Except Failure Response))}
    (h : a.sendGroup method urls payloads m = .ok sent) :
    ∃ (fetched : Ran σ (List (Except Failure Bytes))) (notices : List Notice),
      a.fetchGroup method urls payloads m = .ok fetched ∧
      fetched.result = (Group.read sent.result a.settings.failOnHttpError).results ∧
      fetched.events = sent.events ++ notices.map .noticed := by
  rw [fetchGroup, h]
  exact ⟨_, _, rfl, rfl, rfl⟩

theorem deliverGroup_of_send {sent : Ran σ (List (Except Failure Response))} (sinks : List Sink)
    (h : a.sendGroup method urls payloads m = .ok sent) :
    ∃ (delivered : Ran σ (List (Except Failure Unit) × List Sink)) (notices : List Notice),
      a.deliverGroup method urls payloads sinks m = .ok delivered ∧
      delivered.result.1 =
        (Group.route sinks sent.result a.settings.failOnHttpError).1.results ∧
      delivered.result.2 = (Group.route sinks sent.result a.settings.failOnHttpError).2 ∧
      delivered.events = sent.events ++ notices.map .noticed := by
  rw [deliverGroup, h]
  exact ⟨_, _, rfl, rfl, rfl, rfl⟩

/-! ## 5. Agreement -/

/-- **A request has the same response and the same calls alone as it has in a group.** -/
theorem exists_send_of_complete {requests : List Request} {k i : Nat} {s : Group.State σ}
    {answer : String → Nat → Reply} (foretold : a.transport.Foretold m.state answer)
    (steady : ∀ url n report, (answer url n).outcome ≠ .crashed report)
    (distinct : (requests.map Request.url).Nodup)
    (h : Group.Complete a.plan a.transport (.start requests k m) s) (pos : 0 < k)
    (hi : requests[i]? = some (a.request method url payload)) (start : Nat) :
    ∃ one, a.send method url payload ⟨start, m.state⟩ = .ok one ∧ Sent one.result ∧
      s.dispatched.results[i]? = some one.result ∧
      callsTo url (s.events.map (·.2)) = untimedCalls one.events := by
  obtain ⟨result, sent, hending⟩ :=
    a.plan.exists_settled foretold steady (a.request method url payload)
  obtain ⟨one, hone, rfl, hevents⟩ := send_of_settled (hending start)
  obtain ⟨hslot, delay, hshare⟩ := h.alone foretold distinct pos hi
  refine ⟨one, hone, sent, ?_, ?_⟩
  · rw [hslot, hending 0]
    rfl
  · have hcalls := h.callsTo_url distinct pos hi
    rw [url_request, hshare, untimedCalls_delayed] at hcalls
    rw [hcalls, hevents, (a.plan.execute_later _ _ start _).2, untimedCalls_delayed]

/-- Slot `i` of a group and its request alone, in the three forms of result. -/
structure AgreeAt (i : Nat) (url : String) (sent : Ran σ (List (Except Failure Response)))
    (fetched : Ran σ (List (Except Failure Bytes)))
    (delivered : Ran σ (List (Except Failure Unit) × List Sink))
    (one : Ran σ (Except Failure Response)) (got : Ran σ (Except Failure Bytes))
    (put : Ran σ (Except Failure Unit × Sink)) : Prop where
  /-- The response is the same. -/
  response : sent.result[i]? = some one.result
  /-- So are its bytes. -/
  bytes : ∃ slot, fetched.result[i]? = some slot ∧ InSlot i got.result slot ∧
    statusOf? slot = statusOf? got.result
  /-- So is what became of writing it to a sink. -/
  written : ∃ slot, delivered.result.1[i]? = some slot ∧ InSlot i put.result.1 slot ∧
    statusOf? slot = statusOf? put.result.1
  /-- The sink is left the same. -/
  sink : delivered.result.2[i]? = some put.result.2
  /-- The URL gets the same calls, and no others. -/
  calls : callsTo url sent.events = untimedCalls one.events ∧
    callsTo url fetched.events = untimedCalls got.events ∧
    callsTo url delivered.events = untimedCalls put.events

/-- **Agreement.** For any agent whose parallelism can be met, any method, any distinct URLs, as
    many payloads where the method is POST and one sink for each, over a transport that is known in
    advance and never crashes, the three forms of a group have results. In each of them every slot
    agrees with what its request comes to alone, whenever that is sent over the transport as it was
    at first. -/
theorem agreement (a : Agent σ) (method : Method) (urls : List String) (payloads : List Bytes)
    (sinks : List Sink) (m : Moment σ) (answer : String → Nat → Reply)
    (foretold : a.transport.Foretold m.state answer)
    (steady : ∀ url n report, (answer url n).outcome ≠ .crashed report) (distinct : urls.Nodup)
    (payable : method = .post → payloads.length = urls.length)
    (sinked : sinks.length = urls.length)
    (possible : a.settings.parallelism.toNat ≤ Group.maxPermits) :
    ∃ sent fetched delivered,
      a.sendGroup method urls payloads m = .ok sent ∧
      a.fetchGroup method urls payloads m = .ok fetched ∧
      a.deliverGroup method urls payloads sinks m = .ok delivered ∧
      ∀ (i : Nat) (url : String) (payload : Bytes) (sink : Sink) (start : Nat),
        urls[i]? = some url → (method = .post → payloads[i]? = some payload) →
        sinks[i]? = some sink → ∃ one got put,
          a.send method url payload ⟨start, m.state⟩ = .ok one ∧
          a.fetch method url payload ⟨start, m.state⟩ = .ok got ∧
          a.deliver method url payload sink ⟨start, m.state⟩ = .ok put ∧
          AgreeAt i url sent fetched delivered one got put := by
  obtain ⟨requests, hrequests, rfl, hown⟩ := exists_requests a payable
  obtain ⟨s, sent, opening, hs, hsent, hresults, hevents⟩ := exists_sendGroup hrequests possible m
  obtain ⟨fetched, read, hfetched, hread, hreading⟩ := fetchGroup_of_send hsent
  obtain ⟨delivered, routed, hdelivered, hwritten, hsinks, hrouting⟩ :=
    deliverGroup_of_send sinks hsent
  refine ⟨sent, fetched, delivered, hsent, hfetched, hdelivered, ?_⟩
  intro i url payload sink start hurl hpayload hsink
  -- the response is the same before anything of it is read
  obtain ⟨one, hone, ok, hslot, hcalls⟩ := exists_send_of_complete foretold steady distinct hs
    (Nat.lt_of_lt_of_le Nat.zero_lt_one (Nat.le_max_left _ _)) (hown i url payload hurl hpayload)
    start
  rw [← hresults] at hslot
  have hcalls' : callsTo url sent.events = untimedCalls one.events := by
    rw [hevents, callsTo_noticed_append, hcalls]
  -- reading it makes no calls, and goes the same way in the slot but for the index
  obtain ⟨got, gotten, hgot, hbytes, hgetting⟩ := fetch_of_send hone
  obtain ⟨put, putten, hput, hleft, hputting⟩ := deliver_of_send sink hone
  have enough : sent.result.length ≤ sinks.length := by
    rw [hresults, Group.State.dispatched, List.length_mapIdx, hs.reachable.length_eq, sinked,
      List.length_map]
  obtain ⟨hpoured, hfilled⟩ := Group.route_of_enough enough hsink hslot
  obtain ⟨hsame, hsink'⟩ := @inSlot_pourSlot a.settings.failOnHttpError i sink _ ok
  have hagree := @inSlot_readSlot a.settings.failOnHttpError i _ ok
  refine ⟨one, got, put, hone, hgot, hput, hslot, ⟨_, ?_, hbytes ▸ hagree, ?_⟩,
    ⟨_, hwritten ▸ hpoured, hleft ▸ hsame, ?_⟩, ?_, hcalls', ?_, ?_⟩
  · rw [hread, Group.getElem?_read, hslot]
    rfl
  · rw [hbytes]
    exact hagree.statusOf?_eq
  · rw [hleft]
    exact hsame.statusOf?_eq
  · rw [hsinks, hfilled, hsink', hleft]
  · rw [hreading, hgetting, callsTo_append_noticed, untimedCalls_append_noticed, hcalls']
  · rw [hrouting, hputting, callsTo_append_noticed, untimedCalls_append_noticed, hcalls']

/-- Of two pages one is missing: its failure has the index of the slot, with the status beneath. -/
theorem agreement_on_missing_page :
    let script := Script.ofTable [("http://a/",
      [⟨none, .answered { status := { code := 404 }, url := "http://a/" }⟩])]
    let a : Agent Script.Served := ⟨{}, script.transport⟩
    let answer := fun url n => Script.timed (script.reply url n)
    let m : Moment Script.Served := ⟨0, Script.Served.none⟩
    let urls := ["http://a/", "http://b/"]
    let payloads : List Bytes := []
    let sinks := [Sink.memory, Sink.memory]
    a.transport.Foretold m.state answer ∧
      (∀ url n report, (answer url n).outcome ≠ .crashed report) ∧ urls.Nodup ∧
      (Method.get = .post → payloads.length = urls.length) ∧ sinks.length = urls.length ∧
      a.settings.parallelism.toNat ≤ Group.maxPermits ∧
      ∃ fetched failure, a.fetchGroup .get urls payloads m = .ok fetched ∧
        fetched.result[0]? = some (.error (.member 0 failure)) ∧
        failure.status? = some { code := 404 } := by
  intro script a answer m urls payloads sinks
  have steady : ∀ url n report, (answer url n).outcome ≠ .crashed report :=
    Script.steady_ofTable (by simp)
  obtain ⟨sent, fetched, delivered, -, hfetched, -, hagree⟩ := agreement a .get urls payloads sinks
    m answer script.foretold steady (by decide) nofun rfl (by decide)
  obtain ⟨one, got, put, -, hgot, -, hslot⟩ := hagree 0 "http://a/" [] .memory 0 rfl nofun rfl
  have halone : (a.fetch .get "http://a/" [] ⟨0, m.state⟩).map (statusOf? ·.result) =
      .ok (some { code := 404 }) := by
    decide +kernel
  rw [hgot] at halone
  have hstatus : statusOf? got.result = some { code := 404 } := Except.ok.inj halone
  obtain ⟨slot, hslot, hin, -⟩ := hslot.bytes
  rw [← hin.statusOf?_eq] at hstatus
  generalize got.result = alone at hin
  cases hin with
  | ok bytes => cases hstatus
  | unsent url fault => cases hstatus
  | unread failure h =>
      exact ⟨script.foretold, steady, by decide, nofun, rfl, by decide, fetched, failure, hfetched,
        hslot, hstatus⟩

end Agent

end Courier
