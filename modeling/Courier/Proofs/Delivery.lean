import Courier.Proofs.Agreement
import Courier.Proofs.Reading

/-!
# What a request leaves in a sink

A request whose response is to be written to a sink may be attempted many times, and each response
that another attempt follows has a body of its own. Only the last attempt reaches the sink
(`Agent.delivery`):

* what is added to the sink is a beginning of the body of the last response, and only items of that
  body are taken; whatever stands in the bodies before has no part in it;
* where the last attempt met with a fault, the sink is not touched;
* the result is good only where the whole body was written and flushed once, and the status is one
  of the two hundreds or does not matter (`Delivered`).
-/

namespace Courier

/-! ## 1. Earlier bodies -/

/-- Two sequences of replies that are the same through number `last`, but for the bodies of the
    responses before it. -/
structure SameButBodies (swaps : Nat → Response → Body) (last : Nat)
    (replies replies' : Nat → Reply) : Prop where
  /-- The replies before are the same but for the bodies. -/
  earlier : ∀ k < last, replies' k = (replies k).withBodies (swaps k)
  /-- The last one is the same. -/
  final : replies' last = replies last

/-- **Whatever stands in the bodies before the last one, a run ends with the same call.** -/
theorem RetryPlan.Ends.of_sameButBodies {plan : RetryPlan} {replies replies' : Nat → Reply}
    {last : Nat} {swaps : Nat → Response → Body} (ends : plan.Ends replies last)
    (same : SameButBodies swaps last replies replies') : plan.Ends replies' last where
  below := ends.below
  retried k hk := by
    rw [same.earlier k hk]
    exact (Outcome.meritsRetry_withBodies _ _).mpr (ends.retried k hk)
  final := by
    rw [same.final]
    exact ends.final

/-! ## 2. The last attempt -/

/-- What a delivery comes to, and what it leaves in the sink, where `outcome` is the last one. -/
inductive Delivered {σ : Type} (failOnHttpError : Bool) (url : String) (sink : Sink) :
    (outcome : Outcome) → Except Abort (Ran σ (Except Failure Unit × Sink)) → Prop
  /-- Some items of the response are read into the sink, and no others come off the network. -/
  | read (response : Response) (ran : Ran σ (Except Failure Unit × Sink)) (reading : Reading)
      (stored : Bytes) (own : response.readInto sink failOnHttpError = reading)
      (leaves : response.Leaves sink failOnHttpError stored reading)
      (result : ran.result = (reading.result, reading.sink))
      (enough : reading.taken ≤ response.body.items.length)
      (pulled : ran.pulled = response.body.pulled reading.taken) :
      Delivered failOnHttpError url sink (.answered response) (.ok ran)
  /-- Without a response the sink is as it was. -/
  | unsent (fault : Fault) (ran : Ran σ (Except Failure Unit × Sink))
      (result : ran.result = (.error (.transport url fault), sink)) (pulled : ran.pulled = 0) :
      Delivered failOnHttpError url sink (.failed fault) (.ok ran)
  /-- A crash leaves no result. -/
  | crashed (report : String) :
      Delivered failOnHttpError url sink (.crashed report) (.error (.crashed report))

namespace Agent

variable {σ : Type} {a : Agent σ} {method : Method} {url : String} {payload : Bytes} {sink : Sink}
  {m : Moment σ} {outcome : Outcome}

/-- What a delivery comes to, told from the last outcome alone: its result with the sink, and the
    number of items that came off the network. -/
def deliverOutcome (failOnHttpError : Bool) (url : String) (sink : Sink) :
    Outcome → Except Abort ((Except Failure Unit × Sink) × Nat)
  | .answered response =>
    let reading := response.readInto sink failOnHttpError
    .ok ((reading.result, reading.sink), response.body.pulled reading.taken)
  | .failed fault => .ok ((.error (.transport url fault), sink), 0)
  | .crashed report => .error (.crashed report)

/-- The result of a delivery with the sink, and the number of items that came off the network. -/
def written (ran : Ran σ (Except Failure Unit × Sink)) : (Except Failure Unit × Sink) × Nat :=
  (ran.result, ran.pulled)

/-- **The last outcome decides what a delivery comes to.** -/
theorem deliver_of_ending (sink : Sink) {after : Moment σ} {events : List Event}
    (h : a.plan.execute a.transport (a.request method url payload) m =
      ⟨outcome.ending (a.request method url payload), after, events, 0⟩) :
    (a.deliver method url payload sink m).map written =
      deliverOutcome a.settings.failOnHttpError url sink outcome := by
  unfold deliver send
  rw [h]
  cases outcome with
  | answered response => exact congrArg (fun pulled => Except.ok (_, pulled)) (Nat.zero_add _)
  | failed fault =>
      exact congrArg (fun url => Except.ok ((Except.error (Failure.transport url fault), sink), 0))
        (url_request a method url payload)
  | crashed report => rfl

theorem events_of_send {ran : Ran σ (Except Failure Response)}
    (h : a.send method url payload m = .ok ran) :
    ran.events = (a.plan.execute a.transport (a.request method url payload) m).events := by
  unfold send at h
  dsimp only at h
  split at h
  · cases h
  · cases h
    rfl

/-- Reading makes no calls: those of a delivery are the calls of its attempts. -/
theorem answersOf_deliver {ran : Ran σ (Except Failure Unit × Sink)}
    (h : a.deliver method url payload sink m = .ok ran) :
    answersOf ran.events =
      answersOf (a.plan.execute a.transport (a.request method url payload) m).events := by
  cases hsend : a.send method url payload m with
  | error abort =>
      rw [deliver, hsend] at h
      cases h
  | ok sent =>
      obtain ⟨put, notices, hput, -, hevents⟩ := deliver_of_send sink hsend
      obtain rfl := Except.ok.inj (hput.symm.trans h)
      rw [hevents, answersOf_append_noticed, events_of_send hsend]

/-- A delivery that comes to what its last outcome tells has read the response, has touched nothing,
    or has no result. -/
theorem delivered_of_outcome {d : Except Abort (Ran σ (Except Failure Unit × Sink))}
    {failOnHttpError : Bool}
    (h : d.map written = deliverOutcome failOnHttpError url sink outcome) :
    Delivered failOnHttpError url sink outcome d := by
  cases d with
  | error abort =>
      cases outcome with
      | answered response => cases h
      | failed fault => cases h
      | crashed report =>
          cases h
          exact .crashed report
  | ok ran =>
      cases outcome with
      | answered response =>
          obtain ⟨stored, leaves⟩ := response.leaves_readInto sink failOnHttpError
          have hran := Prod.mk.inj (Except.ok.inj h)
          exact .read response ran _ stored rfl leaves hran.1 (response.taken_readInto_le sink _)
            hran.2
      | failed fault =>
          have hran := Prod.mk.inj (Except.ok.inj h)
          exact .unsent fault ran hran.1 hran.2
      | crashed report => cases h

/-! ## 3. The whole run -/

/-- **Only the last attempt reaches the sink.** For any agent, method, URL, payload and sink, over
    any transport: the calls of a delivery end with call number `last`, every one before it was
    worth another, and the outcome of this one alone decides what is written, what is flushed, how
    many items come off the network and what the result is. With other bodies in the earlier
    responses all this would be the same. -/
theorem delivery (a : Agent σ) (method : Method) (url : String) (payload : Bytes) (sink : Sink)
    (m : Moment σ) :
    let replies := a.transport.replies (a.request method url payload) a.settings.timeout m.state
    let delivered := a.deliver method url payload sink m
    ∃ last, a.plan.Ends replies last ∧
      Delivered a.settings.failOnHttpError url sink (replies last).outcome delivered ∧
      (∀ ran, delivered = .ok ran →
        (answersOf ran.events).map (·.2) =
          (List.range (last + 1)).map fun k => (replies k).outcome) ∧
      ∀ {σ' : Type} (t : Transport σ') (m' : Moment σ') (swaps : Nat → Response → Body),
        SameButBodies swaps last replies
          (t.replies (a.request method url payload) a.settings.timeout m'.state) →
        (deliver ⟨a.settings, t⟩ method url payload sink m').map written =
          delivered.map written := by
  intro replies delivered
  obtain ⟨last, ends, hrun⟩ := a.plan.execute_eq a.transport (a.request method url payload) m
  have hdelivered := deliver_of_ending sink hrun
  refine ⟨last, ends, delivered_of_outcome hdelivered, fun ran hran => ?_,
    fun {σ'} t m' swaps same => ?_⟩
  · rw [answersOf_deliver hran, hrun, RetryPlan.answersOf_eventsThrough, List.map_map]
    rfl
  · -- the other run ends with the same call, whose outcome is the same
    obtain ⟨last', ends', hrun'⟩ := a.plan.execute_eq t (a.request method url payload) m'
    obtain rfl := ends'.unique (ends.of_sameButBodies same)
    have hother := deliver_of_ending (a := ⟨a.settings, t⟩) sink hrun'
    rw [hother, hdelivered]
    exact congrArg (fun reply => deliverOutcome _ url sink reply.outcome) same.final

/-- A busy server sends a page of its own before the answer; only the answer is written. -/
example :
    let script := Script.ofTable [("http://a/",
      [⟨none, .answered ⟨{ code := 503 }, "http://a/", [], .held (some [1, 1])⟩⟩,
        ⟨none, .answered ⟨{ code := 200 }, "http://a/", [], .arriving [.bytes [2], .bytes [3]]⟩⟩])]
    let a : Agent Script.Served := ⟨{ maxRetries := 2 }, script.transport⟩
    (a.deliver .get "http://a/" [] .memory ⟨0, Script.Served.none⟩).map
      (fun ran => (ran.result.2.data, ran.result.2.flushes, ran.pulled)) = .ok ([2, 3], 1, 2) := by
  decide +kernel

end Agent

end Courier
