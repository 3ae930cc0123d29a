import Courier.Proofs.Group.Logs
import Courier.Proofs.Group.Turns

/-!
# Whose calls and results those of a group are

At the end of a group there is one result for each request, in order, and the calls that the
transport saw are those of the members: each member made its own calls one after the other, and its
result is the answer to its last call (`attribution`). Members may ask for the same URL and so take
replies from each other; what each of them was answered stays its own.
-/

namespace Courier

/-- The result of the request with index `i` whose last call came to an outcome. -/
def Outcome.slot (i : Nat) (r : Request) : Outcome → Except Failure Response
  | .answered response => .ok response
  | .failed fault => .error (.transport r.url fault)
  | .crashed report => .error (.taskFailed i (Group.crashReport report))

theorem Outcome.slot_ending (i : Nat) (r : Request) (o : Outcome) :
    Group.slot i (o.ending r) = o.slot i r := by
  cases o <;> rfl

namespace Group

variable {σ : Type} {plan : RetryPlan} {t : Transport σ} {k : Nat} {s : State σ} {i : Nat}
  {requests : List Request} {m : Moment σ}

/-! ## 1. The end of one member -/

/-- Calls, each with what became of it, that are those of the request with index `i` under some
    settings, and the result of that request. -/
structure Attributed (settings : Settings) (i : Nat) (r : Request)
    (answers : List (Call × Outcome)) (result : Except Failure Response) : Prop where
  /-- There is a call. -/
  called : 1 ≤ answers.length
  /-- There are no more of them than the settings allow. -/
  within : answers.length ≤ max 1 settings.maxRetries.toNat
  /-- Each sends the request as it is, with the time limit of the settings. -/
  carried : ∀ a ∈ answers, a.1.method = r.method ∧ a.1.url = r.url ∧
    a.1.payload = r.sentPayload ∧ a.1.contentType = r.sentContentType ∧
    a.1.timeout = settings.timeout
  /-- Each has its reply before the next one begins. -/
  sequential : answers.Pairwise fun a b => a.1.finish ≤ b.1.start
  /-- All but the last were answered in a way that is worth another attempt. -/
  retried : ∀ a ∈ answers.dropLast, a.2.MeritsRetry
  /-- The answer to the last is the result. -/
  answered : ∃ a, answers.getLast? = some a ∧ result = a.2.slot i r

/-- **The answers to a run of attempts are those of its request, and the last is its result.** -/
theorem attributed_of_ends {settings : Settings} {r : Request} {replies : Nat → Reply}
    {last : Nat} (ends : (RetryPlan.ofSettings settings).Ends replies last) (start i : Nat) :
    Attributed settings i r
      (answersOf ((RetryPlan.ofSettings settings).eventsThrough r replies start last))
      ((replies last).outcome.slot i r) := by
  have hbudget := RetryPlan.budget_ofSettings settings
  rw [RetryPlan.answersOf_eventsThrough]
  refine
    { called := ?_
      within := ?_
      carried := fun a ha => ?_
      sequential := ?_
      retried := fun a ha => ?_
      answered := ?_ }
  · rw [List.length_map, List.length_range]
    exact Nat.le_add_left 1 last
  · rw [List.length_map, List.length_range, ← hbudget]
    exact ends.below
  · obtain ⟨k, -, rfl⟩ := List.mem_map.mp ha
    exact ⟨rfl, rfl, rfl, rfl, rfl⟩
  · rw [List.pairwise_map]
    exact List.pairwise_lt_range.imp fun hlt => RetryPlan.callAt_finish_le _ _ _ _ hlt
  · rw [List.range_succ, List.map_append, List.map_singleton, List.dropLast_concat] at ha
    obtain ⟨k, hk, rfl⟩ := List.mem_map.mp ha
    exact ends.retried k (List.mem_range.mp hk)
  · rw [List.range_succ, List.map_append, List.map_singleton, List.getLast?_concat]
    exact ⟨_, rfl, rfl⟩

/-- At the end of a group every member has come to the end of a run of attempts. -/
theorem Complete.ends (h : Complete plan t (.start requests k m) s) (pos : 0 < k) {r : Request}
    (hi : requests[i]? = some r) :
    ∃ replies start last, plan.Ends replies last ∧
      s.share i = plan.eventsThrough r replies start last ∧
      s.dispatched.results[i]? = some (slot i ((replies last).outcome.ending r)) := by
  obtain ⟨phase, hmember, hended⟩ := h.member pos hi
  obtain ⟨replies, start, hf⟩ := h.reachable.follows i r phase hmember
  obtain ⟨last, ends, hshare, rfl⟩ := hf.ends hended
  exact ⟨replies, start, last, ends, hshare, getElem?_results hmember⟩

theorem Complete.length_results (h : Complete plan t (.start requests k m) s) :
    s.dispatched.results.length = requests.length := by
  rw [State.dispatched, List.length_mapIdx, h.reachable.length_eq]

/-! ## 2. The end of a group -/

/-- **Attribution.** For any settings, any transport, any requests and any wish that can be met, a
    group comes to an end however the steps of its members interleave. Wherever it ends there is one
    result for each request, in order; the calls in the log are what the transport was asked, each
    of them the call of one member; and the calls and the result of each member belong together. -/
theorem attribution (settings : Settings) (t : Transport σ) (requests : List Request)
    (wish : UInt64) (m : Moment σ) (possible : wish.toNat ≤ maxPermits) :
    ComesTo (.ofSettings settings) t (.start requests (max 1 wish.toNat) m) (fun s =>
      s.dispatched.results.length = requests.length ∧
      Replayed t settings.timeout requests m.state (answersIn s.events) s.moment.state ∧
      (∀ a ∈ answersIn s.events, a.1 < requests.length) ∧
      ∀ i r, requests[i]? = some r → ∃ result, s.dispatched.results[i]? = some result ∧
        Attributed settings i r (((answersIn s.events).filter (·.1 = i)).map (·.2)) result) ∧
    ∃ s, Complete (.ofSettings settings) t (.start requests (max 1 wish.toNat) m) s ∧
      dispatch? (.ofSettings settings) t requests wish m = some s.dispatched := by
  have hpos : 0 < max 1 wish.toNat := Nat.lt_of_lt_of_le Nat.zero_lt_one (Nat.le_max_left _ _)
  refine ⟨⟨no_endless_run, fun s h => ⟨?_, h.reachable.replayed, ?_, fun i r hi => ?_⟩⟩,
    dispatch_complete (Nat.max_le.mpr ⟨by decide, possible⟩)⟩
  · rw [State.dispatched, List.length_mapIdx, h.reachable.length_eq]
  · intro a ha
    obtain ⟨e, he, hea⟩ := List.mem_filterMap.mp ha
    obtain ⟨b, -, rfl⟩ := Option.map_eq_some_iff.mp hea
    exact h.reachable.owner_lt e he
  · obtain ⟨replies, start, last, ends, hshare, hresult⟩ := h.ends hpos hi
    refine ⟨_, hresult, ?_⟩
    rw [filter_answersIn, hshare, Outcome.slot_ending]
    exact attributed_of_ends ends start i

/-- Two members ask for one URL, whose first call crashes. -/
theorem attribution_of_shared_url :
    let t := Script.transport (.ofTable [("http://a/", [⟨none, .crashed "lost"⟩])])
    (2 : UInt64).toNat ≤ maxPermits ∧
    ∃ d, dispatch? (.ofSettings {}) t [.get "http://a/", .get "http://a/"] 2
        ⟨0, Script.Served.none⟩ = some d ∧ d.results.length = 2 ∧
      ∃ result, d.results[1]? = some result ∧
        Attributed {} 1 (.get "http://a/") (((answersIn d.events).filter (·.1 = 1)).map (·.2))
          result := by
  intro t
  obtain ⟨hcomes, s, hcomplete, hdispatch⟩ := attribution {} t
    [.get "http://a/", .get "http://a/"] 2 ⟨0, Script.Served.none⟩ (by decide)
  obtain ⟨hlength, -, -, hmembers⟩ := hcomes.atEnd s hcomplete
  exact ⟨by decide, s.dispatched, hdispatch, hlength, hmembers 1 _ rfl⟩

end Group

end Courier
