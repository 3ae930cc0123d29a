import Courier.Proofs.Accounts
import Mathlib.Order.Bounds.Defs

/-!
# What a run of attempts does

`RetryPlan.execute` sends one request over a transport until it is settled. The transport gives the
same request, sent over and over, one reply after the other (`Transport.replies`); the run goes
through these replies as `Courier.Proofs.Attempts` tells (`execute_eq`), and whatever stands in a
body has no part in it (`execute_withBodies`). `execute_run` puts all of it together.
-/

namespace Courier

/-! ## 1. The replies to one request -/

namespace Transport

variable {σ : Type} (t : Transport σ) (r : Request) (timeout : Option Span) (s : σ)

/-- The state of a transport after `k` calls with one request. -/
def stateAfter : Nat → σ
  | 0 => s
  | k + 1 => (t.reply r timeout (stateAfter k)).2

/-- The reply of a transport to call number `k` with one request. -/
def replies (k : Nat) : Reply := (t.reply r timeout (t.stateAfter r timeout s k)).1

end Transport

/-! ## 2. The run -/

namespace RetryPlan

variable {σ : Type} (plan : RetryPlan) (t : Transport σ) (r : Request)

/-- The run ends with a call whose outcome is not worth another one, or that spends the budget. -/
theorem executeFrom_of_last {made : UInt32} (below : made < plan.backoff.maxAttempts) (m : Moment σ)
    {reply : Reply} {state : σ} (hreply : t.reply r plan.timeout m.state = (reply, state))
    (last : ¬ reply.outcome.MeritsRetry ∨ made.toNat + 1 = plan.budget) :
    plan.executeFrom t r made below m =
      ⟨reply.outcome.ending r, ⟨m.now + reply.latency, state⟩,
        plan.callEvents r m.now reply, 0⟩ := by
  have hdec := decide_of_last (r := r) below last
  have hrun := executeFrom_of_stop plan t r made below m _ (by rw [hreply]; exact hdec)
  rw [hreply] at hrun
  exact hrun

/-- The run goes on after any other call, with a warning and a wait. -/
theorem executeFrom_of_retry {made : UInt32} (below : made < plan.backoff.maxAttempts)
    (m : Moment σ) {reply : Reply} {state : σ}
    (hreply : t.reply r plan.timeout m.state = (reply, state))
    (merits : reply.outcome.MeritsRetry) (more : made.toNat + 1 < plan.budget) :
    ∃ (notice : Notice) (below' : made + 1 < plan.backoff.maxAttempts),
      plan.warning? r made.toNat reply.outcome = some notice ∧
      let later := plan.executeFrom t r (made + 1) below'
        ⟨m.now + reply.latency + (plan.waitAfter made.toNat).restMillis, state⟩
      plan.executeFrom t r made below m =
        { later with
          events := plan.callEvents r m.now reply ++
            [.noticed notice, .waited (m.now + reply.latency) (plan.waitAfter made.toNat)] ++
            later.events
          pulled := givenUp reply.outcome + later.pulled } := by
  obtain ⟨notice, hwarn, hdec⟩ := decide_of_retry (r := r) merits more
  have hrun := executeFrom_of_again plan t r made below m _ notice (by rw [hreply]; exact hdec)
  simp only [hreply] at hrun
  exact ⟨notice, lt_of_decide_eq_again hdec, hwarn, hrun⟩

/-- Nothing comes off the network with an outcome that is given up. -/
theorem givenUp_eq_zero (o : Outcome) : givenUp o = 0 := by
  cases o with
  | answered response =>
    show response.body.pulled 0 = 0
    cases response.body <;> rfl
  | failed fault => rfl
  | crashed report => rfl

/-- When call number `k` of a run begins, and the state of the transport then. -/
def momentOf (m : Moment σ) (k : Nat) : Moment σ :=
  ⟨m.now + plan.offset (t.replies r plan.timeout m.state) k, t.stateAfter r plan.timeout m.state k⟩

/-- A run that has got the first replies goes on with the others. -/
theorem executeFrom_eq (m : Moment σ) (made : UInt32) (below : made < plan.backoff.maxAttempts)
    (retried : ∀ k < made.toNat, (t.replies r plan.timeout m.state k).outcome.MeritsRetry) :
    let replies := t.replies r plan.timeout m.state
    let run := plan.executeFrom t r made below (plan.momentOf t r m made.toNat)
    ∃ last, plan.Ends replies last ∧ run.ending = (replies last).outcome.ending r ∧
      run.moment = ⟨m.now + plan.offset replies last + (replies last).latency,
        t.stateAfter r plan.timeout m.state (last + 1)⟩ ∧
      plan.eventsBefore r replies m.now made.toNat ++ run.events =
        plan.eventsThrough r replies m.now last ∧
      run.pulled = 0 := by
  intro replies run
  have below' : made.toNat < plan.budget := below
  have hreply : t.reply r plan.timeout (plan.momentOf t r m made.toNat).state =
      (replies made.toNat, t.stateAfter r plan.timeout m.state (made.toNat + 1)) := rfl
  by_cases last : ¬ (replies made.toNat).outcome.MeritsRetry ∨ made.toNat + 1 = plan.budget
  · have hrun : run = _ := executeFrom_of_last plan t r below _ hreply last
    rw [hrun]
    exact ⟨made.toNat, ⟨below', retried, last⟩, rfl, rfl, rfl, rfl⟩
  · obtain ⟨merits, more⟩ := not_or.mp last
    have merits := Decidable.not_not.mp merits
    have more : made.toNat + 1 < plan.budget := by omega
    have hsucc := toNat_succ_of_lt_budget below'
    obtain ⟨notice, hlt, hwarn, hrun⟩ := executeFrom_of_retry plan t r below _ hreply merits more
    have hrun : run = _ := hrun
    have hretried : ∀ k < (made + 1).toNat, (replies k).outcome.MeritsRetry := by
      intro k hk
      rw [hsucc] at hk
      rcases Nat.lt_succ_iff_lt_or_eq.mp hk with hk | rfl
      · exact retried k hk
      · exact merits
    have hmoment : (⟨(plan.momentOf t r m made.toNat).now + (replies made.toNat).latency +
        (plan.waitAfter made.toNat).restMillis,
        t.stateAfter r plan.timeout m.state (made.toNat + 1)⟩ : Moment σ) =
        plan.momentOf t r m (made + 1).toNat := by
      rw [hsucc, momentOf, momentOf, offset, Nat.add_assoc m.now, Nat.add_assoc m.now]
    -- the rest of the run, after one call and one wait more
    obtain ⟨last, hends, hending, hend, hevents, hpulled⟩ :=
      executeFrom_eq m (made + 1) hlt hretried
    rw [← hmoment] at hending hend hevents hpulled
    refine ⟨last, hends, ?_, ?_, ?_, ?_⟩
    · rw [hrun]
      exact hending
    · rw [hrun]
      exact hend
    · rw [← hevents, hsucc, eventsBefore_succ, eventsThrough, gapPart, hwarn, hrun]
      simp only [List.append_assoc]
      rfl
    · rw [hrun]
      show givenUp (replies made.toNat).outcome + _ = 0
      rw [givenUp_eq_zero, hpulled]
termination_by plan.budget - made.toNat
decreasing_by
  rw [hsucc]
  omega

/-- **A run goes through the replies of the transport up to the call that it ends with.** -/
theorem execute_eq (m : Moment σ) :
    let replies := t.replies r plan.timeout m.state
    ∃ last, plan.Ends replies last ∧
      plan.execute t r m =
        ⟨(replies last).outcome.ending r,
          ⟨m.now + plan.offset replies last + (replies last).latency,
            t.stateAfter r plan.timeout m.state (last + 1)⟩,
          plan.eventsThrough r replies m.now last, 0⟩ := by
  intro replies
  obtain ⟨last, hends, hending, hmoment, hevents, hpulled⟩ := executeFrom_eq plan t r m 0
    plan.backoff.maxAttempts_pos fun k hk => absurd hk (Nat.not_lt_zero k)
  refine ⟨last, hends, ?_⟩
  have hevents : (plan.execute t r m).events = plan.eventsThrough r replies m.now last := hevents
  have hpulled : (plan.execute t r m).pulled = 0 := hpulled
  rw [← hevents, ← hmoment, ← hending, ← hpulled]
  rfl

end RetryPlan

/-! ## 3. Bodies have no part in it -/

section Bodies

variable (swap : Response → Body)

/-- A response with another body. -/
def Response.withBody (response : Response) : Response := { response with body := swap response }

/-- An outcome with another body in its response. -/
def Outcome.withBodies : Outcome → Outcome
  | .answered response => .answered (response.withBody swap)
  | o => o

/-- A reply with another body in its response. -/
def Reply.withBodies (reply : Reply) : Reply :=
  { reply with outcome := reply.outcome.withBodies swap }

/-- A transport that does as another, with other bodies in its responses. -/
def Transport.withBodies {σ : Type} (t : Transport σ) : Transport σ where
  reply r timeout s := ((t.reply r timeout s).1.withBodies swap, (t.reply r timeout s).2)

/-- An event with another body in its response. -/
def Event.withBodies : Event → Event
  | .called call outcome => .called call (outcome.withBodies swap)
  | e => e

/-- An ending with another body in its response. -/
def Ending.withBodies : Ending → Ending
  | .settled (.ok response) => .settled (.ok (response.withBody swap))
  | e => e

/-- What a run came to, with other bodies in the responses. -/
def RetryPlan.Execution.withBodies {σ : Type} (run : Execution σ) : Execution σ where
  ending := run.ending.withBodies swap
  moment := run.moment
  events := run.events.map (Event.withBodies swap)
  pulled := run.pulled

theorem Outcome.meritsRetry_withBodies (o : Outcome) :
    (o.withBodies swap).MeritsRetry ↔ o.MeritsRetry := by
  cases o <;> exact Iff.rfl

theorem Outcome.setback?_withBodies (o : Outcome) : (o.withBodies swap).setback? = o.setback? := by
  cases o <;> rfl

theorem Outcome.ending_withBodies (r : Request) (o : Outcome) :
    (o.withBodies swap).ending r = (o.ending r).withBodies swap := by
  cases o <;> rfl

theorem Transport.stateAfter_withBodies {σ : Type} (t : Transport σ) (r : Request)
    (timeout : Option Span) (s : σ) (k : Nat) :
    (t.withBodies swap).stateAfter r timeout s k = t.stateAfter r timeout s k := by
  induction k with
  | zero => rfl
  | succ k ih =>
    rw [stateAfter, stateAfter, ih]
    rfl

theorem Transport.replies_withBodies {σ : Type} (t : Transport σ) (r : Request)
    (timeout : Option Span) (s : σ) (k : Nat) :
    (t.withBodies swap).replies r timeout s k = (t.replies r timeout s k).withBodies swap := by
  rw [replies, stateAfter_withBodies]
  rfl

namespace RetryPlan

variable (plan : RetryPlan) (r : Request) (replies : Nat → Reply)

theorem offset_withBodies (k : Nat) :
    plan.offset (fun k => (replies k).withBodies swap) k = plan.offset replies k := by
  induction k with
  | zero => rfl
  | succ k ih =>
    rw [offset, offset, ih]
    rfl

theorem Ends.withBodies {plan : RetryPlan} {replies : Nat → Reply} {last : Nat}
    (h : plan.Ends replies last) : plan.Ends (fun k => (replies k).withBodies swap) last where
  below := h.below
  retried k hk := ((replies k).outcome.meritsRetry_withBodies swap).mpr (h.retried k hk)
  final := h.final.imp_left (mt ((replies last).outcome.meritsRetry_withBodies swap).mp)

theorem callPart_withBodies (start k : Nat) :
    plan.callPart r (fun k => (replies k).withBodies swap) start k =
      (plan.callPart r replies start k).map (Event.withBodies swap) := by
  rw [callPart, offset_withBodies]
  rfl

theorem gapPart_withBodies (start k : Nat) :
    plan.gapPart r (fun k => (replies k).withBodies swap) start k =
      (plan.gapPart r replies start k).map (Event.withBodies swap) := by
  have hwarn : plan.warning? r k ((replies k).outcome.withBodies swap) =
      plan.warning? r k (replies k).outcome := by
    rw [warning?, warning?, Outcome.setback?_withBodies]
  rw [gapPart, gapPart, offset_withBodies, Reply.withBodies, hwarn, List.map_append]
  congr 1
  cases plan.warning? r k (replies k).outcome <;> rfl

theorem eventsThrough_withBodies (start last : Nat) :
    plan.eventsThrough r (fun k => (replies k).withBodies swap) start last =
      (plan.eventsThrough r replies start last).map (Event.withBodies swap) := by
  rw [eventsThrough, eventsThrough, List.map_append, callPart_withBodies]
  congr 1
  induction last with
  | zero => rfl
  | succ k ih =>
    rw [eventsBefore_succ, eventsBefore_succ, eventsThrough, eventsThrough, List.map_append,
      List.map_append, ih, callPart_withBodies, gapPart_withBodies]

/-- **A run does the same whatever stands in the bodies**: not an item of them is looked at, be it
    of a response that another attempt follows or of the one that is handed over. -/
theorem execute_withBodies {σ : Type} (t : Transport σ) (m : Moment σ) :
    plan.execute (t.withBodies swap) r m = (plan.execute t r m).withBodies swap := by
  obtain ⟨last, hends, hrun⟩ := plan.execute_eq t r m
  obtain ⟨last', hends', hrun'⟩ := plan.execute_eq (t.withBodies swap) r m
  have hreplies : (t.withBodies swap).replies r plan.timeout m.state =
      fun k => (t.replies r plan.timeout m.state k).withBodies swap :=
    funext fun k => t.replies_withBodies swap r plan.timeout m.state k
  rw [hreplies] at hends' hrun'
  obtain rfl := hends'.unique (hends.withBodies swap)
  rw [hrun, hrun', offset_withBodies, eventsThrough_withBodies, Transport.stateAfter_withBodies]
  refine congrArg (fun ending => Execution.mk ending _ _ _) ?_
  exact Outcome.ending_withBodies swap r _

end RetryPlan

end Bodies

/-! ## 4. The whole run -/

namespace RetryPlan

/-- The number of calls of a run is the least that has an outcome not worth another attempt or
    spends the budget. -/
theorem Ends.isLeast {plan : RetryPlan} {replies : Nat → Reply} {last : Nat}
    (h : plan.Ends replies last) :
    IsLeast {n | 1 ≤ n ∧ (¬ (replies (n - 1)).outcome.MeritsRetry ∨ n = plan.budget)}
      (last + 1) := by
  refine ⟨⟨Nat.le_add_left 1 last, h.final⟩, ?_⟩
  rintro n ⟨hpos, hn⟩
  refine Nat.le_of_not_lt fun hlt => ?_
  have hbelow := h.below
  rcases hn with hn | hn
  · exact hn (h.retried (n - 1) (by omega))
  · omega

/-- A call carries the request: what its method sends, and the time limit. -/
theorem carried_of_mem_callsOf {plan : RetryPlan} {r : Request} {replies : Nat → Reply}
    {start last : Nat} {call : Call}
    (h : call ∈ callsOf (plan.eventsThrough r replies start last)) :
    call.method = r.method ∧ call.url = r.url ∧
      call.payload = (if r.method = .post then some (r.payload.getD []) else none) ∧
      call.contentType = (if r.method = .post then some r.contentType else none) ∧
      call.timeout = plan.timeout := by
  rw [callsOf_eventsThrough] at h
  obtain ⟨k, -, rfl⟩ := List.mem_map.mp h
  refine ⟨rfl, rfl, ?_, ?_, rfl⟩
  · show r.sentPayload = _
    rw [Request.sentPayload]
    cases r.method <;> rfl
  · show r.sentContentType = _
    rw [Request.sentContentType]
    cases r.method <;> rfl

/-- **The whole run of a request**, over any transport. There are `n` calls, one after the other
    with the same content, and `n` is the least number whose outcome is not worth another attempt
    or that spends the budget. The last outcome is handed over as it is. Each call but the last is
    followed by one warning, with its number and the number of attempts left, and one wait before
    the next call. No item comes off the network, and whatever stands in a body has no part in
    it. -/
theorem execute_run {σ : Type} (s : Settings) (t : Transport σ) (r : Request) (m : Moment σ) :
    let plan := ofSettings s
    let replies := t.replies r s.timeout m.state
    let budget := max 1 s.maxRetries.toNat
    let run := plan.execute t r m
    ∃ (n : Nat) (setbacks : Nat → Setback),
      IsLeast {k | 1 ≤ k ∧ (¬ (replies (k - 1)).outcome.MeritsRetry ∨ k = budget)} n ∧
      (∀ k, k + 1 < n →
        (replies k).outcome.MeritsRetry ∧ (replies k).outcome.setback? = some (setbacks k)) ∧
      run.ending = (replies (n - 1)).outcome.ending r ∧
      run.events = plan.eventsThrough r replies m.now (n - 1) ∧
      answersOf run.events =
        (List.range n).map (fun k => (plan.callAt r replies m.now k, (replies k).outcome)) ∧
      (∀ call ∈ callsOf run.events,
        call.method = r.method ∧ call.url = r.url ∧
        call.payload = (if r.method = .post then some (r.payload.getD []) else none) ∧
        call.contentType = (if r.method = .post then some r.contentType else none) ∧
        call.timeout = s.timeout) ∧
      waitsOf run.events =
        (List.range (n - 1)).map (fun k => plan.backoff.delay (UInt32.ofNat k)) ∧
      (warningsOf run.events).map Notice.line =
        (List.range (n - 1)).map (fun k => "WARN " ++ retryText r.method r.url (setbacks k) (k + 1)
          budget (plan.backoff.delay (UInt32.ofNat k))) ∧
      (∀ setback a b a' b' wait wait', retryText r.method r.url setback a b wait =
        retryText r.method r.url setback a' b' wait' → a = a' ∧ b = b') ∧
      run.moment =
        ⟨m.now + plan.offset replies (n - 1) + (replies (n - 1)).latency,
          t.stateAfter r s.timeout m.state n⟩ ∧
      run.pulled = 0 ∧
      ∀ swap, plan.execute (t.withBodies swap) r m = run.withBodies swap := by
  intro plan replies budget run
  obtain ⟨last, hends, hrun⟩ := plan.execute_eq t r m
  have hends : plan.Ends replies last := hends
  have hbudget : plan.budget = budget := budget_ofSettings s
  have hevents : run.events = plan.eventsThrough r replies m.now last :=
    congrArg Execution.events hrun
  have hsetback : ∀ k < last, (replies k).outcome.setback? =
      some (((replies k).outcome.setback?).getD (.status .ok)) := by
    intro k hk
    obtain ⟨setback, h⟩ := (hends.retried k hk).setback?
    rw [h]
    rfl
  refine ⟨last + 1, fun k => ((replies k).outcome.setback?).getD (.status .ok), ?_, ?_,
    congrArg Execution.ending hrun, hevents, ?_, ?_, ?_, ?_,
    fun setback a b a' b' wait wait' => retryText_inj, congrArg Execution.moment hrun,
    congrArg Execution.pulled hrun, fun swap => plan.execute_withBodies swap r t m⟩
  · rw [← hbudget]
    exact hends.isLeast
  · intro k hk
    have hk := Nat.lt_of_succ_lt_succ hk
    exact ⟨hends.retried k hk, hsetback k hk⟩
  · rw [hevents]
    exact plan.answersOf_eventsThrough r replies m.now last
  · intro call hcall
    rw [hevents] at hcall
    exact carried_of_mem_callsOf hcall
  · rw [hevents]
    exact plan.waitsOf_eventsThrough r replies m.now last
  · rw [hevents, plan.warningsOf_eventsThrough r replies m.now hsetback, List.map_map]
    refine List.map_congr_left fun k hk => ?_
    have hk : k + 1 < plan.budget := by
      have h1 := List.mem_range.mp hk
      have h2 := hends.below
      omega
    have hword : (UInt32.ofNat (k + 1)).toNat = k + 1 := by
      rw [UInt32.toNat_ofNat']
      exact Nat.mod_eq_of_lt (Nat.lt_trans hk plan.backoff.maxAttempts.toNat_lt)
    have hle : UInt32.ofNat (k + 1) ≤ plan.backoff.maxAttempts := by
      rw [UInt32.le_iff_toNat_le, hword]
      exact Nat.le_of_lt hk
    rw [← hbudget]
    show Notice.line _ = _
    rw [line_retrying hle, hword]
    rfl

end RetryPlan

end Courier
