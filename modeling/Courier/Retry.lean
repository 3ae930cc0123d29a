import Courier.Backoff
import Courier.Failure
import Courier.Settings
import Courier.Transport

/-!
# One request, attempted until it is settled

A request is attempted until its outcome is not worth another attempt or the budget of attempts is
spent. Between two attempts there is a wait, and the outcome before it is given up with its body
unread. The last outcome is handed over as it is: a response with any status is a response, and a
fault becomes a failure that names the URL. A crash of the transport ends the run at once.

`decide` is the decision after one attempt, `execute` the whole run. The count of attempts is a
word of 32 bits; it cannot wrap, because another attempt follows only below the budget
(`lt_of_decide_eq_again`).
-/

namespace Courier

/-- How a run of attempts ended. -/
inductive Ending
  /-- With a result. -/
  | settled (result : Except Failure Response)
  /-- With a crash of the transport. -/
  | crashed (report : String)

/-- How requests are attempted. -/
structure RetryPlan where
  /-- The number of attempts and the waits between them. -/
  backoff : Backoff
  /-- The time limit of each attempt. -/
  timeout : Option Span

namespace RetryPlan

/-- The backoff that settings ask for. -/
def backoffOf (s : Settings) : Backoff :=
  .ofRetries s.maxRetries (.ofMillis s.retryBackoffMs) (.ofMillis s.maxBackoffMs)

/-- The plan that settings ask for. -/
def ofSettings (s : Settings) : RetryPlan where
  backoff := backoffOf s
  timeout := s.timeout

/-! ## 1. The decision after an attempt -/

/-- What follows an attempt. -/
inductive Decision
  /-- Nothing: the run has ended. -/
  | stop (ending : Ending)
  /-- Another attempt, after a wait. -/
  | again (wait : Span) (notice : Notice)

/-- The setback that an outcome means for the next attempt. -/
def setback : Except Fault Response → Setback
  | .ok response => .status response.status
  | .error fault => .fault fault

/-- The result that an outcome of a request comes to. -/
def result (r : Request) : Except Fault Response → Except Failure Response
  | .ok response => .ok response
  | .error fault => .error (.transport r.url fault)

/-- What follows attempt number `attempt`, counted from 1, with an outcome that is no crash. -/
def settle (plan : RetryPlan) (r : Request) (attempt : UInt32) (o : Except Fault Response) :
    Decision :=
  if verdict o = .retry ∧ attempt < plan.backoff.maxAttempts then
    let wait := plan.backoff.delay (attempt - 1)
    .again wait (.retrying r.method r.url (setback o) attempt plan.backoff.maxAttempts wait)
  else .stop (.settled (result r o))

/-- What follows attempt number `attempt`, counted from 1. -/
def decide (plan : RetryPlan) (r : Request) (attempt : UInt32) : Outcome → Decision
  | .answered response => plan.settle r attempt (.ok response)
  | .failed fault => plan.settle r attempt (.error fault)
  | .crashed report => .stop (.crashed report)

theorem lt_of_settle_eq_again {plan : RetryPlan} {r : Request} {attempt : UInt32}
    {o : Except Fault Response} {wait : Span} {notice : Notice}
    (h : plan.settle r attempt o = .again wait notice) : attempt < plan.backoff.maxAttempts := by
  unfold settle at h
  split at h
  · rename_i hc
    exact hc.2
  · cases h

/-- Another attempt follows only below the budget. -/
theorem lt_of_decide_eq_again {plan : RetryPlan} {r : Request} {attempt : UInt32} {o : Outcome}
    {wait : Span} {notice : Notice} (h : plan.decide r attempt o = .again wait notice) :
    attempt < plan.backoff.maxAttempts := by
  cases o with
  | answered response => exact lt_of_settle_eq_again h
  | failed fault => exact lt_of_settle_eq_again h
  | crashed report => cases h

/-! ## 2. The run -/

/-- What a run of attempts came to. -/
structure Execution (σ : Type) where
  /-- How it ended. -/
  ending : Ending
  /-- When it ended, with the state of the transport then. -/
  moment : Moment σ
  /-- What happened, in order. -/
  events : List Event
  /-- The number of items that came off the network with the outcomes that were given up. -/
  pulled : Nat

/-- The number of items that come off the network when an outcome is given up for another attempt:
    none is taken from the body of its response. -/
def givenUp : Outcome → Nat
  | .answered response => response.body.pulled 0
  | _ => 0

/-- The events of making a call. -/
def callEvents (plan : RetryPlan) (r : Request) (start : Nat) (reply : Reply) : List Event :=
  [.noticed (.sending r.method r.url),
    .called (r.call plan.timeout start reply.latency) reply.outcome]

theorem toNat_add_one_of_lt {a b : UInt32} (h : a < b) : (a + 1).toNat = a.toNat + 1 := by
  have h1 : a.toNat < b.toNat := h
  have h2 : b.toNat < 2 ^ 32 := b.toNat_lt
  rw [UInt32.toNat_add]
  exact Nat.mod_eq_of_lt (by have : (1 : UInt32).toNat = 1 := rfl; omega)

/-- The count of attempts does not wrap where another attempt follows, and stays below the
    budget. -/
theorem count_of_again {plan : RetryPlan} {r : Request} {made : UInt32} {o : Outcome}
    {wait : Span} {notice : Notice} (below : made < plan.backoff.maxAttempts)
    (h : plan.decide r (made + 1) o = .again wait notice) :
    (made + 1).toNat = made.toNat + 1 ∧ made + 1 < plan.backoff.maxAttempts :=
  ⟨toNat_add_one_of_lt below, lt_of_decide_eq_again h⟩

/-- A run of attempts from a given moment on, with `made` attempts behind it. -/
def executeFrom {σ : Type} (plan : RetryPlan) (t : Transport σ) (r : Request) (made : UInt32)
    (below : made < plan.backoff.maxAttempts) (m : Moment σ) : Execution σ :=
  let answer := t.reply r plan.timeout m.state
  let reply := answer.1
  let after : Moment σ := ⟨m.now + reply.latency, answer.2⟩
  let events := plan.callEvents r m.now reply
  match h : plan.decide r (made + 1) reply.outcome with
  | .stop ending => ⟨ending, after, events, 0⟩
  | .again wait notice =>
    let later := executeFrom plan t r (made + 1) (count_of_again below h).2
      ⟨after.now + wait.restMillis, after.state⟩
    { later with
      events := events ++ [.noticed notice, .waited after.now wait] ++ later.events
      pulled := givenUp reply.outcome + later.pulled }
termination_by plan.backoff.maxAttempts.toNat - made.toNat
decreasing_by
  have hc := count_of_again below h
  have : (made + 1).toNat < plan.backoff.maxAttempts.toNat := hc.2
  omega

/-- The run ends with its first attempt where that is final. -/
theorem executeFrom_of_stop {σ : Type} (plan : RetryPlan) (t : Transport σ) (r : Request)
    (made : UInt32) (below : made < plan.backoff.maxAttempts) (m : Moment σ) (ending : Ending)
    (h : plan.decide r (made + 1) (t.reply r plan.timeout m.state).1.outcome = .stop ending) :
    plan.executeFrom t r made below m =
      ⟨ending, ⟨m.now + (t.reply r plan.timeout m.state).1.latency,
        (t.reply r plan.timeout m.state).2⟩,
        plan.callEvents r m.now (t.reply r plan.timeout m.state).1, 0⟩ := by
  rw [executeFrom]
  split
  · rename_i e he
    rw [h] at he
    cases he
    rfl
  · rename_i w n he
    rw [h] at he
    cases he

/-- The run goes on after its first attempt where another follows. -/
theorem executeFrom_of_again {σ : Type} (plan : RetryPlan) (t : Transport σ) (r : Request)
    (made : UInt32) (below : made < plan.backoff.maxAttempts) (m : Moment σ) (wait : Span)
    (notice : Notice) (h : plan.decide r (made + 1) (t.reply r plan.timeout m.state).1.outcome =
      .again wait notice) :
    let reply := (t.reply r plan.timeout m.state).1
    let later := plan.executeFrom t r (made + 1) (lt_of_decide_eq_again h)
      ⟨m.now + reply.latency + wait.restMillis, (t.reply r plan.timeout m.state).2⟩
    plan.executeFrom t r made below m =
      { later with
        events := plan.callEvents r m.now reply ++
          [.noticed notice, .waited (m.now + reply.latency) wait] ++ later.events
        pulled := givenUp reply.outcome + later.pulled } := by
  dsimp only
  rw [executeFrom]
  split
  · rename_i e he
    rw [h] at he
    cases he
  · rename_i w n he
    rw [h] at he
    cases he
    rfl

/-- The run of attempts of a request. -/
def execute {σ : Type} (plan : RetryPlan) (t : Transport σ) (r : Request) (m : Moment σ) :
    Execution σ :=
  plan.executeFrom t r 0 plan.backoff.maxAttempts_pos m

end RetryPlan

end Courier
