import Courier.Retry
import Mathlib.Data.List.Basic

/-!
# The course of a run of attempts

A run of attempts is told by the replies it gets, one after the other. This file says how, for any
sequence of replies and without the transport that gives them:

* `RetryPlan.Ends`: the run ends with call number `last`, counted from 0;
* `RetryPlan.offset`: when a call begins, counted from the first one;
* `RetryPlan.eventsThrough`: what happens up to the reply to a call, in order.

`decide_of_retry` and `decide_of_last` are the two laws of the decision after an attempt; everything
else about it follows from them.
-/

namespace Courier

/-! ## 1. Outcomes -/

namespace Outcome

/-- An outcome is worth another attempt. A crash never is. -/
def MeritsRetry : Outcome → Prop
  | .answered response => verdict (.ok response) = .retry
  | .failed fault => verdict (.error fault) = .retry
  | .crashed _ => False

instance : DecidablePred MeritsRetry
  | .answered response => inferInstanceAs (Decidable (verdict (.ok response) = .retry))
  | .failed fault => inferInstanceAs (Decidable (verdict (.error fault) = .retry))
  | .crashed _ => inferInstanceAs (Decidable False)

/-- How a run of attempts ends whose last outcome this is: a response is handed over as it is, a
    fault becomes a failure that names the URL. -/
def ending (r : Request) : Outcome → Ending
  | .answered response => .settled (.ok response)
  | .failed fault => .settled (.error (.transport r.url fault))
  | .crashed report => .crashed report

/-- The setback that an outcome means for the next attempt. There is none after a crash. -/
def setback? : Outcome → Option Setback
  | .answered response => some (.status response.status)
  | .failed fault => some (.fault fault)
  | .crashed _ => none

end Outcome

namespace RetryPlan

variable (plan : RetryPlan) (r : Request) (replies : Nat → Reply)

/-! ## 2. Waits and warnings -/

/-- How many attempts there may be. -/
def budget : Nat := plan.backoff.maxAttempts.toNat

theorem budget_pos : 0 < plan.budget := plan.backoff.maxAttempts_pos

/-- **The budget is the number of retries that the settings ask for, or one for none.** -/
theorem budget_ofSettings (s : Settings) :
    (ofSettings s).budget = max 1 s.maxRetries.toNat := by
  show (if s.maxRetries = 0 then (1 : UInt32) else s.maxRetries).toNat = _
  split
  · rename_i h
    rw [h]
    rfl
  · rename_i h
    have h0 : s.maxRetries.toNat ≠ 0 := fun e => h (UInt32.toNat_inj.mp e)
    omega

/-- The wait after call number `k`. -/
def waitAfter (k : Nat) : Span := plan.backoff.delay (UInt32.ofNat k)

/-- The warning after call number `k` with an outcome that another call follows. -/
def warning? (k : Nat) (o : Outcome) : Option Notice :=
  o.setback?.map fun setback =>
    .retrying r.method r.url setback (UInt32.ofNat (k + 1)) plan.backoff.maxAttempts
      (plan.waitAfter k)

/-! ## 3. The decision -/

/-- A run of attempts that gets these replies ends with call number `last`. -/
structure Ends (last : Nat) : Prop where
  /-- There may be so many calls. -/
  below : last < plan.budget
  /-- Every call before was worth another one. -/
  retried : ∀ k < last, (replies k).outcome.MeritsRetry
  /-- This one is not, or it is the last that there may be. -/
  final : ¬ (replies last).outcome.MeritsRetry ∨ last + 1 = plan.budget

variable {plan r replies}

/-- A run ends in one way only. -/
theorem Ends.unique {a b : Nat} (ha : plan.Ends replies a) (hb : plan.Ends replies b) : a = b := by
  have not_lt : ∀ {a b : Nat}, plan.Ends replies a → plan.Ends replies b → ¬ a < b := by
    intro a b ha hb hlt
    have hbelow := hb.below
    rcases ha.final with h | h
    · exact h (hb.retried a hlt)
    · omega
  have h1 := not_lt ha hb
  have h2 := not_lt hb ha
  omega

theorem toNat_succ_of_lt_budget {made : UInt32} (below : made.toNat < plan.budget) :
    (made + 1).toNat = made.toNat + 1 :=
  toNat_add_one_of_lt (b := plan.backoff.maxAttempts) below

theorem warning?_eq {made : UInt32} {o : Outcome} {setback : Setback}
    (h : o.setback? = some setback) :
    plan.warning? r made.toNat o =
      some (.retrying r.method r.url setback (made + 1) plan.backoff.maxAttempts
        (plan.backoff.delay made)) := by
  rw [warning?, h, waitAfter, UInt32.ofNat_add, UInt32.ofNat_toNat]
  rfl

theorem settle_of_retry {made : UInt32} {o : Except Fault Response} (merits : verdict o = .retry)
    (below : made.toNat + 1 < plan.budget) :
    plan.settle r (made + 1) o = .again (plan.backoff.delay made)
      (.retrying r.method r.url (setback o) (made + 1) plan.backoff.maxAttempts
        (plan.backoff.delay made)) := by
  have hlt : made + 1 < plan.backoff.maxAttempts := by
    rw [UInt32.lt_iff_toNat_lt, toNat_succ_of_lt_budget (Nat.lt_of_succ_lt below)]
    exact below
  rw [settle, if_pos ⟨merits, hlt⟩, UInt32.add_sub_cancel]

theorem settle_of_last {made : UInt32} {o : Except Fault Response}
    (below : made.toNat < plan.budget) (last : verdict o ≠ .retry ∨ made.toNat + 1 = plan.budget) :
    plan.settle r (made + 1) o = .stop (.settled (result r o)) := by
  refine if_neg fun ⟨merits, hlt⟩ => ?_
  rw [UInt32.lt_iff_toNat_lt, toNat_succ_of_lt_budget below] at hlt
  rcases last with h | h
  · exact h merits
  · exact absurd hlt (by rw [h]; exact Nat.lt_irrefl _)

/-- **Another attempt follows an outcome that is worth it, below the budget.** -/
theorem decide_of_retry {made : UInt32} {o : Outcome} (merits : o.MeritsRetry)
    (below : made.toNat + 1 < plan.budget) :
    ∃ notice, plan.warning? r made.toNat o = some notice ∧
      plan.decide r (made + 1) o = .again (plan.waitAfter made.toNat) notice := by
  have hwait : plan.waitAfter made.toNat = plan.backoff.delay made := by
    rw [waitAfter, UInt32.ofNat_toNat]
  rw [hwait]
  cases o with
  | answered response => exact ⟨_, warning?_eq rfl, settle_of_retry merits below⟩
  | failed fault => exact ⟨_, warning?_eq rfl, settle_of_retry merits below⟩
  | crashed report => exact merits.elim

/-- **Nothing follows any other outcome, or the last attempt that there may be.** -/
theorem decide_of_last {made : UInt32} {o : Outcome} (below : made.toNat < plan.budget)
    (last : ¬ o.MeritsRetry ∨ made.toNat + 1 = plan.budget) :
    plan.decide r (made + 1) o = .stop (o.ending r) := by
  cases o with
  | answered response => exact settle_of_last below last
  | failed fault => exact settle_of_last below last
  | crashed report => rfl

/-- What another attempt says about the one before. -/
theorem of_decide_eq_again {made : UInt32} {o : Outcome} {wait : Span} {notice : Notice}
    (below : made.toNat < plan.budget) (h : plan.decide r (made + 1) o = .again wait notice) :
    o.MeritsRetry ∧ made.toNat + 1 < plan.budget ∧ wait = plan.waitAfter made.toNat ∧
      plan.warning? r made.toNat o = some notice := by
  by_cases last : ¬ o.MeritsRetry ∨ made.toNat + 1 = plan.budget
  · rw [decide_of_last below last] at h
    cases h
  · obtain ⟨merits, more⟩ := not_or.mp last
    have merits := Decidable.not_not.mp merits
    have more : made.toNat + 1 < plan.budget := by omega
    obtain ⟨notice', hwarn, hdec⟩ := decide_of_retry (r := r) merits more
    rw [hdec] at h
    cases h
    exact ⟨merits, more, rfl, hwarn⟩

/-- What the end of a run says about its last attempt. -/
theorem of_decide_eq_stop {made : UInt32} {o : Outcome} {ending : Ending}
    (below : made.toNat < plan.budget) (h : plan.decide r (made + 1) o = .stop ending) :
    (¬ o.MeritsRetry ∨ made.toNat + 1 = plan.budget) ∧ ending = o.ending r := by
  by_cases last : ¬ o.MeritsRetry ∨ made.toNat + 1 = plan.budget
  · rw [decide_of_last below last] at h
    cases h
    exact ⟨last, rfl⟩
  · obtain ⟨merits, more⟩ := not_or.mp last
    have more : made.toNat + 1 < plan.budget := by omega
    obtain ⟨notice, -, hdec⟩ := decide_of_retry (r := r) (Decidable.not_not.mp merits) more
    rw [hdec] at h
    cases h

/-! ## 4. When calls begin -/

variable (plan r replies)

/-- How long after the first call call number `k` begins. -/
def offset : Nat → Nat
  | 0 => 0
  | k + 1 => offset k + (replies k).latency + (plan.waitAfter k).restMillis

theorem offset_congr {replies' : Nat → Reply} :
    ∀ {k : Nat}, (∀ j < k, replies' j = replies j) → plan.offset replies' k = plan.offset replies k
  | 0, _ => rfl
  | k + 1, same => by
      rw [offset, offset, offset_congr fun j hj => same j (Nat.lt_succ_of_lt hj),
        same k (Nat.lt_succ_self k)]

/-- A call has its reply before a later call begins. -/
theorem offset_add_latency_le {j k : Nat} (h : j < k) :
    plan.offset replies j + (replies j).latency ≤ plan.offset replies k := by
  induction k with
  | zero => exact absurd h (Nat.not_lt_zero j)
  | succ k ih =>
    rw [offset]
    rcases Nat.lt_succ_iff_lt_or_eq.mp h with hlt | rfl
    · have := ih hlt
      omega
    · omega

/-! ## 5. What happens -/

/-- The events of call number `k` in a run whose first call begins at `start`. -/
def callPart (start k : Nat) : List Event :=
  plan.callEvents r (start + plan.offset replies k) (replies k)

/-- The events between call number `k` and the next. -/
def gapPart (start k : Nat) : List Event :=
  (plan.warning? r k (replies k).outcome).toList.map .noticed ++
    [.waited (start + plan.offset replies k + (replies k).latency) (plan.waitAfter k)]

/-- What happens before call number `k`. -/
def eventsBefore (start k : Nat) : List Event :=
  (List.range k).flatMap fun j => plan.callPart r replies start j ++ plan.gapPart r replies start j

/-- What happens up to the reply to call number `k`. -/
def eventsThrough (start k : Nat) : List Event :=
  plan.eventsBefore r replies start k ++ plan.callPart r replies start k

theorem eventsBefore_succ (start k : Nat) :
    plan.eventsBefore r replies start (k + 1) =
      plan.eventsThrough r replies start k ++ plan.gapPart r replies start k := by
  rw [eventsBefore, List.range_succ, List.flatMap_append, List.flatMap_singleton,
    ← List.append_assoc]
  rfl

theorem eventsBefore_congr {replies' : Nat → Reply} (start : Nat) {k : Nat}
    (same : ∀ j < k, replies' j = replies j) :
    plan.eventsBefore r replies' start k = plan.eventsBefore r replies start k := by
  refine List.flatMap_congr fun j hj => ?_
  have hjk := List.mem_range.mp hj
  have hoff := plan.offset_congr replies fun i hi => same i (Nat.lt_trans hi hjk)
  rw [callPart, callPart, gapPart, gapPart, hoff, same j hjk]

end RetryPlan

end Courier
