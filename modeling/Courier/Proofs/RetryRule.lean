import Courier.Proofs.Execution

/-!
# The rule for further attempts

The rule, as it is laid down, takes some outcomes for temporary: the status 429, every status from
500 on but 501, and four sorts of faults. A request that ends with such an outcome has had all the
attempts that it may have; one that ends otherwise has had one attempt more than there were
temporary outcomes before (`RetryPlan.KeepsRule`).

The verdict on an outcome follows the rule up to the status 599 and takes the statuses above for
final (`Outcome.meritsRetry_iff`). So the rule is kept unless a run stops at such a status with
attempts left (`RetryPlan.retry_rule`), and not where it does
(`RetryPlan.one_attempt_for_status_600`).
-/

namespace Courier

/-! ## 1. What the rule takes for temporary -/

/-- The statuses that the rule takes for temporary. -/
def Status.Temporary (s : Status) : Prop := s.code = 429 ∨ (500 ≤ s.code ∧ s.code ≠ 501)

/-- The sorts of faults that the rule takes for temporary. -/
def Fault.Kind.Temporary (k : Fault.Kind) : Prop :=
  k = .timeout ∨ k = .connect ∨ k = .request ∨ k = .body

namespace Outcome

/-- The outcomes that the rule takes for temporary. -/
def Temporary : Outcome → Prop
  | .answered response => response.status.Temporary
  | .failed fault => fault.kind.Temporary
  | .crashed _ => False

/-- A response with a status above the five hundreds. -/
def AboveRange : Outcome → Prop
  | .answered response => 600 ≤ response.status.code
  | _ => False

end Outcome

namespace Ending

/-- A run that ended with an outcome that the rule takes for temporary. -/
def Temporary : Ending → Prop
  | .settled (.ok response) => response.status.Temporary
  | .settled (.error (.transport _ fault)) => fault.kind.Temporary
  | _ => False

/-- A run that ended with a response whose status is above the five hundreds. -/
def AboveRange : Ending → Prop
  | .settled (.ok response) => 600 ≤ response.status.code
  | _ => False

end Ending

/-! ## 2. The verdict and the rule -/

theorem Status.verdict_eq_retry_iff (s : Status) :
    s.verdict = .retry ↔ s.Temporary ∧ s.code < 600 := by
  have hsuccess : s.isSuccess = true ↔ 200 ≤ s.code ∧ s.code < 300 := by simp [isSuccess]
  have hserver : s.isServerError = true ↔ 500 ≤ s.code ∧ s.code < 600 := by simp [isServerError]
  unfold verdict Temporary
  simp only [hsuccess, hserver]
  split
  · rename_i h
    simp only [reduceCtorEq, false_iff]
    omega
  · rename_i hother
    split
    · simp only [true_iff]
      omega
    · simp only [reduceCtorEq, false_iff]
      omega

theorem Fault.verdict_eq_retry_iff (f : Fault) : f.verdict = .retry ↔ f.kind.Temporary := by
  unfold verdict Kind.Temporary
  cases f.kind <;> simp [Kind.isTransient]

namespace Outcome

/-- **The verdict follows the rule up to the status 599.** -/
theorem meritsRetry_iff (o : Outcome) : o.MeritsRetry ↔ o.Temporary ∧ ¬ o.AboveRange := by
  cases o with
  | answered response =>
      show response.status.verdict = .retry ↔ _
      rw [Status.verdict_eq_retry_iff, ← Nat.not_le]
      exact Iff.rfl
  | failed fault =>
      show fault.verdict = .retry ↔ fault.kind.Temporary ∧ ¬ False
      rw [Fault.verdict_eq_retry_iff, not_false_eq_true, and_true]
  | crashed report => exact ⟨False.elim, And.left⟩

theorem AboveRange.temporary {o : Outcome} (h : o.AboveRange) : o.Temporary := by
  cases o with
  | answered response =>
      have h : 600 ≤ response.status.code := h
      exact .inr ⟨by omega, by omega⟩
  | failed fault => cases h
  | crashed report => cases h

theorem temporary_ending (r : Request) (o : Outcome) : (o.ending r).Temporary ↔ o.Temporary := by
  cases o <;> exact Iff.rfl

theorem aboveRange_ending (r : Request) (o : Outcome) :
    (o.ending r).AboveRange ↔ o.AboveRange := by
  cases o <;> exact Iff.rfl

end Outcome

/-! ## 3. Runs that keep the rule -/

namespace RetryPlan

/-- So many outcomes are temporary, and the next is not. -/
structure Leading (replies : Nat → Reply) (count : Nat) : Prop where
  before : ∀ k < count, (replies k).outcome.Temporary
  next : ¬ (replies count).outcome.Temporary

/-- A run of so many calls that keeps the rule. -/
structure KeepsRule (replies : Nat → Reply) (budget calls : Nat) (ending : Ending) : Prop where
  /-- With a temporary outcome it ends only when the budget is spent. -/
  spent : ending.Temporary → calls = budget
  /-- With any other it ends at once, after the temporary ones. -/
  counted : ¬ ending.Temporary → ∃ count, Leading replies count ∧ calls = count + 1

variable {plan : RetryPlan} {replies : Nat → Reply} {last : Nat}

theorem Ends.leading (h : plan.Ends replies last) (other : ¬ (replies last).outcome.Temporary) :
    Leading replies last where
  before k hk := ((replies k).outcome.meritsRetry_iff.mp (h.retried k hk)).1
  next := other

/-- **A run keeps the rule just where it does not stop at a status above the five hundreds with
    calls left.** -/
theorem Ends.keepsRule_iff (h : plan.Ends replies last) (r : Request) :
    KeepsRule replies plan.budget (last + 1) ((replies last).outcome.ending r) ↔
      ¬ ((replies last).outcome.AboveRange ∧ last + 1 < plan.budget) := by
  constructor
  · rintro hrule ⟨above, more⟩
    have hspent := hrule.spent ((Outcome.temporary_ending r _).mpr above.temporary)
    omega
  · intro hstop
    refine ⟨fun htemporary => ?_, fun hother => ?_⟩
    · rw [Outcome.temporary_ending] at htemporary
      have hbelow := h.below
      by_cases above : (replies last).outcome.AboveRange
      · have hnone : ¬ last + 1 < plan.budget := fun more => hstop ⟨above, more⟩
        omega
      · have merits := (replies last).outcome.meritsRetry_iff.mpr ⟨htemporary, above⟩
        exact h.final.resolve_left fun hfinal => hfinal merits
    · rw [Outcome.temporary_ending] at hother
      exact ⟨last, h.leading hother, rfl⟩

/-- **The rule for further attempts.** For any settings, any transport and any request, the run of
    attempts keeps the rule unless it stops at a status above the five hundreds with attempts left.
    An outcome is followed by another attempt below the budget just where the rule takes it for
    temporary and it is no such status. -/
theorem retry_rule {σ : Type} (s : Settings) (t : Transport σ) (r : Request) (m : Moment σ) :
    let replies := t.replies r s.timeout m.state
    let budget := max 1 s.maxRetries.toNat
    let run := (ofSettings s).execute t r m
    let calls := (callsOf run.events).length
    (KeepsRule replies budget calls run.ending ↔ ¬ (run.ending.AboveRange ∧ calls < budget)) ∧
      1 ≤ calls ∧ calls ≤ budget ∧
      ∀ k, k + 1 < calls ↔ k + 1 < budget ∧
        ∀ j ≤ k, (replies j).outcome.Temporary ∧ ¬ (replies j).outcome.AboveRange := by
  intro replies budget run calls
  obtain ⟨last, hends, hrun⟩ := (ofSettings s).execute_eq t r m
  have hends : (ofSettings s).Ends replies last := hends
  have hbudget : (ofSettings s).budget = budget := budget_ofSettings s
  have hcalls : calls = last + 1 := by
    show (callsOf ((ofSettings s).execute t r m).events).length = last + 1
    rw [hrun, callsOf_eventsThrough, List.length_map, List.length_range]
  have hending : run.ending = (replies last).outcome.ending r := congrArg Execution.ending hrun
  have hbelow := hends.below
  refine ⟨?_, by omega, by omega, fun k => ⟨fun hmore => ⟨by omega, fun j hj => ?_⟩, ?_⟩⟩
  · rw [hcalls, hending, Outcome.aboveRange_ending, ← hbudget]
    exact hends.keepsRule_iff r
  · exact (Outcome.meritsRetry_iff _).mp (hends.retried j (by omega))
  · rintro ⟨hmore, hall⟩
    refine Nat.lt_of_not_le fun hle => ?_
    have merits := (Outcome.meritsRetry_iff _).mpr (hall last (by omega))
    rcases hends.final with hfinal | hfinal
    · exact hfinal merits
    · omega

/-- Three attempts are allowed, and the status 600 is from 500 on and not 501, but it is given one
    attempt. -/
theorem one_attempt_for_status_600 :
    let odd : Response := { status := { code := 600 }, url := "http://host/a" }
    let t := Script.transport ⟨fun _ _ => ⟨none, .answered odd⟩⟩
    let s : Settings := { maxRetries := 3 }
    let m : Moment Script.Served := ⟨0, .none⟩
    let replies := t.replies (.get "http://host/a") s.timeout m.state
    let run := (ofSettings s).execute t (.get "http://host/a") m
    run.ending = .settled (.ok odd) ∧ odd.status.Temporary ∧ (callsOf run.events).length = 1 ∧
      ¬ KeepsRule replies (max 1 s.maxRetries.toNat) (callsOf run.events).length run.ending := by
  intro odd t s m replies run
  have hending : run.ending = .settled (.ok odd) := by
    obtain ⟨last, -, hrun⟩ := (ofSettings s).execute_eq t (.get "http://host/a") m
    exact congrArg Execution.ending hrun
  have hcalls : (callsOf run.events).length = 1 := by decide +kernel
  have htemporary : odd.status.Temporary := .inr ⟨by decide, by decide⟩
  refine ⟨hending, htemporary, hcalls, fun hrule => ?_⟩
  have hspent := hrule.spent (by rw [hending]; exact htemporary)
  rw [hcalls] at hspent
  exact absurd hspent (by decide)

end RetryPlan

end Courier
