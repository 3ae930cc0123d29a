import Courier.Proofs.Changes
import Courier.Proofs.Execution
import Courier.Proofs.Group.Logs
import Courier.Proofs.Waits

/-!
# The longest wait

The longest wait between attempts is set as a span and stored in whole milliseconds, where 0 stands
for no bound. From a millisecond on, what is set is a bound indeed: for every run of attempts
through the agent, alone or in a group, whatever else is set afterwards (`Agent.capping`). A shorter
one is stored as no bound, be it zero or not (`Agent.no_cap_below_millisecond`). The time limit of a
request, which has 0 for no limit too, is stored as one millisecond there
(`Settings.toNat_storedLimit`).
-/

namespace Courier

/-! ## 1. Waits -/

/-- The waits of a member of a group are those of a run of attempts. -/
theorem Group.Follows.exists_waitAfter {plan : RetryPlan} {r : Request} {replies : Nat → Reply}
    {start : Nat} {phase : Phase} {es : List Event} (h : Follows plan r replies start phase es)
    {wait : Span} (hwait : wait ∈ waitsOf es) : ∃ k, plan.waitAfter k = wait := by
  have among : ∀ n, wait ∈ (List.range n).map plan.waitAfter → ∃ k, plan.waitAfter k = wait := by
    intro n hn
    obtain ⟨k, -, hk⟩ := List.mem_map.mp hn
    exact ⟨k, hk⟩
  cases h with
  | idle => cases hwait
  | queued => cases hwait
  | admitted => cases hwait
  | calling => exact among _ (plan.waitsOf_eventsThrough .. ▸ hwait)
  | resting => exact among _ (plan.waitsOf_eventsBefore .. ▸ hwait)
  | finished => exact among _ (plan.waitsOf_eventsThrough .. ▸ hwait)

/-- **Every wait in the log of a group is one of its plan.** -/
theorem Group.Reachable.exists_waitAfter {σ : Type} {plan : RetryPlan} {t : Transport σ}
    {requests : List Request} {k : Nat} {m : Moment σ} {s : State σ}
    (h : Reachable plan t (.start requests k m) s) {wait : Span}
    (hwait : wait ∈ waitsOf (s.events.map (·.2))) : ∃ k, plan.waitAfter k = wait := by
  obtain ⟨event, hevent, hwait⟩ := List.mem_filterMap.mp hwait
  obtain ⟨entry, hentry, rfl⟩ := List.mem_map.mp hevent
  have hlt := h.owner_lt entry hentry
  obtain ⟨phase, hmember⟩ := h.exists_member (List.getElem?_eq_getElem hlt)
  obtain ⟨replies, start, hfollows⟩ := h.follows entry.1 _ phase hmember
  refine hfollows.exists_waitAfter (List.mem_filterMap.mpr ⟨entry.2, ?_, hwait⟩)
  exact List.mem_map.mpr ⟨entry, List.mem_filter.mpr ⟨hentry, decide_eq_true rfl⟩, rfl⟩

/-- The waits of a run of attempts are those of its plan. -/
theorem RetryPlan.exists_waitAfter {σ : Type} {plan : RetryPlan} {t : Transport σ} {r : Request}
    {m : Moment σ} {wait : Span} (hwait : wait ∈ waitsOf (plan.execute t r m).events) :
    ∃ k, plan.waitAfter k = wait := by
  obtain ⟨last, -, hrun⟩ := plan.execute_eq t r m
  rw [hrun, waitsOf_eventsThrough] at hwait
  obtain ⟨k, -, hk⟩ := List.mem_map.mp hwait
  exact ⟨k, hk⟩

namespace Agent

open Settings

variable {σ : Type}

/-! ## 2. What is set for the longest wait -/

/-- Nothing that is set afterwards has a part in the cap, other than a cap or all settings. -/
theorem cap_changeAll (a : Agent σ) (w : Span) {later : List Change}
    (kept : ∀ c ∈ later, c.sets .maxBackoffMs = false) :
    ((a.change (.maxWaitTime w)).changeAll later).plan.backoff.cap =
      .ofMillis (storedMillis w) := by
  have hlast := lastSetter?_eq_none_iff.mpr kept
  have hkept : ((a.change (.maxWaitTime w)).settings.applyAll later).maxBackoffMs =
      storedMillis w := get_of_lastSetter?_eq_none hlast
  rw [changeAll_eq, ← hkept]
  rfl

/-- The waits of an agent after its longest wait is set: they are cut off at the whole milliseconds
    of what is set, and where there is none they are not cut off. -/
theorem toNanos_waitAfter (a : Agent σ) (w : Span) {later : List Change}
    (kept : ∀ c ∈ later, c.sets .maxBackoffMs = false) (k : Nat) :
    let plan := ((a.change (.maxWaitTime w)).changeAll later).plan
    let uncut := plan.backoff.initial.times (Backoff.factor (UInt32.ofNat k))
    (plan.waitAfter k).toNanos =
      if w.toNanos < 1000000 then uncut.toNanos
      else min uncut.toNanos (wholeMillis w * 1000000) := by
  intro plan uncut
  have hcap : plan.backoff.cap.toNanos = wholeMillis w * 1000000 := by
    rw [cap_changeAll a w kept, Span.toNanos_ofMillis, toNat_storedMillis]
  have hnone : wholeMillis w * 1000000 = 0 ↔ w.toNanos < 1000000 := by
    unfold wholeMillis
    omega
  rw [RetryPlan.waitAfter, Backoff.toNanos_delay, hcap]
  simp only [hnone]
  rfl

/-- Waits that are no longer than a span, nor is a timer that is set to one of them. -/
def NoLonger (w : Span) (waits : List Span) : Prop :=
  ∀ wait ∈ waits, wait.toNanos ≤ w.toNanos ∧ wait.restMillis * 1000000 ≤ w.toNanos

/-- **Capping.** For any agent whose longest wait is set, and any later steps that set neither it
    nor all settings: where what is set is a millisecond at least, it bounds the waits of every run
    of attempts, and of every group however the steps of its members interleave. Below a millisecond
    there is no bound, and from there on the bound is what is set, in whole milliseconds. -/
theorem capping (a : Agent σ) (w : Span) (later : List Change)
    (kept : ∀ c ∈ later, c.sets .maxBackoffMs = false) :
    let b := (a.change (.maxWaitTime w)).changeAll later
    (1000000 ≤ w.toNanos →
      (∀ r m, NoLonger w (waitsOf (b.plan.execute b.transport r m).events)) ∧
      ∀ requests k m s, Group.Reachable b.plan b.transport (.start requests k m) s →
        NoLonger w (waitsOf (s.events.map (·.2)))) ∧
    ∀ k, let uncut := b.plan.backoff.initial.times (Backoff.factor (UInt32.ofNat k))
      (b.plan.waitAfter k).toNanos =
        if w.toNanos < 1000000 then uncut.toNanos
        else min uncut.toNanos (wholeMillis w * 1000000) := by
  intro b
  have hwaits := toNanos_waitAfter a w kept
  refine ⟨fun enough => ?_, hwaits⟩
  have short : ∀ wait, (∃ k, b.plan.waitAfter k = wait) →
      wait.toNanos ≤ w.toNanos ∧ wait.restMillis * 1000000 ≤ w.toNanos := by
    rintro wait ⟨k, rfl⟩
    have hwhole : wholeMillis w * 1000000 ≤ w.toNanos := by
      unfold wholeMillis
      omega
    have hcut : (b.plan.waitAfter k).toNanos ≤ wholeMillis w * 1000000 := by
      rw [hwaits k, if_neg (Nat.not_lt.mpr enough)]
      exact Nat.min_le_right _ _
    have hrest := Span.restMillis_le hcut
    omega
  exact ⟨fun r m wait hwait => short wait (RetryPlan.exists_waitAfter hwait),
    fun requests k m s h wait hwait => short wait (h.exists_waitAfter hwait)⟩

/-- With a cap of one and a half milliseconds the first wait of two seconds is one millisecond. -/
theorem capping_above_millisecond :
    let t := Script.transport (.ofTable [("http://a/",
      [⟨none, .answered { status := { code := 503 }, url := "http://a/" }⟩])])
    let w : Span := { seconds := 0, nanos := 1500000 }
    let later : List Change := [.retries 2, .waitTime { seconds := 2, nanos := 0 }]
    let b : Agent Script.Served := (change ⟨{}, t⟩ (.maxWaitTime w)).changeAll later
    let waits := waitsOf (b.plan.execute b.transport (.get "http://a/") ⟨0, .none⟩).events
    (∀ c ∈ later, c.sets .maxBackoffMs = false) ∧ waits = [.ofMillis 1] ∧ NoLonger w waits := by
  intro t w later b waits
  have kept : ∀ c ∈ later, c.sets .maxBackoffMs = false := by decide
  have hcapping := capping ⟨{}, t⟩ w later kept
  exact ⟨kept, by decide +kernel, (hcapping.1 (by decide)).1 _ _⟩

/-- A cap of half a millisecond, which is not zero, leaves the wait of two seconds as it is. -/
theorem no_cap_below_millisecond :
    let t := Script.transport (.ofTable [("http://host/a",
      [⟨none, .answered { status := { code := 503 }, url := "http://host/a" }⟩])])
    let w : Span := { seconds := 0, nanos := 500000 }
    let b : Agent Script.Served := (change ⟨{}, t⟩ (.retries 2)).change (.maxWaitTime w)
    let run := b.plan.execute b.transport (.get "http://host/a") ⟨0, .none⟩
    w ≠ .zero ∧ b.settings.maxBackoffMs = 0 ∧ waitsOf run.events = [.ofMillis 2000] ∧
      ¬ ∀ wait ∈ waitsOf run.events, wait.toNanos ≤ max w.toNanos 1000000 := by
  intro t w b run
  have hwaits : waitsOf run.events = [.ofMillis 2000] := by decide +kernel
  refine ⟨by decide, by decide, hwaits, fun h => ?_⟩
  rw [hwaits] at h
  exact absurd (h _ (List.mem_singleton_self _)) (by decide)

end Agent

end Courier
