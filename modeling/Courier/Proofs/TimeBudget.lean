import Courier.Proofs.Execution
import Courier.Proofs.Waits
import Mathlib.Algebra.BigOperators.Ring.List
import Mathlib.Algebra.Group.Action.Defs
import Mathlib.Algebra.Order.BigOperators.Group.List
import Mathlib.Algebra.Order.Ring.Nat

/-!
# How long a retried request takes

A run of attempts takes as long as its calls take and as the timers between them rest
(`RetryPlan.now_execute`). What the timers are set to is known before the run, from the number of
attempts alone: the waits double from one attempt to the next until they stay the same, at the cap
or at the one after attempt 31. `sum_doubled` sums up both kinds, and `time_budget` has the closed
forms.
-/

namespace Courier

/-- **Doubling for a while, and then the same.** -/
theorem sum_doubled (first last j m : Nat) :
    ((List.range m).map fun k => if k < j then first * 2 ^ k else last).sum =
      first * (2 ^ min m j - 1) + (m - min m j) * last := by
  induction m with
  | zero => simp
  | succ m ih =>
    rw [List.range_succ, List.map_append, List.sum_append, ih, List.map_singleton,
      List.sum_singleton]
    by_cases hm : m < j
    · have hpow : 2 ^ (m + 1) - 1 = (2 ^ m - 1) + 2 ^ m := by
        have := Nat.two_pow_pos m
        omega
      rw [if_pos hm, Nat.min_eq_left (Nat.le_of_lt hm), Nat.min_eq_left hm, Nat.sub_self,
        Nat.sub_self, hpow, Nat.mul_add]
      omega
    · have hle : j ≤ m := Nat.not_lt.mp hm
      rw [if_neg hm, Nat.min_eq_right hle, Nat.min_eq_right (Nat.le_succ_of_le hle),
        Nat.succ_sub hle, Nat.succ_mul, Nat.add_assoc]

namespace RetryPlan

/-! ## 1. The clock -/

theorem offset_eq_sum (plan : RetryPlan) (replies : Nat → Reply) (k : Nat) :
    plan.offset replies k =
      ((List.range k).map fun j => (replies j).latency).sum +
        ((List.range k).map fun j => (plan.waitAfter j).restMillis).sum := by
  induction k with
  | zero => rfl
  | succ k ih =>
    rw [offset, ih, List.range_succ, List.map_append, List.map_append, List.sum_append,
      List.sum_append, List.map_singleton, List.map_singleton, List.sum_singleton,
      List.sum_singleton]
    omega

/-- **A run takes as long as its calls take and its timers rest.** -/
theorem now_execute {σ : Type} (plan : RetryPlan) (t : Transport σ) (r : Request) (m : Moment σ) :
    let run := plan.execute t r m
    let replies := t.replies r plan.timeout m.state
    let n := (callsOf run.events).length
    0 < n ∧ n ≤ plan.budget ∧ waitsOf run.events = (List.range (n - 1)).map plan.waitAfter ∧
      run.moment.now =
        m.now + ((List.range n).map fun k => (replies k).latency).sum +
          ((waitsOf run.events).map Span.restMillis).sum := by
  intro run replies n
  obtain ⟨last, hends, hrun⟩ := plan.execute_eq t r m
  have hrun : run = _ := hrun
  have hn : n = last + 1 := by
    show (callsOf run.events).length = _
    rw [hrun, callsOf_eventsThrough, List.length_map, List.length_range]
  have hwaits : waitsOf run.events = (List.range last).map plan.waitAfter := by
    rw [hrun]
    exact plan.waitsOf_eventsThrough r replies m.now last
  refine ⟨by omega, hn ▸ hends.below, by rw [hwaits, hn]; rfl, ?_⟩
  have hnow : run.moment.now = m.now + plan.offset replies last + (replies last).latency := by
    rw [hrun]
  rw [hnow, hwaits, hn, offset_eq_sum, List.range_succ, List.map_append, List.sum_append,
    List.map_singleton, List.sum_singleton, List.map_map]
  show _ = _ + ((List.range last).map fun j => (plan.waitAfter j).restMillis).sum
  omega

/-! ## 2. What the timers are set to -/

variable {s : Settings} {j k m : Nat}

/-- The length of a wait that settings ask for. -/
theorem toNanos_waitAfter_ofSettings (s : Settings) (hk : k < 2 ^ 32) :
    ((ofSettings s).waitAfter k).toNanos =
      min (s.retryBackoffMs.toNat * 2 ^ min k 31 * 1000000) (backoffOf s).limit := by
  have hword : (UInt32.ofNat k).toNat = k := UInt32.toNat_ofNat_of_lt' hk
  rw [waitAfter, Backoff.toNanos_delay_eq, hword, Backoff.doubled]
  show min ((Span.ofMillis s.retryBackoffMs).toNanos * _) _ = _
  rw [Span.toNanos_ofMillis, Nat.mul_right_comm]
  rfl

theorem limit_backoffOf_of_cap (h : 0 < s.maxBackoffMs.toNat) :
    (backoffOf s).limit = s.maxBackoffMs.toNat * 1000000 := by
  have hcap : (backoffOf s).cap.toNanos = s.maxBackoffMs.toNat * 1000000 :=
    Span.toNanos_ofMillis _
  have hlongest := Span.toNanos_le_longest (backoffOf s).cap
  rw [hcap] at hlongest
  rw [Backoff.limit, hcap, if_neg (by omega), Nat.min_eq_right hlongest]

theorem limit_backoffOf_of_no_cap (h : s.maxBackoffMs.toNat = 0) :
    (backoffOf s).limit = Span.longest.toNanos := by
  have hcap : (backoffOf s).cap.toNanos = s.maxBackoffMs.toNat * 1000000 :=
    Span.toNanos_ofMillis _
  rw [Backoff.limit, hcap, h, Nat.zero_mul, if_pos rfl]

/-- A wait that a timer can rest for is one of whole milliseconds, and the timer rests for just as
    long. -/
theorem restMillis_waitAfter (hk : k < 2 ^ 32)
    (hle : ((ofSettings s).waitAfter k).toNanos ≤ Span.longestRest * 1000000) :
    ((ofSettings s).waitAfter k).restMillis * 1000000 = ((ofSettings s).waitAfter k).toNanos := by
  have hwait := toNanos_waitAfter_ofSettings s hk
  generalize (ofSettings s).waitAfter k = wait at hle hwait
  -- of all that a wait can be only the longest span has a part of a millisecond, and no timer
  -- rests that long
  obtain ⟨ms, hms⟩ : ∃ ms, wait.toNanos = ms * 1000000 := by
    generalize s.retryBackoffMs.toNat * 2 ^ min k 31 = uncut at hwait
    rcases Nat.eq_zero_or_pos s.maxBackoffMs.toNat with hcap | hcap
    · rw [limit_backoffOf_of_no_cap hcap, Span.toNanos_longest] at hwait
      rw [Span.longestRest] at hle
      exact ⟨uncut, by omega⟩
    · rw [limit_backoffOf_of_cap hcap] at hwait
      exact ⟨min uncut s.maxBackoffMs.toNat, by omega⟩
  rw [hms] at hle
  have hceil : wait.ceilMillis = ms := by
    rw [Span.ceilMillis, hms]
    omega
  rw [Span.restMillis_of_le (by omega), hceil, hms]

/-- Where the cap is reached after doubling `j` times, waits are cut off from there on. -/
theorem toNanos_waitAfter_of_cap (hcap : 0 < s.maxBackoffMs.toNat) (hj : j ≤ 31)
    (reached : s.maxBackoffMs.toNat ≤ s.retryBackoffMs.toNat * 2 ^ j)
    (before : ∀ i < j, s.retryBackoffMs.toNat * 2 ^ i < s.maxBackoffMs.toNat) (hk : k < 2 ^ 32) :
    ((ofSettings s).waitAfter k).toNanos =
      (if k < j then s.retryBackoffMs.toNat * 2 ^ k else s.maxBackoffMs.toNat) * 1000000 := by
  rw [toNanos_waitAfter_ofSettings s hk, limit_backoffOf_of_cap hcap]
  by_cases hkj : k < j
  · have hbelow := before k hkj
    rw [if_pos hkj, Nat.min_eq_left (by omega : k ≤ 31), Nat.min_eq_left]
    exact Nat.mul_le_mul_right _ (Nat.le_of_lt hbelow)
  · have hpow : 2 ^ j ≤ 2 ^ min k 31 := Nat.pow_le_pow_right Nat.two_pos (by omega)
    have habove := Nat.le_trans reached (Nat.mul_le_mul_left _ hpow)
    rw [if_neg hkj, Nat.min_eq_right]
    exact Nat.mul_le_mul_right _ habove

/-- Where there is no cap, and the longest of `m` waits is not cut off either, all of them double up
    to the one after attempt 31. -/
theorem toNanos_waitAfter_of_no_cap (hcap : s.maxBackoffMs.toNat = 0)
    (fits : s.retryBackoffMs.toNat * 2 ^ min (m - 1) 31 * 1000000 ≤ Span.longest.toNanos)
    (hk : k < m) (hlt : k < 2 ^ 32) :
    ((ofSettings s).waitAfter k).toNanos =
      (if k < 32 then s.retryBackoffMs.toNat * 2 ^ k else s.retryBackoffMs.toNat * 2 ^ 31) *
        1000000 := by
  have hpow : 2 ^ min k 31 ≤ 2 ^ min (m - 1) 31 := Nat.pow_le_pow_right Nat.two_pos (by omega)
  have huncut := Nat.mul_le_mul_right 1000000
    (Nat.mul_le_mul_left s.retryBackoffMs.toNat hpow)
  rw [toNanos_waitAfter_ofSettings s hlt, limit_backoffOf_of_no_cap hcap,
    Nat.min_eq_left (Nat.le_trans huncut fits)]
  split
  · rw [Nat.min_eq_left (by omega : k ≤ 31)]
  · rw [Nat.min_eq_right (by omega : 31 ≤ k)]

theorem sum_waitAfter {plan : RetryPlan} {first last : Nat}
    (h : ∀ k < m, (plan.waitAfter k).toNanos =
      (if k < j then first * 2 ^ k else last) * 1000000) :
    ((List.range m).map fun k => (plan.waitAfter k).toNanos).sum =
      (first * (2 ^ min m j - 1) + (m - min m j) * last) * 1000000 := by
  rw [← sum_doubled, ← List.sum_map_mul_right]
  exact congrArg List.sum (List.map_congr_left fun k hk => h k (List.mem_range.mp hk))

/-! ## 3. The budget -/

/-- What `sleeps` waits come to when they are `slept` nanoseconds together. -/
structure TimeBudget (s : Settings) (sleeps slept : Nat) : Prop where
  /-- With a cap, no more than so many times the cap. -/
  capped : 0 < s.maxBackoffMs.toNat → slept ≤ sleeps * s.maxBackoffMs.toNat * 1000000
  /-- With a cap that is reached after doubling `j` times and not before: the waits double so often,
      and those left are as long as the cap. -/
  reached : ∀ j ≤ 31, 0 < s.maxBackoffMs.toNat →
    s.maxBackoffMs.toNat ≤ s.retryBackoffMs.toNat * 2 ^ j →
    (∀ i < j, s.retryBackoffMs.toNat * 2 ^ i < s.maxBackoffMs.toNat) →
    slept = (s.retryBackoffMs.toNat * (2 ^ min sleeps j - 1) +
      (sleeps - min sleeps j) * s.maxBackoffMs.toNat) * 1000000
  /-- Without a cap, and with no wait longer than a span can be: the waits double up to the one
      after attempt 31, and those left are as long as that. -/
  uncapped : s.maxBackoffMs.toNat = 0 → 1 ≤ sleeps →
    s.retryBackoffMs.toNat * 2 ^ min (sleeps - 1) 31 * 1000000 ≤ Span.longest.toNanos →
    slept =
      (if sleeps ≤ 32 then s.retryBackoffMs.toNat * (2 ^ sleeps - 1)
        else s.retryBackoffMs.toNat * (2 ^ 32 - 1) +
          (sleeps - 32) * (s.retryBackoffMs.toNat * 2 ^ 31)) * 1000000

theorem timeBudget_of_waits (s : Settings) {sleeps : Nat} (hlt : sleeps < 2 ^ 32) :
    TimeBudget s sleeps
      ((List.range sleeps).map fun k => ((ofSettings s).waitAfter k).toNanos).sum where
  capped hcap := by
    have hle : ∀ wait ∈ (List.range sleeps).map fun k => ((ofSettings s).waitAfter k).toNanos,
        wait ≤ s.maxBackoffMs.toNat * 1000000 := by
      intro wait hwait
      obtain ⟨k, hk, rfl⟩ := List.mem_map.mp hwait
      rw [toNanos_waitAfter_ofSettings s (Nat.lt_trans (List.mem_range.mp hk) hlt),
        limit_backoffOf_of_cap hcap]
      exact Nat.min_le_right _ _
    have hsum := List.sum_le_card_nsmul _ _ hle
    rw [List.length_map, List.length_range, smul_eq_mul, ← Nat.mul_assoc] at hsum
    exact hsum
  reached j hj hcap hreached hbefore :=
    sum_waitAfter fun k hk =>
      toNanos_waitAfter_of_cap hcap hj hreached hbefore (Nat.lt_trans hk hlt)
  uncapped hcap _ hfits := by
    rw [sum_waitAfter fun k hk =>
      toNanos_waitAfter_of_no_cap hcap hfits hk (Nat.lt_trans hk hlt)]
    split
    · rename_i hle
      rw [Nat.min_eq_left hle, Nat.sub_self, Nat.zero_mul, Nat.add_zero]
    · rename_i hgt
      rw [Nat.min_eq_right (by omega : 32 ≤ sleeps)]

/-- **The time a request takes.** For any settings, any transport and any request: a run of so many
    attempts sleeps once between two of them, and takes as long as its calls take and its sleeps are
    long together, provided that timers rest as long as they are set to, which they do up to the
    longest time that a timer takes. How long the sleeps are together follows from their number. -/
theorem time_budget {σ : Type} (s : Settings) (t : Transport σ) (r : Request) (m : Moment σ) :
    let run := (ofSettings s).execute t r m
    let replies := t.replies r s.timeout m.state
    let attempts := (callsOf run.events).length
    let waits := waitsOf run.events
    let latencies := ((List.range attempts).map fun k => (replies k).latency).sum
    let slept := (waits.map Span.toNanos).sum
    0 < attempts ∧ waits.length = attempts - 1 ∧
      ((∀ wait ∈ waits, wait.toNanos ≤ Span.longestRest * 1000000) →
        ∀ wait ∈ waits, wait.restMillis * 1000000 = wait.toNanos) ∧
      ((∀ wait ∈ waits, wait.restMillis * 1000000 = wait.toNanos) →
        run.moment.now * 1000000 = (m.now + latencies) * 1000000 + slept) ∧
      TimeBudget s (attempts - 1) slept := by
  intro run replies attempts waits latencies slept
  obtain ⟨hpos, hbudget, hwaits, hnow⟩ := (ofSettings s).now_execute t r m
  have hwaits : waits = (List.range (attempts - 1)).map (ofSettings s).waitAfter := hwaits
  -- a wait is told by its number as a word, which is no other than the number itself
  have hlt : attempts - 1 < 2 ^ 32 :=
    Nat.lt_of_le_of_lt (Nat.le_trans (Nat.sub_le _ _) hbudget) (UInt32.toNat_lt _)
  refine ⟨hpos, by rw [hwaits, List.length_map, List.length_range], ?_, ?_, ?_⟩
  · intro short wait hwait
    have hshort := short wait hwait
    rw [hwaits] at hwait
    obtain ⟨k, hk, rfl⟩ := List.mem_map.mp hwait
    exact restMillis_waitAfter (Nat.lt_trans (List.mem_range.mp hk) hlt) hshort
  · intro exactly
    have hslept : (waits.map Span.restMillis).sum * 1000000 = slept := by
      rw [← List.sum_map_mul_right]
      exact congrArg List.sum (List.map_congr_left exactly)
    have hnow : run.moment.now = m.now + latencies + (waits.map Span.restMillis).sum := hnow
    rw [hnow, Nat.add_mul, hslept]
  · have hslept : slept =
        ((List.range (attempts - 1)).map fun k => ((ofSettings s).waitAfter k).toNanos).sum := by
      show (waits.map Span.toNanos).sum = _
      rw [hwaits, List.map_map]
      rfl
    rw [hslept]
    exact timeBudget_of_waits s hlt

/-- Five attempts with a cap that is reached after doubling twice, and 34 attempts without a cap. -/
theorem time_budget_of_five_and_34 :
    let busy (url : String) : Reply :=
      ⟨some 10, .answered { status := { code := 503 }, url := url }⟩
    let t (n : Nat) := Script.transport ⟨fun url k => if k < n then busy url else Script.echo url⟩
    let run (s : Settings) (n : Nat) :=
      (ofSettings s).execute (t n) (.get "http://a/") ⟨0, Script.Served.none⟩
    let capped : Settings := { maxRetries := 9, retryBackoffMs := 100, maxBackoffMs := 250 }
    let uncapped : Settings := { maxRetries := 40, retryBackoffMs := 1, maxBackoffMs := 0 }
    (callsOf (run capped 4).events).length = 5 ∧
      (run capped 4).moment.now = 40 + (100 * (2 ^ 2 - 1) + (4 - 2) * 250) ∧
      (callsOf (run uncapped 33).events).length = 34 ∧
      (run uncapped 33).moment.now = 330 + (1 * (2 ^ 32 - 1) + (33 - 32) * (1 * 2 ^ 31)) := by
  intro busy t run capped uncapped
  have hfive : (callsOf (run capped 4).events).length = 5 := by decide +kernel
  have hmany : (callsOf (run uncapped 33).events).length = 34 := by decide +kernel
  obtain ⟨-, -, hexact, hnow, hbudget⟩ :=
    time_budget capped (t 4) (.get "http://a/") ⟨0, Script.Served.none⟩
  obtain ⟨-, -, hexact', hnow', hbudget'⟩ :=
    time_budget uncapped (t 33) (.get "http://a/") ⟨0, Script.Served.none⟩
  have hslept := hbudget.reached 2 (by decide) (by decide) (by decide) (by decide)
  have hslept' := hbudget'.uncapped (by decide) (hmany.symm ▸ by decide) (hmany.symm ▸ by decide)
  have hclock := hnow (hexact (by decide +kernel))
  have hclock' := hnow' (hexact' (by decide +kernel))
  have hlatencies : ((List.range 5).map fun k =>
      ((t 4).replies (.get "http://a/") capped.timeout Script.Served.none k).latency).sum = 40 := by
    decide +kernel
  have hlatencies' : ((List.range 34).map fun k =>
      ((t 33).replies (.get "http://a/") uncapped.timeout Script.Served.none k).latency).sum =
        330 := by
    decide +kernel
  rw [hslept, hfive, hlatencies, ← Nat.add_mul] at hclock
  rw [hslept', hmany, if_neg (by decide), hlatencies', ← Nat.add_mul] at hclock'
  exact ⟨hfive, Nat.mul_right_cancel (by decide : 0 < 1000000) hclock, hmany,
    Nat.mul_right_cancel (by decide : 0 < 1000000) hclock'⟩

end RetryPlan

end Courier
