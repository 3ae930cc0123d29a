import Courier.Backoff
import Mathlib.Algebra.Group.Nat.Defs

/-!
# The exact length of a wait

The wait after an attempt is worked out in words: whole seconds, nanoseconds below one second, a
factor of 32 bits. It is the exact one all the same (`Backoff.exact_delay`): the first wait doubled
once for each attempt before, up to `Backoff.limit`. Only the exponent is held at 31, and that shows
just where the wait after attempt 31 is still below the limit and not zero
(`doubled_eq_iff`).
-/

namespace Courier

namespace Span

/-- The words of a span are the quotient and the remainder of its length. -/
theorem words_eq (d : Span) :
    d.seconds.toNat = d.toNanos / 1000000000 ∧ d.nanos.toNat = d.toNanos % 1000000000 := by
  have h := d.nanos_lt
  rw [toNanos]
  omega

/-- A wait up to so many milliseconds makes a timer rest no longer than that. -/
theorem restMillis_le {d : Span} {ms : Nat} (h : d.toNanos ≤ ms * 1000000) :
    d.restMillis ≤ ms := by
  refine Nat.le_trans (Nat.min_le_left _ _) ?_
  unfold ceilMillis
  omega

end Span

namespace Backoff

variable (b : Backoff)

/-! ## 1. The factor and the limit -/

/-- The factor of a wait is a power of two, whose exponent is 31 at most. -/
theorem toNat_factor (a : UInt32) : (factor a).toNat = 2 ^ min a.toNat 31 := by
  have hexp : (if a < 31 then a else 31).toNat = min a.toNat 31 := by
    have hlt : a < 31 ↔ a.toNat < 31 := UInt32.lt_iff_toNat_lt
    split
    · rename_i h
      rw [hlt] at h
      exact (Nat.min_eq_left (Nat.le_of_lt h)).symm
    · rename_i h
      rw [hlt] at h
      exact (Nat.min_eq_right (Nat.not_lt.mp h)).symm
  have hpow : 2 ^ min a.toNat 31 < 2 ^ 32 :=
    Nat.pow_lt_pow_right Nat.one_lt_two (by omega)
  rw [factor, UInt32.toNat_shiftLeft, hexp, Nat.mod_eq_of_lt (by omega : min a.toNat 31 < 32),
    Nat.shiftLeft_eq, UInt32.toNat_one, Nat.one_mul]
  exact Nat.mod_eq_of_lt hpow

/-- The length of the longest wait that there may be, in nanoseconds: that of the longest span, or
    the cap unless it is no time at all. -/
def limit : Nat :=
  if b.cap.toNanos = 0 then Span.longest.toNanos else min Span.longest.toNanos b.cap.toNanos

theorem limit_pos : 0 < b.limit := by
  unfold limit
  rw [Span.toNanos_longest]
  split <;> omega

/-- The length of the first wait doubled `k` times, in nanoseconds. -/
def doubled (k : Nat) : Nat := b.initial.toNanos * 2 ^ k

theorem doubled_mono {j k : Nat} (h : j ≤ k) : b.doubled j ≤ b.doubled k :=
  Nat.mul_le_mul_left _ (Nat.pow_le_pow_right Nat.two_pos h)

theorem doubled_eq_zero_iff (k : Nat) : b.doubled k = 0 ↔ b.initial.toNanos = 0 := by
  rw [doubled, Nat.mul_eq_zero]
  have hpow : 2 ^ k ≠ 0 := Nat.ne_of_gt (Nat.two_pow_pos k)
  exact or_iff_left hpow

theorem doubled_lt {j k : Nat} (h : j < k) (pos : b.initial.toNanos ≠ 0) :
    b.doubled j < b.doubled k :=
  Nat.mul_lt_mul_of_pos_left (Nat.pow_lt_pow_right Nat.one_lt_two h) (Nat.pos_of_ne_zero pos)

/-! ## 2. The wait -/

/-- The wait after an attempt is the first wait times a factor, up to the cap if there is one. -/
theorem toNanos_delay (a : UInt32) :
    (b.delay a).toNanos =
      if b.cap.toNanos = 0 then (b.initial.times (factor a)).toNanos
      else min (b.initial.times (factor a)).toNanos b.cap.toNanos := by
  unfold delay
  by_cases hzero : b.cap.toNanos = 0
  · rw [if_pos hzero, if_pos ((Span.isZero_iff _).mpr hzero)]
  · rw [if_neg hzero, if_neg (mt (Span.isZero_iff _).mp hzero), Span.toNanos_shorter]

/-- **The wait after attempt `a` is the first wait doubled `a` times, or 31 times where that is
    less, up to the limit.** -/
theorem toNanos_delay_eq (a : UInt32) :
    (b.delay a).toNanos = min (b.doubled (min a.toNat 31)) b.limit := by
  rw [toNanos_delay, Span.toNanos_times, toNat_factor, limit, doubled]
  split
  · rfl
  · exact Nat.min_assoc _ _ _

/-- Waits do not get shorter from attempt to attempt. -/
theorem delay_mono {a later : UInt32} (h : a ≤ later) :
    (b.delay a).toNanos ≤ (b.delay later).toNanos := by
  have hle : a.toNat ≤ later.toNat := UInt32.le_iff_toNat_le.mp h
  have hdoubled := b.doubled_mono (j := min a.toNat 31) (k := min later.toNat 31) (by omega)
  rw [toNanos_delay_eq, toNanos_delay_eq]
  omega

theorem delay_eq_zero_iff (a : UInt32) : (b.delay a).toNanos = 0 ↔ b.initial.toNanos = 0 := by
  have hpos := b.limit_pos
  rw [toNanos_delay_eq, ← b.doubled_eq_zero_iff (min a.toNat 31)]
  omega

/-- Holding the exponent at 31 does not show just up to attempt 31, or where the first wait is no
    time at all, or where the limit is reached by then. -/
theorem doubled_eq_iff (k : Nat) :
    min (b.doubled (min k 31)) b.limit = min (b.doubled k) b.limit ↔
      k ≤ 31 ∨ b.initial.toNanos = 0 ∨ b.limit ≤ b.doubled 31 := by
  by_cases hk : k ≤ 31
  · rw [Nat.min_eq_left hk]
    exact ⟨fun _ => .inl hk, fun _ => rfl⟩
  · have hlt : 31 < k := Nat.not_le.mp hk
    rw [Nat.min_eq_right (Nat.le_of_lt hlt)]
    by_cases hzero : b.initial.toNanos = 0
    · rw [(b.doubled_eq_zero_iff 31).mpr hzero, (b.doubled_eq_zero_iff k).mpr hzero]
      exact ⟨fun _ => .inr (.inl hzero), fun _ => rfl⟩
    · have hgrows := b.doubled_lt hlt hzero
      omega

/-- **The exact wait.** For any first wait, any cap and any attempt: the wait after it is the first
    wait times a power of two, exactly, up to the longest span and the cap; its words are those of
    that number. It does not get shorter from attempt to attempt, and is no time at all just where
    the first wait is. Doubling it once for each attempt without end gives the same up to attempt
    31, and afterwards just where the first wait is no time at all or the limit is reached. -/
theorem exact_delay (b : Backoff) (a : UInt32) :
    let exact := min (b.initial.toNanos * 2 ^ min a.toNat 31) b.limit
    (b.delay a).toNanos = exact ∧
      (b.delay a).seconds.toNat = exact / 1000000000 ∧
      (b.delay a).nanos.toNat = exact % 1000000000 ∧
      (∀ later, a ≤ later → (b.delay a).toNanos ≤ (b.delay later).toNanos) ∧
      ((b.delay a).toNanos = 0 ↔ b.initial.toNanos = 0) ∧
      ((b.delay a).toNanos = min (b.initial.toNanos * 2 ^ a.toNat) b.limit ↔
        a.toNat ≤ 31 ∨ b.initial.toNanos = 0 ∨ b.limit ≤ b.initial.toNanos * 2 ^ 31) := by
  intro exact
  have hexact : (b.delay a).toNanos = exact := b.toNanos_delay_eq a
  obtain ⟨hseconds, hnanos⟩ := (b.delay a).words_eq
  rw [hexact] at hseconds hnanos
  refine ⟨hexact, hseconds, hnanos, fun later h => b.delay_mono h, b.delay_eq_zero_iff a, ?_⟩
  rw [hexact]
  exact b.doubled_eq_iff a.toNat

end Backoff

end Courier
