import Courier.Decimal

/-!
# Spans of time

A span is a number of whole seconds and of nanoseconds below one second, in words of 64 and 32
bits. The longest span has all its bits set in the seconds and 999999999 nanoseconds; products that
would be longer stop there. `toNanos` reads a span as one exact number.
-/

namespace Courier

/-- A length of time, to the nanosecond. -/
structure Span where
  /-- The whole seconds. -/
  seconds : UInt64
  /-- The nanoseconds beyond them. -/
  nanos : UInt32
  /-- They do not fill another second. -/
  nanos_lt : nanos.toNat < 1000000000 := by decide
  deriving DecidableEq, Repr

namespace Span

/-! ## 1. The exact view -/

/-- The length in nanoseconds. -/
def toNanos (d : Span) : Nat := d.seconds.toNat * 1000000000 + d.nanos.toNat

/-- The whole milliseconds in a span. -/
def toMillis (d : Span) : Nat := d.toNanos / 1000000

/-- The least number of milliseconds that is not shorter: a timer that ticks once a millisecond
    never rings early. -/
def ceilMillis (d : Span) : Nat := (d.toNanos + 999999) / 1000000

/-- The longest that a timer rests, in milliseconds: thirty years of 365 days. -/
def longestRest : Nat := 946080000000

/-- The milliseconds that a timer set to a span rests. -/
def restMillis (d : Span) : Nat := min d.ceilMillis longestRest

/-- A span that a timer can rest for is kept to the millisecond. -/
theorem restMillis_of_le {d : Span} (h : d.ceilMillis ≤ longestRest) :
    d.restMillis = d.ceilMillis := Nat.min_eq_left h

/-- A span is told by its length. -/
theorem toNanos_inj {a b : Span} (h : a.toNanos = b.toNanos) : a = b := by
  obtain ⟨s, n, hn⟩ := a
  obtain ⟨s', n', hn'⟩ := b
  simp only [toNanos] at h
  have hs : s = s' := UInt64.toNat_inj.mp (by omega)
  have hnn : n = n' := UInt32.toNat_inj.mp (by omega)
  subst hs hnn
  rfl

/-! ## 2. Making spans -/

/-- No time at all. -/
def zero : Span := { seconds := 0, nanos := 0 }

/-- The longest span. -/
def longest : Span := { seconds := 18446744073709551615, nanos := 999999999 }

theorem toNanos_longest : longest.toNanos = 18446744073709551615999999999 := by
  simp [toNanos, longest]

/-- No span is longer than the longest. -/
theorem toNanos_le_longest (d : Span) : d.toNanos ≤ longest.toNanos := by
  have h1 : d.seconds.toNat < 2 ^ 64 := d.seconds.toNat_lt
  have h2 := d.nanos_lt
  rw [toNanos_longest, toNanos]
  omega

/-- A span of whole milliseconds. -/
def ofMillis (ms : UInt64) : Span where
  seconds := ms / 1000
  nanos := UInt32.ofNat ((ms.toNat % 1000) * 1000000)
  nanos_lt := by
    have h : ms.toNat % 1000 < 1000 := Nat.mod_lt _ (by decide)
    rw [UInt32.toNat_ofNat']
    have : ms.toNat % 1000 * 1000000 % 2 ^ 32 ≤ ms.toNat % 1000 * 1000000 := Nat.mod_le _ _
    omega

@[simp] theorem toNanos_ofMillis (ms : UInt64) : (ofMillis ms).toNanos = ms.toNat * 1000000 := by
  have h : ms.toNat % 1000 < 1000 := Nat.mod_lt _ (by decide)
  have h1 : (ofMillis ms).seconds.toNat = ms.toNat / 1000 := by
    simp only [ofMillis, UInt64.toNat_div]
    rfl
  have h2 : (ofMillis ms).nanos.toNat = ms.toNat % 1000 * 1000000 := by
    simp only [ofMillis, UInt32.toNat_ofNat']
    exact Nat.mod_eq_of_lt (by omega)
  rw [toNanos, h1, h2]
  omega

/-- Whether a span is no time at all. -/
def isZero (d : Span) : Bool := d.seconds == 0 && d.nanos == 0

theorem isZero_iff (d : Span) : d.isZero = true ↔ d.toNanos = 0 := by
  rw [isZero, Bool.and_eq_true, beq_iff_eq, beq_iff_eq, ← UInt64.toNat_inj, ← UInt32.toNat_inj]
  simp only [toNanos, UInt64.toNat_zero, UInt32.toNat_zero]
  omega

/-! ## 3. Arithmetic in words -/

/-- The product of two words, unless it needs more than a word. -/
def mulWords? (a b : UInt64) : Option UInt64 :=
  if a.toNat * b.toNat < 18446744073709551616 then some (a * b) else none

/-- The sum of two words, unless it needs more than a word. -/
def addWords? (a b : UInt64) : Option UInt64 :=
  if a.toNat + b.toNat < 18446744073709551616 then some (a + b) else none

/-- A span `k` times, unless the seconds of the product need more than a word. The nanoseconds are
    multiplied first; the seconds that they fill are carried. -/
def times? (d : Span) (k : UInt32) : Option Span :=
  let total := d.nanos.toUInt64 * k.toUInt64
  match mulWords? d.seconds k.toUInt64 with
  | none => none
  | some s =>
    match addWords? s (total / 1000000000) with
    | none => none
    | some s =>
      some
        { seconds := s
          nanos := (total % 1000000000).toUInt32
          nanos_lt := by
            have h : (total % 1000000000).toNat < 1000000000 := by
              rw [UInt64.toNat_mod]
              exact Nat.mod_lt _ (by decide)
            rw [UInt64.toNat_toUInt32, Nat.mod_eq_of_lt (by omega)]
            exact h }

/-- A span `k` times, or the longest span where that would be longer still. -/
def times (d : Span) (k : UInt32) : Span := (d.times? k).getD longest

/-- The seconds that a number of nanoseconds fills, in words. -/
theorem toNat_div_billion (w : UInt64) : (w / 1000000000).toNat = w.toNat / 1000000000 := by
  rw [UInt64.toNat_div]
  rfl

/-- The nanoseconds that are left beside those seconds, in words. -/
theorem toNat_mod_billion (w : UInt64) :
    (w % 1000000000).toUInt32.toNat = w.toNat % 1000000000 := by
  have h : (w % 1000000000).toNat = w.toNat % 1000000000 := by
    rw [UInt64.toNat_mod]
    rfl
  rw [UInt64.toNat_toUInt32, h]
  exact Nat.mod_eq_of_lt (by omega)

/-- **Multiplying in words is multiplying exactly, up to the longest span.** -/
theorem toNanos_times (d : Span) (k : UInt32) :
    (d.times k).toNanos = min (d.toNanos * k.toNat) longest.toNanos := by
  have hn := d.nanos_lt
  have hk : k.toNat < 2 ^ 32 := k.toNat_lt
  have hprod : d.nanos.toNat * k.toNat < 1000000000 * 2 ^ 32 := Nat.mul_lt_mul'' hn hk
  have htotal : (d.nanos.toUInt64 * k.toUInt64).toNat = d.nanos.toNat * k.toNat := by
    rw [UInt64.toNat_mul, UInt32.toNat_toUInt64, UInt32.toNat_toUInt64]
    exact Nat.mod_eq_of_lt (by omega)
  have hexp : d.toNanos * k.toNat =
      d.seconds.toNat * k.toNat * 1000000000 + d.nanos.toNat * k.toNat := by
    rw [toNanos, Nat.add_mul, Nat.mul_right_comm]
  rw [hexp, toNanos_longest]
  unfold times times? mulWords? addWords?
  simp only [UInt32.toNat_toUInt64, toNat_div_billion, htotal]
  generalize ht : d.nanos.toNat * k.toNat = t at *
  by_cases h1 : d.seconds.toNat * k.toNat < 18446744073709551616
  · have hmul : (d.seconds * k.toUInt64).toNat = d.seconds.toNat * k.toNat := by
      rw [UInt64.toNat_mul, UInt32.toNat_toUInt64, Nat.mod_eq_of_lt h1]
    simp only [if_pos h1, hmul]
    by_cases h2 : d.seconds.toNat * k.toNat + t / 1000000000 < 18446744073709551616
    · simp only [if_pos h2, Option.getD_some, toNanos]
      rw [UInt64.toNat_add, toNat_mod_billion, toNat_div_billion, hmul, htotal,
        Nat.mod_eq_of_lt h2]
      omega
    · simp only [if_neg h2, Option.getD_none, toNanos_longest]
      omega
  · simp only [if_neg h1, Option.getD_none, toNanos_longest]
    omega

/-- Whether a span is not longer than another: seconds decide, then nanoseconds. -/
def le (a b : Span) : Bool :=
  a.seconds < b.seconds || (a.seconds == b.seconds && a.nanos ≤ b.nanos)

/-- The shorter of two spans. -/
def shorter (a b : Span) : Span := if a.le b then a else b

theorem le_iff (a b : Span) : a.le b = true ↔ a.toNanos ≤ b.toNanos := by
  have ha := a.nanos_lt
  have hb := b.nanos_lt
  rw [le, Bool.or_eq_true, Bool.and_eq_true, decide_eq_true_eq, decide_eq_true_eq, beq_iff_eq,
    UInt64.lt_iff_toNat_lt, UInt32.le_iff_toNat_le, ← UInt64.toNat_inj]
  simp only [toNanos]
  omega

theorem toNanos_shorter (a b : Span) : (a.shorter b).toNanos = min a.toNanos b.toNanos := by
  unfold shorter
  split
  · rename_i h
    rw [Nat.min_eq_left ((le_iff a b).mp h)]
  · rename_i h
    have : ¬ a.toNanos ≤ b.toNanos := fun hle => h ((le_iff a b).mpr hle)
    rw [Nat.min_eq_right (by omega)]

/-! ## 4. Text -/

/-- A number with a fraction of `width` places and a unit; zeros at the end of the fraction, and a
    fraction of zeros with its point, are left out. -/
def fractionText (whole fraction width : Nat) (unit : String) : String :=
  let places := Decimal.padded width fraction
  let places := (places.reverse.dropWhile (· == '0')).reverse
  let places := if fraction = 0 then [] else '.' :: places
  Decimal.text whole ++ String.ofList places ++ unit

/-- A span in the largest of the units s, ms, µs, ns of which it holds at least one. -/
def text (d : Span) : String :=
  let n := d.nanos.toNat
  if 0 < d.seconds.toNat then fractionText d.seconds.toNat n 9 "s"
  else if 1000000 ≤ n then fractionText (n / 1000000) (n % 1000000) 6 "ms"
  else if 1000 ≤ n then fractionText (n / 1000) (n % 1000) 3 "µs"
  else fractionText n 0 0 "ns"

end Span

end Courier
