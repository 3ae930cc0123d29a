import Courier.Response
import Courier.Span

/-!
# Backoff

How many attempts a request may have, how long to wait between two of them, and which outcomes are
worth another one.

* The wait after attempt `a`, counted from 0, is the first wait doubled `min a 31` times. It is no
  longer than the cap, unless the cap is no time at all, and never longer than the longest span.
* A status of the two hundreds is a success. 429 and the five hundreds but 501 are worth another
  attempt, and so are transient faults. Anything else is final.
-/

namespace Courier

/-- How an attempt ended, for the one who decides on the next. -/
inductive Verdict
  /-- All is well. -/
  | success
  /-- Another attempt may fare better. -/
  | retry
  /-- Another attempt would end the same way. -/
  | terminal
  deriving DecidableEq, Repr

/-- The verdict on a status. -/
def Status.verdict (s : Status) : Verdict :=
  if s.isSuccess then .success
  else if s.code = 429 ∨ (s.isServerError ∧ s.code ≠ 501) then .retry
  else .terminal

/-- The verdict on a fault. -/
def Fault.verdict (f : Fault) : Verdict := if f.kind.isTransient then .retry else .terminal

/-- The verdict on what an attempt gave. -/
def verdict : Except Fault Response → Verdict
  | .ok response => response.status.verdict
  | .error fault => fault.verdict

/-- The number of attempts and the waits between them. -/
structure Backoff where
  /-- How many attempts there may be. -/
  maxAttempts : UInt32
  /-- The wait after the first attempt. -/
  initial : Span
  /-- The longest wait, or no time at all where there is none. -/
  cap : Span
  /-- There is one attempt at least. -/
  maxAttempts_pos : 0 < maxAttempts

namespace Backoff

/-- The backoff for a number of attempts, of which 0 means the same as 1. -/
def ofRetries (retries : UInt32) (initial cap : Span) : Backoff where
  maxAttempts := if retries = 0 then 1 else retries
  initial := initial
  cap := cap
  maxAttempts_pos := by
    split
    · decide
    · rename_i h
      rw [UInt32.lt_iff_toNat_lt]
      have : retries.toNat ≠ 0 := fun e => h (UInt32.toNat_inj.mp e)
      simpa using Nat.pos_of_ne_zero this

/-- The factor of the wait after attempt `a`: two to the power of `a`, of 31 at most. -/
def factor (a : UInt32) : UInt32 := 1 <<< (if a < 31 then a else 31)

/-- The wait after attempt `a`, counted from 0. -/
def delay (b : Backoff) (a : UInt32) : Span :=
  let wait := b.initial.times (factor a)
  if b.cap.isZero then wait else wait.shorter b.cap

end Backoff

end Courier
