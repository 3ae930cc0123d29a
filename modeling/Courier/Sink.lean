import Courier.Utf8

/-!
# Sinks

A sink takes bytes. One write stores as many of the bytes offered as the sink has room for just
then, and may refuse; a flush may fail. How a sink behaves is its *manner*, which may depend on the
number of writes so far and on the number of bytes stored, so it can split what it is offered in
any way and fail at any point.
-/

namespace Courier

/-- How a sink behaves. -/
structure Sink.Manner where
  /-- What the sink has room for at write number `write`, with `stored` bytes stored: a number of
      bytes, or `none` for any number; or why it refuses. -/
  room : (write stored : Nat) → Except String (Option Nat)
  /-- Why flush number `flush` fails, if it does. -/
  flushFault : (flush : Nat) → Option String

/-- A place to write to. -/
structure Sink where
  /-- How it behaves. -/
  manner : Sink.Manner
  /-- The bytes stored so far. -/
  stored : Array UInt8 := #[]
  /-- The number of writes so far. -/
  writes : Nat := 0
  /-- The number of flushes so far. -/
  flushes : Nat := 0

namespace Sink

/-! ## 1. Manners -/

/-- Stores everything and never fails. -/
def Manner.memory : Manner where
  room _ _ := .ok none
  flushFault _ := none

/-- The smaller of two bounds, where `none` is no bound. -/
def narrower : Option Nat → Option Nat → Option Nat
  | none, b => b
  | a, none => a
  | some a, some b => some (min a b)

/-- Stores at most `maxWrite` bytes in one write and at most `capacity` bytes in all, then refuses;
    every flush fails where `flushFault` says why. -/
def Manner.limited (maxWrite capacity : Option Nat) (refusal : String)
    (flushFault : Option String) : Manner where
  room _ stored :=
    match capacity with
    | none => .ok maxWrite
    | some total =>
      if total ≤ stored then .error refusal else .ok (narrower maxWrite (some (total - stored)))
  flushFault _ := flushFault

/-- An empty sink in memory. -/
def memory : Sink := { manner := .memory }

/-! ## 2. Operations -/

/-- The bytes stored so far, in order. -/
def data (s : Sink) : Bytes := s.stored.toList

/-- Stores bytes and counts a write. -/
def store (s : Sink) (bytes : Bytes) : Sink :=
  { s with stored := s.stored ++ bytes, writes := s.writes + 1 }

@[simp] theorem data_store (s : Sink) (bytes : Bytes) : (s.store bytes).data = s.data ++ bytes := by
  simp [data, store]

/-- The report of a write that stores nothing although it was offered something. -/
def writeZero : String := "write zero"

/-- Writes until all bytes are stored, the sink refuses, or a write stores nothing. Nothing is
    written where there are no bytes. -/
def writeAll (s : Sink) : Bytes → Except String Unit × Sink
  | [] => (.ok (), s)
  | b :: rest =>
    match s.manner.room s.writes s.stored.size with
    | .error report => (.error report, { s with writes := s.writes + 1 })
    | .ok none => (.ok (), s.store (b :: rest))
    | .ok (some 0) => (.error writeZero, { s with writes := s.writes + 1 })
    | .ok (some (n + 1)) => (s.store (b :: rest.take n)).writeAll (rest.drop n)
termination_by bytes => bytes.length
decreasing_by
  simp only [List.length_drop, List.length_cons]
  omega

/-- What a sink holds after writing is what it held and a beginning of what was written; all of it
    where the writing went well. -/
theorem data_writeAll (s : Sink) (bytes : Bytes) :
    ∃ n, (s.writeAll bytes).2.data = s.data ++ bytes.take n ∧
      ((s.writeAll bytes).1 = .ok () → bytes.take n = bytes) := by
  fun_induction writeAll s bytes with
  | case1 s => exact ⟨0, by simp, fun _ => rfl⟩
  | case2 s b rest report h => exact ⟨0, by simp [data], fun h => by cases h⟩
  | case3 s b rest h => exact ⟨(b :: rest).length, by simp, fun _ => by simp⟩
  | case4 s b rest h => exact ⟨0, by simp [data], fun h => by cases h⟩
  | case5 s b rest n h ih =>
    obtain ⟨m, hm, hok⟩ := ih
    have key : (b :: rest).take (n + 1 + m) = b :: rest.take n ++ (rest.drop n).take m := by
      rw [show n + 1 + m = (n + m) + 1 by omega, List.take_succ_cons, List.take_add,
        List.cons_append]
    refine ⟨n + 1 + m, ?_, fun h => ?_⟩
    · rw [hm, key, data_store, List.append_assoc]
    · rw [key, hok h, List.cons_append, List.take_append_drop]

/-- How a sink behaves does not change by writing, and writing does not flush. -/
theorem manner_flushes_writeAll (s : Sink) (bytes : Bytes) :
    (s.writeAll bytes).2.manner = s.manner ∧ (s.writeAll bytes).2.flushes = s.flushes := by
  fun_induction writeAll s bytes with
  | case1 s => exact ⟨rfl, rfl⟩
  | case2 s b rest report h => exact ⟨rfl, rfl⟩
  | case3 s b rest h => exact ⟨rfl, rfl⟩
  | case4 s b rest h => exact ⟨rfl, rfl⟩
  | case5 s b rest n h ih => exact ih

/-- Flushes, which is counted even where it fails. -/
def flush (s : Sink) : Except String Unit × Sink :=
  let s' := { s with flushes := s.flushes + 1 }
  match s.manner.flushFault s.flushes with
  | none => (.ok (), s')
  | some report => (.error report, s')

end Sink

end Courier
