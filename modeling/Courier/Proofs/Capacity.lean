import Courier.Proofs.Writes

/-!
# How much a sink holds

How a sink cuts what it is offered is its own affair, and it may cut differently at each write. Two
kinds of sinks are told by how much they hold in all:

* a sink that never fails takes some bytes at each write (`Sink.Manner.NeverFails`), so it takes all
  chunks, whatever they are (`exists_takesAll`);
* a sink that fails after `total` bytes takes some at each write until it holds so many, and then
  rejects any other (`Sink.Manner.FailsAfter`). It takes chunks just where all of them together
  fit, and is full otherwise (`TakesAll.length_le`, `RefusesAt.filled`).

A sink of limited size is of the first kind where it has no limit, and of the second where it has
one (`Manner.neverFails_limited`, `Manner.failsAfter_limited`).
-/

namespace Courier.Sink

/-! ## 1. Two kinds of sinks -/

/-- Why a write stores nothing of what is offered, if it does not. -/
def rejection? : Except String (Option Nat) → Option String
  | .error report => some report
  | .ok (some 0) => some writeZero
  | .ok _ => none

/-- A sink takes some bytes at each write, and can always be flushed. -/
structure Manner.NeverFails (m : Manner) : Prop where
  takes : ∀ write stored, rejection? (m.room write stored) = none
  flushes : ∀ flush, m.flushFault flush = none

/-- A sink takes some bytes at each write until it holds `total` bytes, never more of them than are
    left, and then rejects any with the same report. -/
structure Manner.FailsAfter (m : Manner) (total : Nat) (report : String) : Prop where
  takes : ∀ write stored, stored < total →
    ∃ n, 0 < n ∧ stored + n ≤ total ∧ m.room write stored = .ok (some n)
  rejects : ∀ write stored, total ≤ stored → rejection? (m.room write stored) = some report

theorem neverFails_memory : memory.manner.NeverFails := ⟨fun _ _ => rfl, fun _ => rfl⟩

theorem Manner.neverFails_limited {maxWrite : Option Nat} (some_at_each : maxWrite ≠ some 0)
    (refusal : String) : (Manner.limited maxWrite none refusal none).NeverFails := by
  refine ⟨fun write stored => ?_, fun _ => rfl⟩
  show rejection? (.ok maxWrite) = none
  rcases maxWrite with _ | _ | n
  · rfl
  · exact absurd rfl some_at_each
  · rfl

theorem Manner.failsAfter_limited {maxWrite : Option Nat} (some_at_each : maxWrite ≠ some 0)
    (total : Nat) (refusal : String) (flushFault : Option String) :
    (Manner.limited maxWrite (some total) refusal flushFault).FailsAfter total refusal := by
  refine ⟨fun write stored hlt => ?_, fun write stored hle => ?_⟩
  · have hroom : (Manner.limited maxWrite (some total) refusal flushFault).room write stored =
        .ok (narrower maxWrite (some (total - stored))) := if_neg (Nat.not_le.mpr hlt)
    rw [hroom]
    rcases maxWrite with _ | n
    · exact ⟨total - stored, by omega, by omega, rfl⟩
    · have hpos : n ≠ 0 := fun h => some_at_each (congrArg some h)
      exact ⟨min n (total - stored), by omega, by omega, rfl⟩
  · show rejection? (if total ≤ stored then _ else _) = _
    rw [if_pos hle]
    rfl

/-! ## 2. Sinks that never fail -/

variable {s s' : Sink} {bytes : Bytes} {chunks : List Bytes} {j n total : Nat}
  {report report' : String}

theorem Refuses.not_neverFails (h : s.Refuses bytes n report s') : ¬ s.manner.NeverFails := by
  intro never
  induction h with
  | @refused s bytes report offered room =>
      have htakes := never.takes s.writes s.stored.size
      rw [show s.manner.room s.writes s.stored.size = .error report from room] at htakes
      cases htakes
  | @full s bytes offered room =>
      have htakes := never.takes s.writes s.stored.size
      rw [show s.manner.room s.writes s.stored.size = .ok (some 0) from room] at htakes
      cases htakes
  | part room pos later ih => exact ih never

theorem RefusesAt.not_neverFails (h : s.RefusesAt chunks j n report s') :
    ¬ s.manner.NeverFails := by
  intro never
  induction h with
  | here h => exact h.not_neverFails never
  | later first h ih =>
      rw [first.manner_flushes.1] at ih
      exact ih never

/-- **A sink that never fails takes all bytes of all chunks.** -/
theorem exists_takesAll (never : s.manner.NeverFails) (chunks : List Bytes) :
    ∃ s', s.TakesAll chunks s' := by
  refine (s.takesAll_or_refusesAt chunks).resolve_right ?_
  rintro ⟨j, n, report, s', h⟩
  exact h.not_neverFails never

/-! ## 3. Sinks that fail after some bytes -/

theorem length_data (s : Sink) : s.data.length = s.stored.size := Array.length_toList

/-- A write with room for some bytes is one before the sink is full, and does not go beyond. -/
theorem Manner.FailsAfter.room_le {m : Manner} (h : m.FailsAfter total report)
    {write stored n : Nat} (room : m.room write stored = .ok (some n)) (pos : 0 < n) :
    stored + n ≤ total := by
  rcases Nat.lt_or_ge stored total with hlt | hge
  · obtain ⟨n', -, hle, hroom⟩ := h.takes write stored hlt
    rw [room] at hroom
    cases hroom
    exact hle
  · have hrejects := h.rejects write stored hge
    rw [room] at hrejects
    cases n with
    | zero => exact absurd pos (Nat.lt_irrefl 0)
    | succ n => cases hrejects

/-- No room is never meant as room for any number of bytes. -/
theorem Manner.FailsAfter.room_ne {m : Manner} (h : m.FailsAfter total report)
    (write stored : Nat) : m.room write stored ≠ .ok none := by
  intro room
  rcases Nat.lt_or_ge stored total with hlt | hge
  · obtain ⟨n, -, -, hroom⟩ := h.takes write stored hlt
    rw [room] at hroom
    cases hroom
  · have hrejects := h.rejects write stored hge
    rw [room] at hrejects
    cases hrejects

/-- A write that stores nothing is one to a sink that is full. -/
theorem Manner.FailsAfter.full {m : Manner} (h : m.FailsAfter total report) {write stored : Nat}
    (rejects : rejection? (m.room write stored) = some report') :
    total ≤ stored ∧ report' = report := by
  rcases Nat.lt_or_ge stored total with hlt | hge
  · obtain ⟨n, hpos, -, hroom⟩ := h.takes write stored hlt
    rw [hroom] at rejects
    cases n with
    | zero => exact absurd hpos (Nat.lt_irrefl 0)
    | succ n => cases rejects
  · rw [h.rejects write stored hge] at rejects
    exact ⟨hge, (Option.some.inj rejects).symm⟩

theorem Takes.length_le (h : s.Takes bytes s') (fails : s.manner.FailsAfter total report) :
    s'.data.length ≤ max total s.data.length := by
  induction h with
  | nothing s => exact Nat.le_max_right _ _
  | whole offered room => exact absurd room (fails.room_ne _ _)
  | @part s s' bytes n offered room pos later ih =>
      have hroom : s.stored.size + n ≤ total := fails.room_le room pos
      have hlater := ih fails
      rw [data_store, List.length_append, List.length_take, length_data s] at hlater
      rw [length_data s]
      omega

/-- **A sink that rejects a byte is full.** -/
theorem Refuses.filled (h : s.Refuses bytes n report' s')
    (fails : s.manner.FailsAfter total report) :
    s'.data.length = max total s.data.length ∧ report' = report := by
  induction h with
  | @refused s bytes report' offered room =>
      have rejects : rejection? s.roomNow = some report' := by rw [room]; rfl
      obtain ⟨hfull, hreport⟩ := fails.full rejects
      rw [← length_data s] at hfull
      exact ⟨(Nat.max_eq_right hfull).symm, hreport⟩
  | @full s bytes offered room =>
      have rejects : rejection? s.roomNow = some writeZero := by rw [room]; rfl
      obtain ⟨hfull, hreport⟩ := fails.full rejects
      rw [← length_data s] at hfull
      exact ⟨(Nat.max_eq_right hfull).symm, hreport⟩
  | @part s s' bytes n k report' room pos later ih =>
      have hroom : s.stored.size + n ≤ total := fails.room_le room pos
      obtain ⟨hlater, hreport⟩ := ih fails
      rw [data_store, List.length_append, List.length_take, length_data s] at hlater
      rw [length_data s]
      exact ⟨by omega, hreport⟩

theorem TakesAll.length_le (h : s.TakesAll chunks s') (fails : s.manner.FailsAfter total report) :
    s'.data.length ≤ max total s.data.length := by
  induction h with
  | nil s => exact Nat.le_max_right _ _
  | cons first later ih =>
      have hfirst := first.length_le fails
      rw [first.manner_flushes.1] at ih
      have hlater := ih fails
      omega

theorem RefusesAt.filled (h : s.RefusesAt chunks j n report' s')
    (fails : s.manner.FailsAfter total report) :
    s'.data.length = max total s.data.length ∧ report' = report := by
  induction h with
  | here h => exact h.filled fails
  | later first h ih =>
      have hfirst := first.length_le fails
      have hkept := congrArg List.length first.data
      rw [List.length_append] at hkept
      rw [first.manner_flushes.1] at ih
      obtain ⟨hlater, hreport⟩ := ih fails
      exact ⟨by omega, hreport⟩

/-- What a sink of this kind takes fits beside what it holds. -/
theorem TakesAll.fits (h : s.TakesAll chunks s') (fails : s.manner.FailsAfter total report) :
    chunks.flatten.length ≤ total - s.data.length := by
  have hle := h.length_le fails
  rw [h.data, List.length_append] at hle
  omega

/-- What it rejects does not fit, and of that it has stored as much as does. -/
theorem RefusesAt.overflows (h : s.RefusesAt chunks j n report' s')
    (fails : s.manner.FailsAfter total report) :
    total - s.data.length < chunks.flatten.length ∧
      s'.data = s.data ++ chunks.flatten.take (total - s.data.length) ∧ report' = report := by
  obtain ⟨chunk, hchunk, hlt, hdata⟩ := h.data
  obtain ⟨hfull, hreport⟩ := h.filled fails
  have hsplit : chunks = chunks.take j ++ chunk :: chunks.drop (j + 1) := by
    obtain ⟨hj, rfl⟩ := List.getElem?_eq_some_iff.mp hchunk
    rw [List.getElem_cons_drop, List.take_append_drop]
  -- what is stored is what comes before the rejected byte, so the sink is full just there
  have hlength : ((chunks.take j).flatten ++ chunk.take n).length = total - s.data.length := by
    rw [hdata, List.length_append] at hfull
    omega
  have hall : chunks.flatten =
      ((chunks.take j).flatten ++ chunk.take n) ++
        (chunk.drop n ++ (chunks.drop (j + 1)).flatten) := by
    conv => lhs; rw [hsplit, List.flatten_append, List.flatten_cons]
    rw [List.append_assoc, ← List.append_assoc (chunk.take n), List.take_append_drop]
  refine ⟨?_, ?_, hreport⟩
  · rw [hall, List.length_append, hlength, List.length_append, List.length_drop]
    omega
  · rw [hdata, hall, ← hlength, List.take_left]

end Courier.Sink
