import Courier.Sink
import Mathlib.Data.List.Basic

/-!
# Writing, one write at a time

`Sink.writeAll` makes writes until all bytes are stored or the sink stops. What a sequence of writes
comes to is said here by what the sink has room for at each of them:

* `Sink.Takes`: all bytes are stored, in as many parts as the sink wants;
* `Sink.Refuses`: some bytes are stored and the next one is rejected, by a refusal or by a write
  that stores nothing.

One of the two happens, and it is what `writeAll` comes to (`writeAll_eq_ok_iff`,
`writeAll_eq_error_iff`). Bytes that were stored stand behind those that the sink held
(`Takes.data`, `Refuses.data`). `Sink.TakesAll` and `Sink.RefusesAt` say the same of chunks that are
written one after the other.
-/

namespace Courier.Sink

/-! ## 1. Sequences of writes -/

/-- What a sink has room for at its next write. -/
def roomNow (s : Sink) : Except String (Option Nat) := s.manner.room s.writes s.stored.size

/-- A sink after a write that has stored nothing. -/
def tried (s : Sink) : Sink := { s with writes := s.writes + 1 }

/-- A sink stores all bytes that it is offered, one part after the other. -/
inductive Takes : Sink → Bytes → Sink → Prop
  /-- Nothing is offered. -/
  | nothing (s : Sink) : Takes s [] s
  /-- There is room for any number of bytes. -/
  | whole {s : Sink} {bytes : Bytes} (offered : bytes ≠ []) (room : s.roomNow = .ok none) :
      Takes s bytes (s.store bytes)
  /-- There is room for some bytes, and the others are stored later. -/
  | part {s s' : Sink} {bytes : Bytes} {n : Nat} (offered : bytes ≠ [])
      (room : s.roomNow = .ok (some n)) (pos : 0 < n)
      (later : Takes (s.store (bytes.take n)) (bytes.drop n) s') : Takes s bytes s'

/-- A sink stores `n` of the bytes that it is offered and rejects the next one, with a report. -/
inductive Refuses : Sink → Bytes → (n : Nat) → (report : String) → Sink → Prop
  /-- The sink refuses. -/
  | refused {s : Sink} {bytes : Bytes} {report : String} (offered : bytes ≠ [])
      (room : s.roomNow = .error report) : Refuses s bytes 0 report s.tried
  /-- There is room for nothing. -/
  | full {s : Sink} {bytes : Bytes} (offered : bytes ≠ []) (room : s.roomNow = .ok (some 0)) :
      Refuses s bytes 0 writeZero s.tried
  /-- There is room for some bytes, and one of the others is rejected. -/
  | part {s s' : Sink} {bytes : Bytes} {n k : Nat} {report : String}
      (room : s.roomNow = .ok (some n)) (pos : 0 < n)
      (later : Refuses (s.store (bytes.take n)) (bytes.drop n) k report s') :
      Refuses s bytes (n + k) report s'

variable {s s' : Sink} {bytes : Bytes} {n : Nat} {report : String}

/-! ## 2. What is stored -/

theorem Takes.data (h : s.Takes bytes s') : s'.data = s.data ++ bytes := by
  induction h with
  | nothing s => exact (List.append_nil _).symm
  | whole offered room => exact data_store _ _
  | part offered room pos later ih =>
      rw [ih, data_store, List.append_assoc, List.take_append_drop]

theorem Refuses.data (h : s.Refuses bytes n report s') : s'.data = s.data ++ bytes.take n := by
  induction h with
  | refused offered room => exact (List.append_nil _).symm
  | full offered room => exact (List.append_nil _).symm
  | part room pos later ih => rw [ih, data_store, List.append_assoc, ← List.take_add]

/-- There is a byte that is rejected. -/
theorem Refuses.lt_length (h : s.Refuses bytes n report s') : n < bytes.length := by
  induction h with
  | refused offered room => exact List.length_pos_of_ne_nil offered
  | full offered room => exact List.length_pos_of_ne_nil offered
  | part room pos later ih =>
      rw [List.length_drop] at ih
      omega

/-! ## 3. What writing comes to -/

/-- The first write of bytes decides, or leaves the others to be written. -/
theorem writeAll_of_offered (offered : bytes ≠ []) :
    s.writeAll bytes =
      match s.roomNow with
      | .error report => (.error report, s.tried)
      | .ok none => (.ok (), s.store bytes)
      | .ok (some n) =>
        if n = 0 then (.error writeZero, s.tried)
        else (s.store (bytes.take n)).writeAll (bytes.drop n) := by
  obtain ⟨b, rest, rfl⟩ := List.exists_cons_of_ne_nil offered
  rw [writeAll, roomNow]
  rcases s.manner.room s.writes s.stored.size with report | _ | _ | n <;> rfl

theorem Takes.writeAll_eq (h : s.Takes bytes s') : s.writeAll bytes = (.ok (), s') := by
  induction h with
  | nothing s => rw [writeAll]
  | whole offered room => rw [writeAll_of_offered offered, room]
  | part offered room pos later ih =>
      rw [writeAll_of_offered offered, room]
      exact (if_neg (Nat.ne_of_gt pos)).trans ih

theorem Refuses.writeAll_eq (h : s.Refuses bytes n report s') :
    s.writeAll bytes = (.error report, s') := by
  induction h with
  | refused offered room => rw [writeAll_of_offered offered, room]
  | full offered room =>
      rw [writeAll_of_offered offered, room]
      exact if_pos rfl
  | part room pos later ih =>
      have hlt := (Refuses.part room pos later).lt_length
      rw [writeAll_of_offered (List.ne_nil_of_length_pos (Nat.zero_lt_of_lt hlt)), room]
      exact (if_neg (Nat.ne_of_gt pos)).trans ih

/-- **A sink takes all bytes, or it rejects one of them.** -/
theorem takes_or_refuses (s : Sink) (bytes : Bytes) :
    (∃ s', s.Takes bytes s') ∨ ∃ n report s', s.Refuses bytes n report s' := by
  fun_induction writeAll s bytes with
  | case1 s => exact .inl ⟨s, .nothing s⟩
  | case2 s b rest report room =>
      exact .inr ⟨0, report, s.tried, .refused (List.cons_ne_nil b rest) room⟩
  | case3 s b rest room => exact .inl ⟨_, .whole (List.cons_ne_nil b rest) room⟩
  | case4 s b rest room =>
      exact .inr ⟨0, writeZero, s.tried, .full (List.cons_ne_nil b rest) room⟩
  | case5 s b rest n room ih =>
      rcases ih with ⟨s', later⟩ | ⟨k, report, s', later⟩
      · exact .inl ⟨s', .part (List.cons_ne_nil b rest) room (Nat.succ_pos n) later⟩
      · exact .inr ⟨n + 1 + k, report, s', .part room (Nat.succ_pos n) later⟩

/-- **Writing goes well just where the sink takes all bytes.** -/
theorem writeAll_eq_ok_iff : s.writeAll bytes = (.ok (), s') ↔ s.Takes bytes s' := by
  refine ⟨fun h => ?_, Takes.writeAll_eq⟩
  rcases s.takes_or_refuses bytes with ⟨s'', htakes⟩ | ⟨n, report, s'', hrefuses⟩
  · cases htakes.writeAll_eq.symm.trans h
    exact htakes
  · cases hrefuses.writeAll_eq.symm.trans h

/-- **Writing fails just where the sink rejects a byte**, and with its report. -/
theorem writeAll_eq_error_iff :
    s.writeAll bytes = (.error report, s') ↔ ∃ n, s.Refuses bytes n report s' := by
  refine ⟨fun h => ?_, fun ⟨n, hn⟩ => hn.writeAll_eq⟩
  rcases s.takes_or_refuses bytes with ⟨s'', htakes⟩ | ⟨n, report, s'', hrefuses⟩
  · cases htakes.writeAll_eq.symm.trans h
  · cases hrefuses.writeAll_eq.symm.trans h
    exact ⟨n, hrefuses⟩

theorem Takes.manner_flushes (h : s.Takes bytes s') :
    s'.manner = s.manner ∧ s'.flushes = s.flushes := by
  have hsame := s.manner_flushes_writeAll bytes
  rwa [h.writeAll_eq] at hsame

theorem Refuses.flushes (h : s.Refuses bytes n report s') : s'.flushes = s.flushes := by
  have hflushes := (s.manner_flushes_writeAll bytes).2
  rwa [h.writeAll_eq] at hflushes

/-! ## 4. One chunk after the other -/

/-- A sink takes all bytes of each chunk. -/
inductive TakesAll : Sink → List Bytes → Sink → Prop
  | nil (s : Sink) : TakesAll s [] s
  | cons {s between s' : Sink} {chunk : Bytes} {chunks : List Bytes}
      (first : s.Takes chunk between) (later : TakesAll between chunks s') :
      TakesAll s (chunk :: chunks) s'

/-- A sink takes all bytes of the chunks before chunk `j` and `n` bytes of that one, and rejects the
    next byte, with a report. -/
inductive RefusesAt : Sink → List Bytes → (j n : Nat) → (report : String) → Sink → Prop
  | here {s s' : Sink} {chunk : Bytes} {chunks : List Bytes} {n : Nat} {report : String}
      (h : s.Refuses chunk n report s') : RefusesAt s (chunk :: chunks) 0 n report s'
  | later {s between s' : Sink} {chunk : Bytes} {chunks : List Bytes} {j n : Nat} {report : String}
      (first : s.Takes chunk between) (h : RefusesAt between chunks j n report s') :
      RefusesAt s (chunk :: chunks) (j + 1) n report s'

variable {chunks : List Bytes} {j : Nat}

theorem TakesAll.data (h : s.TakesAll chunks s') : s'.data = s.data ++ chunks.flatten := by
  induction h with
  | nil s => exact (List.append_nil _).symm
  | cons first later ih => rw [ih, first.data, List.append_assoc, List.flatten_cons]

theorem TakesAll.manner_flushes (h : s.TakesAll chunks s') :
    s'.manner = s.manner ∧ s'.flushes = s.flushes := by
  induction h with
  | nil s => exact ⟨rfl, rfl⟩
  | cons first later ih =>
      obtain ⟨hmanner, hflushes⟩ := first.manner_flushes
      exact ⟨ih.1.trans hmanner, ih.2.trans hflushes⟩

theorem RefusesAt.flushes (h : s.RefusesAt chunks j n report s') : s'.flushes = s.flushes := by
  induction h with
  | here h => exact h.flushes
  | later first h ih => exact ih.trans first.manner_flushes.2

/-- The chunks before the one with the rejected byte are stored, and so is what comes before it in
    that chunk. -/
theorem RefusesAt.data (h : s.RefusesAt chunks j n report s') :
    ∃ chunk, chunks[j]? = some chunk ∧ n < chunk.length ∧
      s'.data = s.data ++ ((chunks.take j).flatten ++ chunk.take n) := by
  induction h with
  | @here s s' chunk chunks n report h => exact ⟨chunk, rfl, h.lt_length, h.data⟩
  | later first h ih =>
      obtain ⟨chunk, hchunk, hlt, hdata⟩ := ih
      refine ⟨chunk, hchunk, hlt, ?_⟩
      rw [hdata, first.data, List.take_succ_cons, List.flatten_cons, List.append_assoc,
        List.append_assoc]

/-- **A sink takes all bytes of all chunks, or it rejects one of them.** -/
theorem takesAll_or_refusesAt (s : Sink) (chunks : List Bytes) :
    (∃ s', s.TakesAll chunks s') ∨ ∃ j n report s', s.RefusesAt chunks j n report s' := by
  induction chunks generalizing s with
  | nil => exact .inl ⟨s, .nil s⟩
  | cons chunk chunks ih =>
    rcases s.takes_or_refuses chunk with ⟨between, first⟩ | ⟨n, report, s', h⟩
    · rcases ih between with ⟨s', later⟩ | ⟨j, n, report, s', h⟩
      · exact .inl ⟨s', .cons first later⟩
      · exact .inr ⟨j + 1, n, report, s', .later first h⟩
    · exact .inr ⟨0, n, report, s', .here h⟩

end Courier.Sink
