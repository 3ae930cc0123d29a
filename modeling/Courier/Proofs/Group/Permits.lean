import Courier.Proofs.Group.Moves
import Mathlib.Data.List.Nodup

/-!
# The permits of a group

`Permits k` is the invariant of the permits and the queue: `k` is the number of free permits and of
members that hold one; the queue holds the members that wait, each once; and while somebody waits no
permit is free. It holds in every state that a group with `k` permits can come to
(`Reachable.permits`).
-/

namespace Courier

/-- The number of permits that a member holds in a phase. -/
def Phase.permits (phase : Phase) : Nat := if phase.holdsPermit then 1 else 0

namespace Group

variable {σ : Type}

/-- The number of members that hold a permit. -/
def State.holders (s : State σ) : Nat := s.members.countP fun member => member.phase.holdsPermit

theorem State.holders_eq_tally (s : State σ) : s.holders = s.tally Phase.permits := by
  rw [holders, tally]
  induction s.members with
  | nil => rfl
  | cons member rest ih =>
    rw [List.countP_cons, ih, List.map_cons, List.sum_cons, Nat.add_comm]
    rfl

/-! ## 1. The invariant -/

/-- The permits and the queue of a group with `k` permits. -/
structure Permits (k : Nat) (s : State σ) : Prop where
  /-- Every permit is free or held. -/
  total : s.free + s.tally Phase.permits = k
  /-- Those in the queue are those who wait. -/
  mem_queue : ∀ i, i ∈ s.queue ↔ s.phase? i = some .queued
  /-- Nobody is in the queue twice. -/
  nodup : s.queue.Nodup
  /-- No permit is free while somebody waits. -/
  busy : s.queue ≠ [] → s.free = 0

theorem Permits.free_add_holders {k : Nat} {s : State σ} (h : Permits k s) :
    s.free + s.holders = k := by
  rw [s.holders_eq_tally]
  exact h.total

theorem holders_eq_zero {s : State σ}
    (h : ∀ i phase, s.phase? i = some phase → phase.holdsPermit = false) : s.holders = 0 := by
  refine List.countP_eq_zero.mpr fun member hmem hholds => ?_
  obtain ⟨i, hi⟩ := List.mem_iff_getElem?.mp hmem
  rw [h i member.phase (State.phase?_of_member hi)] at hholds
  cases hholds

theorem tally_start (weight : Phase → Nat) (requests : List Request) (k : Nat) (m : Moment σ) :
    (State.start requests k m).tally weight = requests.length * weight .idle := by
  show ((requests.map fun request => ({ request } : Member)).map
    fun member => weight member.phase).sum = _
  induction requests with
  | nil => rw [List.length_nil, Nat.zero_mul]; rfl
  | cons r rest ih =>
    rw [List.map_cons, List.map_cons, List.sum_cons, ih, List.length_cons, Nat.succ_mul,
      Nat.add_comm]

theorem phase?_start {requests : List Request} {k : Nat} {m : Moment σ} {i : Nat} {phase : Phase}
    (h : (State.start requests k m).phase? i = some phase) : phase = .idle := by
  obtain ⟨r, hr⟩ := (State.phase?_eq_some _).mp h
  obtain ⟨a, -, ha⟩ := List.mem_map.mp (List.mem_of_getElem? hr)
  cases ha
  rfl

theorem phase?_start_of_lt {requests : List Request} {k : Nat} {m : Moment σ} {i : Nat}
    (h : i < requests.length) : (State.start requests k m).phase? i = some .idle := by
  refine State.phase?_of_member (r := requests[i]) ?_
  rw [State.start, List.getElem?_map, List.getElem?_eq_getElem h]
  rfl

theorem permits_start (requests : List Request) (k : Nat) (m : Moment σ) :
    Permits k (State.start requests k m) where
  total := by
    rw [tally_start]
    rfl
  mem_queue i := ⟨fun h => absurd h List.not_mem_nil, fun h => by cases phase?_start h⟩
  nodup := List.nodup_nil
  busy h := absurd rfl h

/-! ## 2. Moves keep it -/

section Moves

variable {plan : RetryPlan} {t : Transport σ} {k : Nat} {s s' : State σ} {i : Nat}

/-- A member that neither leaves nor enters the queue leaves it as it is. -/
theorem mem_queue_setPhase {queue : List Nat} {old : Phase}
    (hq : ∀ j, j ∈ queue ↔ s.phase? j = some .queued) (was : s.phase? i = some old)
    (h₁ : old ≠ .queued) {new : Phase} (h₂ : new ≠ .queued) (j : Nat) :
    j ∈ queue ↔ (s.setPhase i new).phase? j = some .queued := by
  rcases eq_or_ne i j with rfl | hne
  · rw [hq i, was, s.phase?_setPhase_self was]
    exact ⟨fun h => absurd (Option.some.inj h) h₁, fun h => absurd (Option.some.inj h) h₂⟩
  · rw [s.phase?_setPhase_ne hne]
    exact hq j

/-- A member that holds its permit in the next phase as in this one changes nothing. -/
theorem Permits.setPhase {old : Phase} (hI : Permits k s) (was : s.phase? i = some old)
    (h₁ : old ≠ .queued) (new : Phase) (h₂ : new ≠ .queued) (same : new.permits = old.permits) :
    Permits k (s.setPhase i new) where
  total := by
    have htally := s.tally_setPhase Phase.permits was new
    have htotal := hI.total
    show s.free + (s.setPhase i new).tally Phase.permits = k
    omega
  mem_queue := mem_queue_setPhase hI.mem_queue was h₁ h₂
  nodup := hI.nodup
  busy := hI.busy

/-- The invariant reads the members, the free permits and the queue only. -/
theorem Permits.congr (hI : Permits k s) (hm : s'.members = s.members) (hf : s'.free = s.free)
    (hq : s'.queue = s.queue) : Permits k s' where
  total := by
    rw [State.tally, hm, hf]
    exact hI.total
  mem_queue j := by
    rw [State.phase?, hm, hq]
    exact hI.mem_queue j
  nodup := by
    rw [hq]
    exact hI.nodup
  busy := by
    rw [hq, hf]
    exact hI.busy

theorem Permits.enqueue {r : Request} (hI : Permits k s) (was : s.members[i]? = some ⟨r, .idle⟩)
    (full : s.free = 0) :
    Permits k { s.setPhase i .queued with queue := s.queue ++ [i] } where
  total := by
    have htally := s.tally_setPhase Phase.permits (State.phase?_of_member was) .queued
    have htotal := hI.total
    show s.free + (s.setPhase i .queued).tally Phase.permits = k
    have h0 : Phase.idle.permits = 0 := rfl
    have h1 : Phase.queued.permits = 0 := rfl
    omega
  mem_queue j := by
    show j ∈ s.queue ++ [i] ↔ (s.setPhase i .queued).phase? j = some .queued
    rw [List.mem_append, List.mem_singleton, hI.mem_queue j]
    rcases eq_or_ne i j with rfl | hne
    · rw [s.phase?_setPhase_self (State.phase?_of_member was)]
      exact ⟨fun _ => rfl, fun _ => .inr rfl⟩
    · rw [s.phase?_setPhase_ne hne]
      exact ⟨fun h => h.resolve_right (Ne.symm hne), .inl⟩
  nodup := by
    refine List.nodup_append.mpr ⟨hI.nodup, List.nodup_singleton i, fun a ha b hb => ?_⟩
    rw [List.mem_singleton.mp hb]
    rintro rfl
    rw [hI.mem_queue, State.phase?_of_member was] at ha
    cases ha
  busy _ := full

theorem Permits.enter {r : Request} (hI : Permits k s) (was : s.members[i]? = some ⟨r, .idle⟩)
    (room : 0 < s.free) :
    Permits k (State.call plan t { s with free := s.free - 1 } i r 0) where
  total := by
    have htally := s.tally_setPhase Phase.permits (State.phase?_of_member was)
      (s.callingNow plan t r 0)
    have htotal := hI.total
    show s.free - 1 + (s.setPhase i (s.callingNow plan t r 0)).tally Phase.permits = k
    have h0 : Phase.idle.permits = 0 := rfl
    have h1 : (s.callingNow plan t r 0).permits = 1 := rfl
    omega
  mem_queue := mem_queue_setPhase hI.mem_queue (State.phase?_of_member was) nofun nofun
  nodup := hI.nodup
  busy h := by
    have hfree : s.free = 0 := hI.busy h
    omega

/-- A call of a member that holds a permit already. -/
theorem Permits.call {r : Request} {made : UInt32} {phase : Phase} (hI : Permits k s)
    (was : s.phase? i = some phase) (held : phase.permits = 1) :
    Permits k (s.call plan t i r made) := by
  have hne : phase ≠ .queued := by
    rintro rfl
    cases held
  exact (hI.setPhase was hne (s.callingNow plan t r made) nofun held.symm).congr rfl rfl rfl

/-- The permit of a member that has ended goes to the first in the queue, or is free. -/
theorem Permits.finish {phase : Phase} {time : Nat} {ending : Ending} (hI : Permits k s)
    (was : s.phase? i = some phase) (held : phase.permits = 1) :
    Permits k (s.setPhase i (.finished time ending)).release := by
  have hne : phase ≠ .queued := by
    rintro rfl
    cases held
  have htally := s.tally_setPhase Phase.permits was (.finished time ending)
  have h0 : (Phase.finished time ending).permits = 0 := rfl
  have htotal := hI.total
  have hended : Phase.finished time ending ≠ .queued := nofun
  have hmem := mem_queue_setPhase hI.mem_queue was hne hended
  cases hq : s.queue with
  | nil =>
      rw [State.release_of_empty (s := s.setPhase i (.finished time ending)) hq]
      refine ⟨?_, hmem, hI.nodup, fun h => absurd hq h⟩
      show s.free + 1 + (s.setPhase i (.finished time ending)).tally Phase.permits = k
      omega
  | cons j rest =>
      rw [State.release_of_cons (s := s.setPhase i (.finished time ending)) hq]
      have hj : (s.setPhase i (.finished time ending)).phase? j = some .queued :=
        (hmem j).mp (hq ▸ List.mem_cons_self)
      have hnodup := hI.nodup
      rw [hq, List.nodup_cons] at hnodup
      have htally' := (s.setPhase i (.finished time ending)).tally_setPhase Phase.permits hj
        .admitted
      have h1 : Phase.queued.permits = 0 := rfl
      have h2 : Phase.admitted.permits = 1 := rfl
      have hbusy : s.free = 0 := hI.busy (by rw [hq]; exact List.cons_ne_nil j rest)
      refine ⟨?_, fun l => ?_, hnodup.2, fun _ => hbusy⟩
      · show s.free + ((s.setPhase i (.finished time ending)).setPhase j .admitted).tally
          Phase.permits = k
        omega
      · show l ∈ rest ↔ ((s.setPhase i (.finished time ending)).setPhase j .admitted).phase? l = _
        rcases eq_or_ne j l with rfl | hjl
        · rw [State.phase?_setPhase_self _ hj]
          exact ⟨fun h => absurd h hnodup.1, fun h => by cases h⟩
        · rw [State.phase?_setPhase_ne _ hjl, ← hmem l, hq, List.mem_cons]
          exact ⟨.inr, fun h => h.resolve_left (Ne.symm hjl)⟩

theorem Permits.move (hI : Permits k s) (h : Move plan t s i s') : Permits k s' := by
  cases h with
  | enqueue r was full => exact hI.enqueue was full
  | enter r was room => exact hI.enter was room
  | begin r was => exact hI.call (State.phase?_of_member was) rfl
  | resume r made due was rung => exact hI.call (State.phase?_of_member was) rfl
  | rest r made due reply wait notice was arrived again =>
      exact (hI.setPhase (State.phase?_of_member was) nofun
        (.resting (made + 1) (s.moment.now + wait.restMillis)) nofun rfl).congr rfl rfl rfl
  | finish r made due reply ending was arrived stop =>
      exact hI.finish (State.phase?_of_member was) rfl

/-- **Every permit is free or held, and none is free while somebody waits**, in every state that
    the group can come to. -/
theorem Reachable.permits {requests : List Request} {m : Moment σ}
    (h : Reachable plan t (.start requests k m) s) : Permits k s :=
  h.induct (permits_start requests k m) (fun _ _ _ _ hI hm => hI.move hm)
    (fun _ _ _ hI _ _ _ => hI.congr rfl rfl rfl)

end Moves

end Group

end Courier
