import Courier.Proofs.Group.Places
import Mathlib.Data.Nat.Find

/-!
# Members that queue in input order

A group in which members ask for permits in input order (`InOrder`): whoever comes after a member
that has not asked yet has not asked either. The rest of the interleaving is left open. In the
states that such a group can come to, the members stand in line (`Lined`): first those that have got
their permit, then the queue, then those that have not asked. Each kind of move leaves the line as
it is or moves one of its two marks by one.

Asking in input order excludes no end of the group: as long as anybody can act, somebody can act in
order (`CompleteInOrder.complete`).
-/

namespace Courier

/-- A member in this phase has got its permit, and may have given it back by now. -/
def Phase.hasEntered : Phase → Bool
  | .idle | .queued => false
  | .admitted | .calling .. | .resting .. | .finished .. => true

namespace Phase

theorem hasEntered_of_holdsPermit {phase : Phase} (h : phase.holdsPermit = true) :
    phase.hasEntered = true := by
  cases phase with
  | idle => cases h
  | queued => cases h
  | _ => rfl

theorem holdsPermit_or_isFinished {phase : Phase} (h : phase.hasEntered = true) :
    phase.holdsPermit = true ∨ phase.isFinished = true := by
  cases phase with
  | idle => cases h
  | queued => cases h
  | finished time ending => exact .inr rfl
  | _ => exact .inl rfl

end Phase

namespace Group

variable {σ : Type} {plan : RetryPlan} {t : Transport σ} {k : Nat} {s s' : State σ} {i j : Nat}
  {requests : List Request} {m : Moment σ}

/-! ## 1. Asking in input order -/

/-- Members have asked for permits in input order so far: behind one that has not asked none has. -/
def State.AskedInOrder (s : State σ) : Prop :=
  ∀ i j, i < j → j < s.members.length → s.phase? i = some .idle → s.phase? j = some .idle

/-- The states that a group can come to when its members ask for permits in input order. -/
inductive InOrder (plan : RetryPlan) (t : Transport σ) (s₀ : State σ) : State σ → Prop
  | start : InOrder plan t s₀ s₀
  | step (s s' : State σ) (before : InOrder plan t s₀ s) (h : Step plan t s s')
      (asked : s'.AskedInOrder) : InOrder plan t s₀ s'

/-- A state that such a group can come to and from which no step is left that keeps the order. -/
structure CompleteInOrder (plan : RetryPlan) (t : Transport σ) (s₀ s : State σ) : Prop where
  inOrder : InOrder plan t s₀ s
  stuck : ∀ s', Step plan t s s' → ¬ s'.AskedInOrder

/-- However the other steps of the members interleave, a group whose members ask for permits in
    input order comes to an end, and there `p` holds. -/
structure ComesToInOrder (plan : RetryPlan) (t : Transport σ) (s₀ : State σ) (p : State σ → Prop) :
    Prop where
  ends : ∀ run : Nat → State σ, run 0 = s₀ → ¬ ∀ n, Step plan t (run n) (run (n + 1))
  atEnd : ∀ s, CompleteInOrder plan t s₀ s → p s

theorem InOrder.reachable {s₀ : State σ} (h : InOrder plan t s₀ s) : Reachable plan t s₀ s := by
  induction h with
  | start => exact .start
  | step s s' _ hs _ ih => exact .step s s' ih hs

/-- **What holds at first, and is kept by every move that keeps the order and by the passing of
    time, holds in every state that a group can come to in order.** -/
theorem InOrder.induct {s₀ : State σ} {motive : State σ → Prop} (h : InOrder plan t s₀ s)
    (first : motive s₀)
    (move : ∀ s s' i, InOrder plan t s₀ s → motive s → Move plan t s i s' → InOrder plan t s₀ s' →
      motive s')
    (tick : ∀ s due, InOrder plan t s₀ s → motive s → (∀ i, ¬ s.CanAct i) → due ∈ s.dues →
      (∀ d ∈ s.dues, due ≤ d) → motive (s.atTime due)) : motive s := by
  induction h with
  | start => exact first
  | step s s' before hs asked ih =>
      rcases hs.cases with ⟨i, -, hm⟩ | ⟨due, idle, known, least, rfl⟩
      · exact move s s' i before ih hm (.step s s' before hs asked)
      · exact tick s due before ih idle known least

theorem lt_length_of_phase? {phase : Phase} (h : s.phase? i = some phase) :
    i < s.members.length := by
  obtain ⟨r, hr⟩ := s.phase?_eq_some.mp h
  exact (List.getElem?_eq_some_iff.mp hr).1

theorem exists_phase? (h : i < s.members.length) : ∃ phase, s.phase? i = some phase :=
  ⟨_, State.phase?_of_member (List.getElem?_eq_getElem h)⟩

theorem Move.length_eq (h : Move plan t s i s') : s'.members.length = s.members.length := by
  have hrequests := congrArg List.length h.requests
  simpa using hrequests

/-- Asking is the only move that takes a member out of those who have not asked. -/
theorem Move.idle_iff (hI : Permits k s) (h : Move plan t s i s') (j : Nat) :
    s'.phase? j = some .idle ↔ s.phase? j = some .idle ∧ j ≠ i := by
  have hself : s'.phase? i ≠ some .idle := by
    intro hidle
    cases h.landed hI with
    | waits self due others =>
        rw [hidle] at self
        cases self
        cases due
    | queues self others =>
        rw [hidle] at self
        cases self
    | ends self others admits =>
        rw [hidle] at self
        cases self
  rcases eq_or_ne i j with rfl | hne
  · exact ⟨fun hidle => absurd hidle hself, fun hidle => absurd rfl hidle.2⟩
  · have hkept : s'.phase? j = some .idle ↔ s.phase? j = some .idle := by
      cases h.landed hI with
      | waits self due others => rw [others j hne]
      | queues self others => rw [others j hne]
      | ends self others admits =>
          by_cases hj : j ∈ s.queue.take 1
          · have hwas := (hI.mem_queue j).mp (List.mem_of_mem_take hj)
            rw [admits j hj, hwas]
            exact ⟨nofun, nofun⟩
          · rw [others j hne hj]
    rw [hkept]
    exact ⟨fun hidle => ⟨hidle, hne.symm⟩, fun hidle => hidle.1⟩

/-- A move keeps the order where nobody is passed over. -/
theorem Move.askedInOrder (hI : Permits k s) (h : Move plan t s i s') (asked : s.AskedInOrder)
    (turn : s.phase? i = some .idle → ∀ j < i, s.phase? j ≠ some .idle) : s'.AskedInOrder := by
  intro a b hab hb ha
  obtain ⟨ha, hai⟩ := (h.idle_iff hI a).mp ha
  rw [h.length_eq] at hb
  have hbidle := asked a b hab hb ha
  refine (h.idle_iff hI b).mpr ⟨hbidle, ?_⟩
  rintro rfl
  exact turn hbidle a hab ha

theorem askedInOrder_start : (State.start requests k m).AskedInOrder := by
  intro i j _ hj _
  obtain ⟨phase, hphase⟩ := exists_phase? hj
  rw [hphase, phase?_start hphase]

theorem InOrder.askedInOrder (h : InOrder plan t (.start requests k m) s) : s.AskedInOrder := by
  cases h with
  | start => exact askedInOrder_start
  | step _ _ _ _ asked => exact asked

/-- **Where no step in order is left, no step is left**: if anybody can act, so can somebody who
    passes nobody over. -/
theorem CompleteInOrder.complete (h : CompleteInOrder plan t (.start requests k m) s) :
    Complete plan t (.start requests k m) s := by
  refine ⟨h.inOrder.reachable, fun s' hs => ?_⟩
  have hI := h.inOrder.reachable.permits
  have asked := h.inOrder.askedInOrder
  have no_turn : ∀ i, s.CanAct i → ¬ (s.phase? i = some .idle → ∀ j < i, s.phase? j ≠ some .idle) :=
    fun i hcan turn => h.stuck _ (.act s i hcan) ((move_of_canAct hcan).askedInOrder hI asked turn)
  rcases hs.cases with ⟨i, hcan, -⟩ | ⟨due, -, -, -, rfl⟩
  · by_cases hidle : ∃ l, s.phase? l = some .idle
    · classical
      have hfirst := Nat.find_spec hidle
      exact no_turn _ ⟨.idle, hfirst, rfl⟩ fun _ j hj => Nat.find_min hidle hj
    · exact no_turn i hcan fun hi => absurd ⟨i, hi⟩ hidle
  · exact h.stuck _ hs asked

/-! ## 2. The line -/

/-- The members stand in line: those before `front` have got their permit, those from there to
    before `back` queue in order, and the others have not asked. -/
structure Lined (s : State σ) (front back : Nat) : Prop where
  front_le : front ≤ back
  back_le : back ≤ s.members.length
  entered : ∀ i < front, ∃ phase, s.phase? i = some phase ∧ phase.hasEntered = true
  queued : ∀ i, front ≤ i → i < back → s.phase? i = some .queued
  idle : ∀ i, back ≤ i → i < s.members.length → s.phase? i = some .idle
  queue : s.queue = List.range' front (back - front)

namespace Lined

variable {front back : Nat}

theorem start : Lined (State.start requests k m) 0 0 where
  front_le := Nat.le_refl 0
  back_le := Nat.zero_le _
  entered i hi := absurd hi (Nat.not_lt_zero i)
  queued i _ hi := absurd hi (Nat.not_lt_zero i)
  idle i _ hi := by
    obtain ⟨phase, hphase⟩ := exists_phase? hi
    rw [hphase, phase?_start hphase]
  queue := rfl

theorem lt_front (hl : Lined s front back) {phase : Phase} (hi : s.phase? i = some phase)
    (hentered : phase.hasEntered = true) : i < front := by
  refine Nat.lt_of_not_le fun hle => ?_
  by_cases hb : i < back
  · rw [hl.queued i hle hb] at hi
    cases hi
    cases hentered
  · rw [hl.idle i (Nat.le_of_not_lt hb) (lt_length_of_phase? hi)] at hi
    cases hi
    cases hentered

theorem back_le_of_idle (hl : Lined s front back) (hi : s.phase? i = some .idle) : back ≤ i := by
  refine Nat.le_of_not_lt fun hlt => ?_
  by_cases hf : i < front
  · obtain ⟨phase, hphase, hentered⟩ := hl.entered i hf
    rw [hi] at hphase
    cases hphase
    cases hentered
  · rw [hl.queued i (Nat.le_of_not_lt hf) hlt] at hi
    cases hi

/-- Whoever asks in order is the first that has not asked. -/
theorem eq_back (hl : Lined s front back) (hI : Permits k s) (h : Move plan t s i s')
    (asked : s'.AskedInOrder) (was : s.phase? i = some .idle) : i = back := by
  have hle := hl.back_le_of_idle was
  have hlt := lt_length_of_phase? was
  by_contra hne
  have hback : s.phase? back = some .idle := hl.idle back (Nat.le_refl back) (by omega)
  have hstill := (h.idle_iff hI back).mpr ⟨hback, fun e => hne e.symm⟩
  have hother := asked back i (by omega) (by rw [h.length_eq]; exact hlt) hstill
  exact ((h.idle_iff hI i).mp hother).2 rfl

/-- The line reads the members and the queue only. -/
theorem congr (hl : Lined s front back) (hm : s'.members = s.members) (hq : s'.queue = s.queue) :
    Lined s' front back := by
  have hphase : ∀ j, s'.phase? j = s.phase? j := fun j => by rw [State.phase?, hm]; rfl
  refine ⟨hl.front_le, ?_, fun j hj => ?_, fun j hf hb => ?_, fun j hb hj => ?_, ?_⟩
  · rw [hm]
    exact hl.back_le
  · rw [hphase]
    exact hl.entered j hj
  · rw [hphase]
    exact hl.queued j hf hb
  · rw [hphase]
    exact hl.idle j hb (by rwa [hm] at hj)
  · rw [hq]
    exact hl.queue

theorem length_setPhase (s : State σ) (i : Nat) (phase : Phase) :
    (s.setPhase i phase).members.length = s.members.length := by
  have hrequests := congrArg List.length (s.requests_setPhase i phase)
  simpa using hrequests

/-- A member goes on with its permit, or gives it back. -/
theorem setPhase (hl : Lined s front back) {old new : Phase} (was : s.phase? i = some old)
    (held : old.hasEntered = true) (holds : new.hasEntered = true) :
    Lined (s.setPhase i new) front back := by
  have hi := hl.lt_front was held
  refine ⟨hl.front_le, ?_, fun j hj => ?_, fun j hf hb => ?_, fun j hb hj => ?_, hl.queue⟩
  · rw [length_setPhase]
    exact hl.back_le
  · rcases eq_or_ne i j with rfl | hne
    · exact ⟨new, s.phase?_setPhase_self was new, holds⟩
    · rw [s.phase?_setPhase_ne hne]
      exact hl.entered j hj
  · rw [s.phase?_setPhase_ne (by omega)]
    exact hl.queued j hf hb
  · have hfb := hl.front_le
    rw [length_setPhase] at hj
    rw [s.phase?_setPhase_ne (by omega)]
    exact hl.idle j hb hj

/-- The first that has not asked joins the queue. -/
theorem enqueue (hl : Lined s front back) (was : s.phase? back = some .idle) :
    Lined { s.setPhase back .queued with queue := s.queue ++ [back] } front (back + 1) := by
  have hfb := hl.front_le
  have hlt := lt_length_of_phase? was
  refine ⟨by omega, ?_, fun j hj => ?_, fun j hf hb => ?_, fun j hb hj => ?_, ?_⟩
  · show back + 1 ≤ (s.setPhase back .queued).members.length
    rw [length_setPhase]
    exact hlt
  · show ∃ phase, (s.setPhase back .queued).phase? j = some phase ∧ phase.hasEntered = true
    rw [s.phase?_setPhase_ne (by omega)]
    exact hl.entered j hj
  · show (s.setPhase back .queued).phase? j = some .queued
    rcases eq_or_ne back j with rfl | hne
    · exact s.phase?_setPhase_self was _
    · rw [s.phase?_setPhase_ne hne]
      exact hl.queued j hf (by omega)
  · show (s.setPhase back .queued).phase? j = some .idle
    have hj : j < (s.setPhase back .queued).members.length := hj
    rw [length_setPhase] at hj
    rw [s.phase?_setPhase_ne (by omega)]
    exact hl.idle j (by omega) hj
  · show s.queue ++ [back] = List.range' front (back + 1 - front)
    have hsize : back + 1 - front = back - front + 1 := by omega
    have hend : front + 1 * (back - front) = back := by omega
    rw [hl.queue, hsize, List.range'_concat, hend]

/-- The first that has not asked gets its permit where nobody queues. -/
theorem enter (hl : Lined s back back) (was : s.phase? back = some .idle) {new : Phase}
    (holds : new.hasEntered = true) : Lined (s.setPhase back new) (back + 1) (back + 1) := by
  have hlt := lt_length_of_phase? was
  refine ⟨Nat.le_refl _, ?_, fun j hj => ?_, fun j hf hb => ?_, fun j hb hj => ?_, ?_⟩
  · rw [length_setPhase]
    exact hlt
  · rcases eq_or_ne back j with rfl | hne
    · exact ⟨new, s.phase?_setPhase_self was new, holds⟩
    · rw [s.phase?_setPhase_ne hne]
      exact hl.entered j (by omega)
  · omega
  · rw [length_setPhase] at hj
    rw [s.phase?_setPhase_ne (by omega)]
    exact hl.idle j (by omega) hj
  · show s.queue = _
    rw [hl.queue, Nat.sub_self, Nat.sub_self]
    rfl

theorem queue_eq_nil (hl : Lined s front back) : s.queue = [] ↔ front = back := by
  have hfb := hl.front_le
  rw [hl.queue, List.range'_eq_nil_iff]
  omega

theorem queue_eq_cons (hl : Lined s front back) (h : front < back) :
    s.queue = front :: List.range' (front + 1) (back - (front + 1)) := by
  have hsize : back - front = back - (front + 1) + 1 := by omega
  rw [hl.queue, hsize, List.range'_succ]

/-- The permit that is given back goes to the first in the queue, if there is one. -/
theorem release (hl : Lined s front back) :
    Lined s.release front back ∨ front < back ∧ Lined s.release (front + 1) back := by
  rcases Nat.eq_or_lt_of_le hl.front_le with heq | hlt
  · have hnil := hl.queue_eq_nil.mpr heq
    rw [State.release_of_empty hnil]
    exact .inl (hl.congr rfl rfl)
  · have hcons := hl.queue_eq_cons hlt
    have was := hl.queued front (Nat.le_refl front) hlt
    rw [State.release_of_cons hcons]
    refine .inr ⟨hlt, hlt, ?_, fun j hj => ?_, fun j hf hb => ?_, fun j hb hj => ?_, rfl⟩
    · show back ≤ (s.setPhase front .admitted).members.length
      rw [length_setPhase]
      exact hl.back_le
    · show ∃ phase, (s.setPhase front .admitted).phase? j = some phase ∧ phase.hasEntered = true
      rcases eq_or_ne front j with rfl | hne
      · exact ⟨.admitted, s.phase?_setPhase_self was _, rfl⟩
      · rw [s.phase?_setPhase_ne hne]
        exact hl.entered j (by omega)
    · show (s.setPhase front .admitted).phase? j = some .queued
      rw [s.phase?_setPhase_ne (by omega)]
      exact hl.queued j (by omega) hb
    · show (s.setPhase front .admitted).phase? j = some .idle
      have hj : j < (s.setPhase front .admitted).members.length := hj
      rw [length_setPhase] at hj
      rw [s.phase?_setPhase_ne (by omega)]
      exact hl.idle j hb hj

end Lined

/-! ## 3. What a move makes of the line -/

/-- What a move that keeps the order makes of the line. -/
inductive Shift (s : State σ) (front back : Nat) (s' : State σ) : Prop
  /-- Nothing. -/
  | stays (lined : Lined s' front back)
  /-- The first that has not asked joins the queue. -/
  | queues (was : s.phase? back = some .idle) (lined : Lined s' front (back + 1))
  /-- The first that has not asked gets its permit, and nobody queued. -/
  | enters (was : s.phase? back = some .idle) (eq : front = back)
      (lined : Lined s' (back + 1) (back + 1))
  /-- Somebody has ended, and the first in the queue gets its permit. -/
  | admits (waited : front < back) (lined : Lined s' (front + 1) back)

/-- **A move that keeps the order leaves the line as it is, or moves one of its marks by one.** -/
theorem Lined.move {front back : Nat} (hl : Lined s front back) (hI : Permits k s)
    (h : Move plan t s i s') (asked : s'.AskedInOrder) : Shift s front back s' := by
  have turn : s.phase? i = some .idle → i = back := hl.eq_back hI h asked
  cases h with
  | enqueue r hi full =>
      have was := State.phase?_of_member hi
      obtain rfl := turn was
      exact .queues was (hl.enqueue was)
  | enter r hi room =>
      have was := State.phase?_of_member hi
      obtain rfl := turn was
      have hempty : s.queue = [] := by
        by_contra hne
        have := hI.busy hne
        omega
      obtain rfl := hl.queue_eq_nil.mp hempty
      have hnew : Lined (s.setPhase front (s.callingNow plan t r 0)) (front + 1) (front + 1) :=
        hl.enter was rfl
      exact .enters was rfl (hnew.congr rfl rfl)
  | begin r hi =>
      have hnew : Lined (s.setPhase i (s.callingNow plan t r 0)) front back :=
        hl.setPhase (State.phase?_of_member hi) rfl rfl
      exact .stays (hnew.congr rfl rfl)
  | resume r made due hi rung =>
      have hnew : Lined (s.setPhase i (s.callingNow plan t r made)) front back :=
        hl.setPhase (State.phase?_of_member hi) rfl rfl
      exact .stays (hnew.congr rfl rfl)
  | rest r made due reply wait notice hi arrived again =>
      have hnew : Lined (s.setPhase i (.resting (made + 1) (s.moment.now + wait.restMillis)))
          front back := hl.setPhase (State.phase?_of_member hi) rfl rfl
      exact .stays (hnew.congr rfl rfl)
  | finish r made due reply ending hi arrived stop =>
      have hnew : Lined (s.setPhase i (.finished s.moment.now ending)) front back :=
        hl.setPhase (State.phase?_of_member hi) rfl rfl
      rcases hnew.release with hlined | ⟨hlt, hlined⟩
      · exact .stays hlined
      · exact .admits hlt hlined

end Group

end Courier
