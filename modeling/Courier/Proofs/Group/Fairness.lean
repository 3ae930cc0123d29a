import Courier.Proofs.Group.Line
import Courier.Proofs.Group.Turns

/-!
# The run in turns keeps the input order

In the run of a group in turns (`Schedule.run`) members ask for permits in input order. Those that
have not asked are among those who can act, they stand there in input order, and none of them has
begun its turn (`Schedule.Fair`). So the member at the head passes nobody over when it asks, and the
run comes to an end of the group in which members queue in input order (`dispatch_inOrder`).
-/

namespace Courier.Group

variable {σ : Type} {plan : RetryPlan} {t : Transport σ} {k : Nat} {requests : List Request}
  {m : Moment σ}

namespace Schedule

/-! ## 1. What a turn does -/

/-- What a turn of the member `i` at the head makes of the run. -/
inductive Taken (plan : RetryPlan) (t : Transport σ) (s : Schedule σ) (i : Nat) (rest : List Nat)
    (s' : Schedule σ) : Prop
  /-- In the middle of its turn it breaks off. -/
  | breaksOff (mid : s.spent ≠ 0) (eq : s' = s.breakOff i rest)
  /-- It acts and stays at the head. -/
  | stays (state : s'.state = s.state.act plan t i) (ready : s'.ready = i :: rest)
      (brokenOff : s'.brokenOff = s.brokenOff)
  /-- It acts and leaves the head; those that it admits join the others. -/
  | leaves (admitted : List Nat) (state : s'.state = s.state.act plan t i) (spent : s'.spent = 0)
      (ready : s'.ready = rest ++ admitted) (waited : ∀ j ∈ admitted, j ∈ s.state.queue)
      (brokenOff : ∀ j ∈ s'.brokenOff, j = i ∨ j ∈ s.brokenOff)

variable {s : Schedule σ} {i : Nat} {rest : List Nat}

theorem taken_turn (hready : s.ready = i :: rest) :
    Taken plan t s i rest (s.turn plan t i rest) := by
  by_cases hover : maxUnits < s.spent + s.units i
  · exact .breaksOff (spent_ne_zero_of_over hover) (turn_of_over hover)
  have hnil : ∀ j ∈ ([] : List Nat), j ∈ s.state.queue := fun _ hj => absurd hj List.not_mem_nil
  rw [turn, if_neg hover]
  dsimp only
  -- where the member is after it has acted
  split
  · split
    · exact .stays rfl hready rfl
    · split
      · exact .leaves [] rfl rfl (List.append_nil rest).symm hnil fun j hj => List.mem_cons.mp hj
      · exact .leaves [] rfl rfl (List.append_nil rest).symm hnil fun j hj => .inr hj
  · split
    · exact .stays rfl hready rfl
    · split
      · exact .leaves [] rfl rfl (List.append_nil rest).symm hnil fun j hj => List.mem_cons.mp hj
      · exact .leaves [] rfl rfl (List.append_nil rest).symm hnil fun j hj => .inr hj
  · exact .leaves _ rfl rfl rfl (fun j hj => List.mem_of_mem_take hj) fun j hj => .inr hj
  · exact .leaves [] rfl rfl (List.append_nil rest).symm hnil fun j hj => .inr hj

/-! ## 2. The order in which members ask -/

/-- The invariant of the order in which members ask. -/
structure Fair (plan : RetryPlan) (t : Transport σ) (s₀ : State σ) (s : Schedule σ) : Prop where
  orderly : Orderly plan t s₀ s
  inOrder : InOrder plan t s₀ s.state
  /-- Of those who can act, the ones that have not asked stand in input order. -/
  sorted : s.ready.Pairwise fun i j =>
    s.state.phase? i = some .idle → s.state.phase? j = some .idle → i < j
  /-- Whoever broke off has asked. -/
  asked : ∀ i ∈ s.brokenOff, s.state.phase? i ≠ some .idle
  /-- So has whoever is in the middle of its turn. -/
  begun : s.spent ≠ 0 → ∀ i rest, s.ready = i :: rest → s.state.phase? i ≠ some .idle

namespace Fair

/-- Nobody that comes before the member at the head has yet to ask when that one asks. -/
theorem no_idle_before {s₀ : State σ} (h : Fair plan t s₀ s) (hready : s.ready = i :: rest)
    (hi : s.state.phase? i = some .idle) : ∀ j < i, s.state.phase? j ≠ some .idle := by
  intro j hj hidle
  have hsorted := h.sorted
  rw [hready] at hsorted
  rcases h.orderly.placed.known j .idle hidle rfl with hr | hb | ⟨d, ht⟩
  · rw [hready] at hr
    rcases List.mem_cons.mp hr with rfl | hr
    · exact Nat.lt_irrefl j hj
    · have := (List.pairwise_cons.mp hsorted).1 j hr hi hidle
      omega
  · exact h.asked j hb hidle
  · obtain ⟨phase, hphase, hdue, -⟩ := h.orderly.placed.timed d j ht
    rw [hidle] at hphase
    cases hphase
    cases hdue

/-- What the member at the head does keeps the order, and leaves as many others that have not
    asked. -/
theorem act (h : Fair plan t (.start requests k m) s) (hready : s.ready = i :: rest) :
    InOrder plan t (.start requests k m) (s.state.act plan t i) ∧
      ∀ j, (s.state.act plan t i).phase? j = some .idle →
        s.state.phase? j = some .idle ∧ j ≠ i := by
  have hI := h.orderly.reachable.permits
  by_cases hcan : s.state.CanAct i
  · have hmove : Move plan t s.state i (s.state.act plan t i) := move_of_canAct hcan
    have hasked := hmove.askedInOrder hI h.inOrder.askedInOrder (h.no_idle_before hready)
    exact ⟨.step _ _ h.inOrder (.act s.state i hcan) hasked, fun j => (hmove.idle_iff hI j).mp⟩
  · rw [act_of_not_canAct hcan]
    refine ⟨h.inOrder, fun j hj => ⟨hj, ?_⟩⟩
    rintro rfl
    exact hcan ⟨.idle, hj, rfl⟩

theorem turn (h : Fair plan t (.start requests k m) s) (hready : s.ready = i :: rest) :
    Fair plan t (.start requests k m) (s.turn plan t i rest) := by
  have horderly := (h.orderly.turn hready).orderly
  have hsorted := h.sorted
  rw [hready] at hsorted
  obtain ⟨hinOrder, hidle⟩ := h.act hready
  have hkept : ∀ {l : List Nat}, (l.Pairwise fun a b =>
        s.state.phase? a = some .idle → s.state.phase? b = some .idle → a < b) →
      l.Pairwise fun a b => (s.state.act plan t i).phase? a = some .idle →
        (s.state.act plan t i).phase? b = some .idle → a < b :=
    fun hl => hl.imp fun hab ha hb => hab (hidle _ ha).1 (hidle _ hb).1
  have htaken : Taken plan t s i rest (s.turn plan t i rest) := taken_turn hready
  cases htaken with
  | breaksOff mid eq =>
      rw [eq]
      rw [eq] at horderly
      refine ⟨horderly, h.inOrder, (List.pairwise_cons.mp hsorted).2, fun j hj => ?_,
        fun hne => absurd rfl hne⟩
      rcases List.mem_cons.mp hj with rfl | hj
      · exact h.begun mid j rest hready
      · exact h.asked j hj
  | stays state ready brokenOff =>
      refine ⟨horderly, ?_, ?_, ?_, ?_⟩
      · rw [state]
        exact hinOrder
      · rw [state, ready]
        exact hkept hsorted
      · rw [state, brokenOff]
        exact fun j hj hj' => h.asked j hj (hidle j hj').1
      · rw [state, ready]
        rintro - j rest' heq hj
        obtain rfl : i = j := (List.cons.inj heq).1
        exact (hidle i hj).2 rfl
  | leaves admitted state spent ready waited brokenOff =>
      refine ⟨horderly, ?_, ?_, ?_, fun hne => absurd spent hne⟩
      · rw [state]
        exact hinOrder
      · -- those that are admitted have asked, so only the others matter
        have hwaited : ∀ j ∈ admitted, (s.state.act plan t i).phase? j ≠ some .idle := by
          intro j hj hj'
          have hqueued := (h.orderly.reachable.permits.mem_queue j).mp (waited j hj)
          rw [(hidle j hj').1] at hqueued
          cases hqueued
        rw [state, ready]
        refine List.pairwise_append.mpr ⟨hkept (List.pairwise_cons.mp hsorted).2, ?_, ?_⟩
        · exact List.pairwise_of_forall_mem_list fun a ha _ _ ha' => absurd ha' (hwaited a ha)
        · exact fun _ _ b hb _ hb' => absurd hb' (hwaited b hb)
      · rw [state]
        intro j hj hj'
        obtain ⟨hwas, hne⟩ := hidle j hj'
        rcases brokenOff j hj with rfl | hj
        · exact hne rfl
        · exact h.asked j hj hwas

theorem pause (h : Fair plan t (.start requests k m) s)
    (horderly : Orderly plan t (.start requests k m) s.pause) (hspent : s.spent = 0) :
    Fair plan t (.start requests k m) s.pause where
  orderly := horderly
  inOrder := h.inOrder
  sorted := by
    show (s.ready ++ s.brokenOff).Pairwise _
    refine List.pairwise_append.mpr ⟨h.sorted, ?_, ?_⟩
    · exact List.pairwise_of_forall_mem_list fun a ha _ _ ha' => absurd ha' (h.asked a ha)
    · exact fun _ _ b hb _ hb' => absurd hb' (h.asked b hb)
  asked _ hj := absurd hj List.not_mem_nil
  begun hne := absurd hspent hne

theorem ring {due : Nat} (h : Fair plan t (.start requests k m) s) (hready : s.ready = [])
    (hbroken : s.brokenOff = []) (hdue : nextRing? s.timers = some due) :
    Fair plan t (.start requests k m) (s.ring due) := by
  have hasked : (s.state.atTime due).AskedInOrder := h.inOrder.askedInOrder
  refine ⟨(h.orderly.ring hready hbroken hdue).orderly,
    .step _ _ h.inOrder (h.orderly.tick hready hbroken hdue) hasked, ?_,
    fun _ hj => absurd hj List.not_mem_nil, fun hne => absurd rfl hne⟩
  -- whoever sets a timer has asked
  refine List.pairwise_of_forall_mem_list fun a ha _ _ ha' _ => ?_
  obtain ⟨⟨d, j⟩, hmem, rfl⟩ := List.mem_map.mp ha
  obtain ⟨phase, hphase, hd, -⟩ := h.orderly.placed.timed d j (List.mem_filter.mp hmem).1
  have hidle : s.state.phase? j = some .idle := ha'
  rw [hidle] at hphase
  cases hphase
  cases hd

/-- **Every step of the run keeps the order in which members ask.** -/
theorem step {s' : Schedule σ} (h : Fair plan t (.start requests k m) s)
    (hs : s.step? plan t = some s') : Fair plan t (.start requests k m) s' := by
  have horderly := (h.orderly.step hs).orderly
  cases hready : s.ready with
  | cons i rest =>
      rw [step?, hready] at hs
      obtain rfl := Option.some.inj hs
      by_cases hpause : s.spent = 0 ∧ turnsBetweenPauses ≤ s.turns
      · rw [if_pos hpause] at horderly ⊢
        exact h.pause horderly hpause.1
      · rw [if_neg hpause]
        exact h.turn hready
  | nil =>
      have hspent := h.orderly.spent_eq_zero hready
      cases hbroken : s.brokenOff with
      | cons i rest =>
          rw [step?, hready, hbroken] at hs
          obtain rfl := Option.some.inj hs
          exact h.pause horderly hspent
      | nil =>
          rw [step?, hready, hbroken] at hs
          obtain ⟨due, hdue, rfl⟩ := Option.map_eq_some_iff.mp hs
          exact h.ring hready hbroken hdue

theorem run (fuel : Nat) {s : Schedule σ} (h : Fair plan t (.start requests k m) s) :
    Fair plan t (.start requests k m) (s.run plan t fuel) := by
  induction fuel generalizing s with
  | zero => exact h
  | succ fuel ih =>
    rw [Schedule.run]
    cases hs : s.step? plan t with
    | none => exact h
    | some s' => exact ih (h.step hs)

end Fair

theorem fair_start : Fair plan t (.start requests k m) (Schedule.start requests k m) where
  orderly := orderly_start
  inOrder := .start
  sorted := List.pairwise_lt_range.imp fun hlt _ _ => hlt
  asked _ hj := absurd hj List.not_mem_nil
  begun hne := absurd rfl hne

end Schedule

/-! ## 3. The run -/

/-- **The run in turns comes to an end at which members have queued in input order.** -/
theorem run_completeInOrder :
    CompleteInOrder plan t (.start requests k m)
      (Schedule.run plan t (Schedule.bound plan requests.length) (.start requests k m)).state where
  inOrder := (Schedule.fair_start.run (Schedule.bound plan requests.length)).inOrder
  stuck s' hs _ := run_complete.stuck s' hs

/-- **A wish that can be met is answered with what the group has come to at such an end.** -/
theorem dispatch_inOrder {wish : UInt64} (possible : max 1 wish.toNat ≤ maxPermits) :
    ∃ s, CompleteInOrder plan t (.start requests (max 1 wish.toNat) m) s ∧
      dispatch? plan t requests wish m = some s.dispatched := by
  refine ⟨_, run_completeInOrder, ?_⟩
  rw [dispatch?, permits?, if_pos possible]
  rfl

end Courier.Group
