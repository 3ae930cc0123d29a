import Courier.Group.Run
import Courier.Proofs.Group.Places

/-!
# The run of a group in turns

`Schedule.run` is one of the runs that a group can have. Each of its steps is a step of the group or
none at all, because of an invariant on the places of the members (`Schedule.Orderly`). Each of its
steps also lowers a potential that is no more than `Schedule.bound` at first, so the run comes to an
end of the group (`run_complete`), and what it is answered with is what the group has come to there
(`dispatch_complete`).
-/

namespace Courier.Group

variable {σ : Type} {plan : RetryPlan} {t : Transport σ} {k : Nat} {requests : List Request}
  {m : Moment σ}

/-! ## 1. What a step of the run lowers -/

namespace Schedule

/-- What every step of the run lowers. A move is worth six, since it may be followed by a turn
    broken off, a pause, a turn that only sets a timer, and the timer. -/
def potential (plan : RetryPlan) (s : Schedule σ) : Nat :=
  6 * s.state.rank plan + s.state.lags s.ready + (s.state.lags s.brokenOff + s.brokenOff.length) +
    s.timers.length + s.turns + if s.spent = 0 then 0 else 3

/-- The invariant of the run. -/
structure Orderly (plan : RetryPlan) (t : Transport σ) (s₀ : State σ) (s : Schedule σ) : Prop where
  reachable : Reachable plan t s₀ s.state
  placed : Placed s.state s.ready s.brokenOff s.timers
  /-- Only a member that can act is in the middle of its turn. -/
  midTurn : s.spent ≠ 0 → ∃ i rest, s.ready = i :: rest ∧ s.state.CanAct i

/-! ## 2. Turns -/

section Turns

variable {s : Schedule σ} {i : Nat} {rest : List Nat}

/-- To begin a turn takes one unit. -/
theorem units_of_spent_eq_zero (h : s.spent = 0) : s.units i = 1 := if_pos h

theorem turn_of_over (h : maxUnits < s.spent + s.units i) :
    s.turn plan t i rest = s.breakOff i rest := if_pos h

/-- A turn after which the member waits for a time. -/
theorem turn_of_due {phase : Phase} {d : Nat} (h : ¬ maxUnits < s.spent + s.units i)
    (hp : (s.state.act plan t i).phase? i = some phase) (hd : phase.due? = some d) :
    s.turn plan t i rest =
      if d ≤ (s.state.act plan t i).moment.now then
        { s with state := s.state.act plan t i, spent := s.spent + s.units i }
      else if s.spent + s.units i = maxUnits then
        breakOff { s with state := s.state.act plan t i } i rest
      else
        { endTurn { s with state := s.state.act plan t i } rest with
          timers := s.timers ++ [(d, i)] } := by
  rw [turn, if_neg h]
  dsimp only
  rw [hp]
  cases phase with
  | calling made due reply =>
      cases hd
      rfl
  | resting made due =>
      cases hd
      rfl
  | _ => cases hd

theorem turn_of_queued (h : ¬ maxUnits < s.spent + s.units i)
    (hp : (s.state.act plan t i).phase? i = some .queued) :
    s.turn plan t i rest = endTurn { s with state := s.state.act plan t i } rest := by
  rw [turn, if_neg h]
  dsimp only
  rw [hp]

theorem turn_of_finished {time : Nat} {ending : Ending} (h : ¬ maxUnits < s.spent + s.units i)
    (hp : (s.state.act plan t i).phase? i = some (.finished time ending)) :
    s.turn plan t i rest =
      endTurn { s with state := s.state.act plan t i } (rest ++ s.state.queue.take 1) := by
  rw [turn, if_neg h]
  dsimp only
  rw [hp]

theorem spent_add_units_ne_zero : s.spent + s.units i ≠ 0 := by
  by_cases h : s.spent = 0
  · rw [units_of_spent_eq_zero h]
    exact Nat.succ_ne_zero _
  · omega

theorem potential_of_ready (h : s.ready = i :: rest) :
    s.potential plan = 6 * s.state.rank plan + (s.state.lag i + s.state.lags rest) +
      (s.state.lags s.brokenOff + s.brokenOff.length) + s.timers.length + s.turns +
      if s.spent = 0 then 0 else 3 := by
  rw [potential, h, State.lags_cons]

/-- A step of the run keeps the invariant and lowers the potential. -/
structure Onward (plan : RetryPlan) (t : Transport σ) (s₀ : State σ) (s s' : Schedule σ) :
    Prop where
  orderly : Orderly plan t s₀ s'
  lower : s'.potential plan < s.potential plan

/-- A member in the middle of its turn breaks off. -/
theorem Orderly.breakOff {s₀ : State σ} (h : Orderly plan t s₀ s) (hready : s.ready = i :: rest)
    (hspent : s.spent ≠ 0) : Onward plan t s₀ s (s.breakOff i rest) where
  orderly := by
    have hplaced := h.placed
    rw [hready] at hplaced
    exact ⟨h.reachable, hplaced.breakOff, fun hne => absurd rfl hne⟩
  lower := by
    rw [potential_of_ready hready, if_neg hspent]
    show 6 * s.state.rank plan + s.state.lags rest +
      (s.state.lags (i :: s.brokenOff) + (s.brokenOff.length + 1)) + s.timers.length +
      (s.turns + 1) + 0 < _
    rw [State.lags_cons]
    omega

/-- A member that is called on before it is due sets its timer. -/
theorem Orderly.turn_of_not_canAct {s₀ : State σ} (h : Orderly plan t s₀ s)
    (hready : s.ready = i :: rest) (hnot : ¬ s.state.CanAct i) :
    Onward plan t s₀ s (s.turn plan t i rest) := by
  have hplaced := h.placed
  rw [hready] at hplaced
  obtain ⟨phase, hphase, hact⟩ := hplaced.active i (.inl List.mem_cons_self)
  obtain ⟨d, hd, hlt⟩ := Phase.exists_due hact fun hr => hnot ⟨phase, hphase, hr⟩
  have hspent : s.spent = 0 := by
    by_contra hne
    obtain ⟨j, rest', hj, hcan⟩ := h.midTurn hne
    rw [hready] at hj
    cases hj
    exact hnot hcan
  have hunits : s.spent + s.units i = 1 := by rw [units_of_spent_eq_zero hspent, hspent]
  have hsame : s.state.act plan t i = s.state := act_of_not_canAct hnot
  have hturn : s.turn plan t i rest =
      { endTurn s rest with timers := s.timers ++ [(d, i)] } := by
    rw [turn_of_due (by rw [hunits]; decide) (hsame.symm ▸ hphase) hd, hsame,
      if_neg (Nat.not_le_of_lt hlt), hunits, if_neg (by decide)]
  rw [hturn]
  refine ⟨⟨h.reachable, hplaced.setTimer hphase hd hlt, fun hne => absurd rfl hne⟩, ?_⟩
  rw [potential_of_ready hready, State.lag_of_not_canAct hnot, if_pos hspent]
  show 6 * s.state.rank plan + s.state.lags rest +
    (s.state.lags s.brokenOff + s.brokenOff.length) + (s.timers ++ [(d, i)]).length +
    (s.turns + 1) + 0 < _
  rw [List.length_append, List.length_singleton]
  omega

theorem spent_ne_zero_of_over (h : maxUnits < s.spent + s.units i) : s.spent ≠ 0 := by
  intro hspent
  rw [units_of_spent_eq_zero hspent, hspent] at h
  exact absurd h (by decide)

/-- A member acts and then waits for a time: it goes on where the time has come, else it breaks off
    or sets a timer. -/
theorem Orderly.turn_of_waits (h : Orderly plan t (.start requests k m) s)
    (hready : s.ready = i :: rest) (hcan : s.state.CanAct i) {phase : Phase} {d : Nat}
    (self : (s.state.act plan t i).phase? i = some phase) (hd : phase.due? = some d)
    (others : ∀ j, i ≠ j → (s.state.act plan t i).phase? j = s.state.phase? j) :
    Onward plan t (.start requests k m) s (s.turn plan t i rest) := by
  by_cases hover : maxUnits < s.spent + s.units i
  · rw [turn_of_over hover]
    exact h.breakOff hready (spent_ne_zero_of_over hover)
  have hmove : Move plan t s.state i (s.state.act plan t i) := move_of_canAct hcan
  have hreach := Reachable.step _ _ h.reachable (.act s.state i hcan)
  have hrank := hmove.rank_lt h.reachable
  have hlag := (s.state.act plan t i).lag_le i
  have hplaced := h.placed
  rw [hready] at hplaced
  have hplaced' := hplaced.act self (Phase.isActive_of_due? hd) others hmove.now
  obtain ⟨hrest, hbroken⟩ := hplaced.lags_eq [] (fun j hne _ => others j hne)
    (fun j hj => absurd hj List.not_mem_nil) hmove.now
  rw [turn_of_due hover self hd]
  split
  · rename_i hle
    have hcan' : (s.state.act plan t i).CanAct i :=
      ⟨phase, self, (Phase.isReady_of_due? hd).mpr hle⟩
    refine ⟨⟨hreach, ?_, fun _ => ⟨i, rest, hready, hcan'⟩⟩, ?_⟩
    · show Placed (s.state.act plan t i) s.ready s.brokenOff s.timers
      rw [hready]
      exact hplaced'
    · rw [potential_of_ready hready]
      show 6 * (s.state.act plan t i).rank plan + (s.state.act plan t i).lags s.ready +
        ((s.state.act plan t i).lags s.brokenOff + s.brokenOff.length) + s.timers.length + s.turns +
        (if s.spent + s.units i = 0 then 0 else 3) < _
      rw [hready, State.lags_cons, State.lag_of_canAct hcan', hrest, hbroken,
        if_neg spent_add_units_ne_zero]
      omega
  · rename_i hlt
    split
    · refine ⟨⟨hreach, hplaced'.breakOff, fun hne => absurd rfl hne⟩, ?_⟩
      rw [potential_of_ready hready]
      show 6 * (s.state.act plan t i).rank plan + (s.state.act plan t i).lags rest +
        ((s.state.act plan t i).lags (i :: s.brokenOff) + (s.brokenOff.length + 1)) +
        s.timers.length + (s.turns + 1) + 0 < _
      rw [State.lags_cons, hrest, hbroken]
      omega
    · have hset := hplaced'.setTimer self hd (Nat.lt_of_not_le hlt)
      refine ⟨⟨hreach, hset, fun hne => absurd rfl hne⟩, ?_⟩
      rw [potential_of_ready hready]
      show 6 * (s.state.act plan t i).rank plan + (s.state.act plan t i).lags rest +
        ((s.state.act plan t i).lags s.brokenOff + s.brokenOff.length) +
        (s.timers ++ [(d, i)]).length + (s.turns + 1) + 0 < _
      rw [hrest, hbroken, List.length_append, List.length_singleton]
      omega

/-- A member acts and then acts by itself no more; those that it admits join those who can act. -/
theorem Orderly.turn_of_leaves (h : Orderly plan t (.start requests k m) s)
    (hready : s.ready = i :: rest) (hcan : s.state.CanAct i) {phase : Phase} (admitted : List Nat)
    (self : (s.state.act plan t i).phase? i = some phase) (hact : phase.isActive = false)
    (others : ∀ j, i ≠ j → j ∉ admitted → (s.state.act plan t i).phase? j = s.state.phase? j)
    (admits : ∀ j ∈ admitted, (s.state.act plan t i).phase? j = some .admitted)
    (waited : ∀ j ∈ admitted, s.state.phase? j = some .queued) (nodup : admitted.Nodup)
    (hturn : ¬ maxUnits < s.spent + s.units i → s.turn plan t i rest =
      endTurn { s with state := s.state.act plan t i } (rest ++ admitted)) :
    Onward plan t (.start requests k m) s (s.turn plan t i rest) := by
  by_cases hover : maxUnits < s.spent + s.units i
  · rw [turn_of_over hover]
    exact h.breakOff hready (spent_ne_zero_of_over hover)
  have hmove : Move plan t s.state i (s.state.act plan t i) := move_of_canAct hcan
  have hreach := Reachable.step _ _ h.reachable (.act s.state i hcan)
  have hrank := hmove.rank_lt h.reachable
  have hplaced := h.placed
  rw [hready] at hplaced
  obtain ⟨hrest, hbroken⟩ := hplaced.lags_eq admitted others waited hmove.now
  have hadmitted : (s.state.act plan t i).lags admitted = 0 :=
    State.lags_of_canAct fun j hj => ⟨.admitted, admits j hj, rfl⟩
  rw [hturn hover]
  refine ⟨⟨hreach, hplaced.leave self hact others admits waited nodup hmove.now,
    fun hne => absurd rfl hne⟩, ?_⟩
  rw [potential_of_ready hready]
  show 6 * (s.state.act plan t i).rank plan + (s.state.act plan t i).lags (rest ++ admitted) +
    ((s.state.act plan t i).lags s.brokenOff + s.brokenOff.length) + s.timers.length +
    (s.turns + 1) + 0 < _
  rw [State.lags_append, hrest, hbroken, hadmitted]
  omega

/-- **Every turn keeps the invariant and lowers the potential.** -/
theorem Orderly.turn (h : Orderly plan t (.start requests k m) s) (hready : s.ready = i :: rest) :
    Onward plan t (.start requests k m) s (s.turn plan t i rest) := by
  by_cases hcan : s.state.CanAct i
  · have hI := h.reachable.permits
    have hmove : Move plan t s.state i (s.state.act plan t i) := move_of_canAct hcan
    cases hmove.landed hI with
    | waits self due others => exact h.turn_of_waits hready hcan self due others
    | queues self others =>
        refine h.turn_of_leaves hready hcan [] self rfl (fun j hne _ => others j hne)
          (fun j hj => absurd hj List.not_mem_nil) (fun j hj => absurd hj List.not_mem_nil)
          List.nodup_nil fun hover => ?_
        rw [turn_of_queued hover self, List.append_nil]
    | ends self others admits =>
        refine h.turn_of_leaves hready hcan _ self rfl others admits
          (fun j hj => (hI.mem_queue j).mp (List.mem_of_mem_take hj)) ?_
          fun hover => turn_of_finished hover self
        exact hI.nodup.sublist (List.take_sublist 1 _)
  · exact h.turn_of_not_canAct hready hcan

/-! ## 3. Steps -/

/-- Those who broke off can act again, where a pause has something to do. -/
theorem Orderly.pause {s₀ : State σ} (h : Orderly plan t s₀ s) (hspent : s.spent = 0)
    (due : s.brokenOff ≠ [] ∨ turnsBetweenPauses ≤ s.turns) : Onward plan t s₀ s s.pause where
  orderly := ⟨h.reachable, h.placed.pause, fun hne => absurd hspent hne⟩
  lower := by
    have hpositive : 0 < s.brokenOff.length + s.turns := by
      rcases due with hne | hturns
      · exact Nat.add_pos_left (List.length_pos_iff.mpr hne) _
      · exact Nat.add_pos_right _ (Nat.lt_of_lt_of_le (by decide) hturns)
    show 6 * s.state.rank plan + s.state.lags (s.ready ++ s.brokenOff) + (0 + 0) +
      s.timers.length + 0 + (if s.spent = 0 then 0 else 3) <
      6 * s.state.rank plan + s.state.lags s.ready + (s.state.lags s.brokenOff +
      s.brokenOff.length) + s.timers.length + s.turns + (if s.spent = 0 then 0 else 3)
    rw [State.lags_append]
    omega

theorem Orderly.spent_eq_zero {s₀ : State σ} (h : Orderly plan t s₀ s) (hready : s.ready = []) :
    s.spent = 0 := by
  by_contra hne
  obtain ⟨i, rest, hcons, -⟩ := h.midTurn hne
  rw [hready] at hcons
  cases hcons

/-- When nobody can act, time may pass to the first timer. -/
theorem Orderly.tick {s₀ : State σ} {due : Nat} (h : Orderly plan t s₀ s) (hready : s.ready = [])
    (hbroken : s.brokenOff = []) (hdue : nextRing? s.timers = some due) :
    Step plan t s.state (s.state.atTime due) := by
  obtain ⟨known, least⟩ := List.min?_eq_some_iff.mp hdue
  have hplaced := h.placed
  rw [hready, hbroken] at hplaced
  exact .tick s.state due hplaced.not_canAct ((hplaced.mem_dues_iff due).mpr known)
    fun d hd => least d ((hplaced.mem_dues_iff d).mp hd)

/-- The first timer rings when nobody can act. -/
theorem Orderly.ring {s₀ : State σ} {due : Nat} (h : Orderly plan t s₀ s) (hready : s.ready = [])
    (hbroken : s.brokenOff = []) (hdue : nextRing? s.timers = some due) :
    Onward plan t s₀ s (s.ring due) := by
  have htick := h.tick hready hbroken hdue
  obtain ⟨known, least⟩ := List.min?_eq_some_iff.mp hdue
  have hplaced := h.placed
  rw [hready, hbroken] at hplaced
  refine ⟨⟨.step _ _ h.reachable htick, hplaced.ring least, fun hne => absurd rfl hne⟩, ?_⟩
  have hrung : (s.state.atTime due).lags ((s.timers.filter (·.1 == due)).map (·.2)) = 0 := by
    refine State.lags_of_canAct fun i hi => ?_
    obtain ⟨⟨d, j⟩, hmem, rfl⟩ := List.mem_map.mp hi
    obtain ⟨hmem, hd⟩ := List.mem_filter.mp hmem
    obtain ⟨phase, hphase, hphased, -⟩ := hplaced.timed d j hmem
    exact ⟨phase, hphase, (Phase.isReady_of_due? hphased).mpr (Nat.le_of_eq (eq_of_beq hd))⟩
  have hfewer : (s.timers.filter (·.1 != due)).length < s.timers.length := by
    obtain ⟨⟨d, j⟩, hmem, rfl⟩ := List.mem_map.mp known
    exact List.length_filter_lt_length_iff_exists.mpr ⟨_, hmem, by rw [bne_self_eq_false]; nofun⟩
  have hpotential : 6 * s.state.rank plan + s.timers.length ≤ s.potential plan := by
    rw [potential]
    omega
  show 6 * s.state.rank plan +
    (s.state.atTime due).lags ((s.timers.filter (·.1 == due)).map (·.2)) + (0 + 0) +
    (s.timers.filter (·.1 != due)).length + 0 + 0 < _
  rw [hrung]
  omega

/-- **Every step of the run keeps the invariant and lowers the potential.** -/
theorem Orderly.step {s' : Schedule σ} (h : Orderly plan t (.start requests k m) s)
    (hs : s.step? plan t = some s') : Onward plan t (.start requests k m) s s' := by
  cases hready : s.ready with
  | cons i rest =>
      rw [step?, hready] at hs
      obtain rfl := Option.some.inj hs
      split
      · rename_i hpause
        exact h.pause hpause.1 (.inr hpause.2)
      · exact h.turn hready
  | nil =>
      have hspent := h.spent_eq_zero hready
      cases hbroken : s.brokenOff with
      | cons i rest =>
          rw [step?, hready, hbroken] at hs
          obtain rfl := Option.some.inj hs
          exact h.pause hspent (.inl (by rw [hbroken]; exact List.cons_ne_nil i rest))
      | nil =>
          rw [step?, hready, hbroken] at hs
          obtain ⟨due, hdue, rfl⟩ := Option.map_eq_some_iff.mp hs
          exact h.ring hready hbroken hdue

/-- With as many steps as the potential allows for, the run comes to its end. -/
theorem Orderly.run (fuel : Nat) {s : Schedule σ} (h : Orderly plan t (.start requests k m) s)
    (enough : s.potential plan ≤ fuel) :
    Orderly plan t (.start requests k m) (s.run plan t fuel) ∧
      (s.run plan t fuel).step? plan t = none := by
  induction fuel generalizing s with
  | zero =>
    refine ⟨h, ?_⟩
    cases hs : s.step? plan t with
    | none => exact hs
    | some s' =>
        have hlower := (h.step hs).lower
        omega
  | succ fuel ih =>
    cases hs : s.step? plan t with
    | none =>
        rw [Schedule.run, hs]
        exact ⟨h, hs⟩
    | some s' =>
        obtain ⟨horderly, hlower⟩ := h.step hs
        rw [Schedule.run, hs]
        exact ih horderly (by omega)

/-- Where the run stops, no step of the group is left. -/
theorem Orderly.complete {s₀ : State σ} (h : Orderly plan t s₀ s) (hs : s.step? plan t = none) :
    Complete plan t s₀ s.state := by
  refine ⟨h.reachable, fun s' hstep => ?_⟩
  cases hready : s.ready with
  | cons i rest =>
      rw [step?, hready] at hs
      cases hs
  | nil =>
      cases hbroken : s.brokenOff with
      | cons i rest =>
          rw [step?, hready, hbroken] at hs
          cases hs
      | nil =>
          rw [step?, hready, hbroken, Option.map_eq_none_iff, nextRing?,
            List.min?_eq_none_iff] at hs
          have hplaced := h.placed
          rw [hready, hbroken] at hplaced
          rcases hstep.cases with ⟨i, hcan, -⟩ | ⟨due, -, known, -, -⟩
          · exact hplaced.not_canAct i hcan
          · have hmem := (hplaced.mem_dues_iff due).mp known
            rw [hs] at hmem
            exact List.not_mem_nil hmem

end Turns

/-! ## 4. The run -/

theorem orderly_start :
    Orderly plan t (.start requests k m) (Schedule.start requests k m) where
  reachable := .start
  placed := Placed.start
  midTurn h := absurd rfl h

theorem potential_start_le :
    (Schedule.start requests k m).potential plan ≤ bound plan requests.length := by
  have hready : ((State.start requests k m).lags (List.range requests.length)) = 0 := by
    refine State.lags_of_canAct fun i hi => ?_
    exact ⟨.idle, phase?_start_of_lt (List.mem_range.mp hi), rfl⟩
  have hrank : (State.start requests k m).rank plan = requests.length * (2 * plan.budget + 1) :=
    tally_start _ requests k m
  have hle : 6 * (2 * plan.budget + 1) ≤ 12 * plan.backoff.maxAttempts.toNat + 12 := by
    rw [RetryPlan.budget]
    omega
  show 6 * (State.start requests k m).rank plan +
    (State.start requests k m).lags (List.range requests.length) + (0 + 0) + 0 + 0 + 0 ≤
    requests.length * (12 * plan.backoff.maxAttempts.toNat + 12)
  rw [hready, hrank]
  have := Nat.mul_le_mul_left requests.length hle
  rw [Nat.mul_left_comm] at this
  exact this

end Schedule

/-- **The run in turns is a run of the group, and it comes to an end of the group.** -/
theorem run_complete :
    Complete plan t (.start requests k m)
      (Schedule.run plan t (Schedule.bound plan requests.length) (.start requests k m)).state :=
  have h := Schedule.orderly_start.run (Schedule.bound plan requests.length)
    Schedule.potential_start_le
  h.1.complete h.2

/-- What a group has come to in a state. -/
def State.dispatched (s : State σ) : Dispatched σ := ⟨s.members.mapIdx result, s.moment, s.events⟩

theorem getElem?_results {s : State σ} {i : Nat} {r : Request} {time : Nat} {ending : Ending}
    (h : s.members[i]? = some ⟨r, .finished time ending⟩) :
    s.dispatched.results[i]? = some (slot i ending) := by
  rw [State.dispatched, List.getElem?_mapIdx, h]
  rfl

/-- **A wish that can be met is answered with what the group has come to at an end.** -/
theorem dispatch_complete {wish : UInt64} (possible : max 1 wish.toNat ≤ maxPermits) :
    ∃ s, Complete plan t (.start requests (max 1 wish.toNat) m) s ∧
      dispatch? plan t requests wish m = some s.dispatched := by
  refine ⟨_, run_complete, ?_⟩
  rw [dispatch?, permits?, if_pos possible]
  rfl

end Courier.Group
