import Courier.Proofs.Group.Progress

/-!
# Where the members of a group are

A run of a group has three places for the members that act by themselves: those who can act, those
who broke off and those with a timer. `Placed` says that each of them is in one place once, and that
timers are set to the time at which their member is due; the lemmas about it say what each kind of
step of such a run makes of the places. A member that is called on before it is due lags
(`State.lag`): it sets its timer then, and no more.
-/

namespace Courier

/-- A member in this phase acts by itself, now or later. -/
def Phase.isActive : Phase → Bool
  | .queued | .finished .. => false
  | .idle | .admitted | .calling .. | .resting .. => true

theorem Phase.isActive_of_due? {phase : Phase} {d : Nat} (h : phase.due? = some d) :
    phase.isActive = true := by
  cases phase with
  | calling made due reply => rfl
  | resting made due => rfl
  | _ => cases h

theorem Phase.isActive_of_isReady {phase : Phase} {now : Nat} (h : phase.isReady now = true) :
    phase.isActive = true := by
  cases phase with
  | queued => cases h
  | finished time ending => cases h
  | _ => rfl

/-- A member that is due at a time can act once the time has come. -/
theorem Phase.isReady_of_due? {phase : Phase} {d now : Nat} (h : phase.due? = some d) :
    phase.isReady now = true ↔ d ≤ now := by
  cases phase with
  | calling made due reply =>
      cases h
      exact decide_eq_true_iff
  | resting made due =>
      cases h
      exact decide_eq_true_iff
  | _ => cases h

/-- A member that acts by itself but not yet is due at a later time. -/
theorem Phase.exists_due {phase : Phase} {now : Nat} (hact : phase.isActive = true)
    (hnot : phase.isReady now ≠ true) : ∃ d, phase.due? = some d ∧ now < d := by
  have later : ∀ d, phase.due? = some d → now < d := fun d hd =>
    Nat.lt_of_not_le fun hle => hnot ((isReady_of_due? hd).mpr hle)
  cases phase with
  | idle => exact absurd rfl hnot
  | admitted => exact absurd rfl hnot
  | queued => cases hact
  | calling made due reply => exact ⟨due, rfl, later due rfl⟩
  | resting made due => exact ⟨due, rfl, later due rfl⟩
  | finished time ending => cases hact

namespace Group

variable {σ : Type} {plan : RetryPlan} {t : Transport σ} {k : Nat} {requests : List Request}
  {m : Moment σ}

/-! ## 1. Where a move leaves the members -/

/-- Where a move of member `i` leaves the members: it waits for a time, it is in the queue, or it
    has ended and the first in the queue is admitted. Nobody else changes. -/
inductive Landed (s : State σ) (i : Nat) (s' : State σ) : Prop
  | waits {phase : Phase} {d : Nat} (self : s'.phase? i = some phase) (due : phase.due? = some d)
      (others : ∀ j, i ≠ j → s'.phase? j = s.phase? j)
  | queues (self : s'.phase? i = some .queued) (others : ∀ j, i ≠ j → s'.phase? j = s.phase? j)
  | ends {time : Nat} {ending : Ending} (self : s'.phase? i = some (.finished time ending))
      (others : ∀ j, i ≠ j → j ∉ s.queue.take 1 → s'.phase? j = s.phase? j)
      (admits : ∀ j ∈ s.queue.take 1, s'.phase? j = some .admitted)

theorem landed_call {s : State σ} {i : Nat} {r : Request} {made : UInt32} {old : Phase}
    (was : s.phase? i = some old) : Landed s i (s.call plan t i r made) :=
  .waits (s.phase?_setPhase_self was (s.callingNow plan t r made)) rfl
    fun _ hne => s.phase?_setPhase_ne hne _

theorem Move.landed {s s' : State σ} {i : Nat} (hI : Permits k s) (h : Move plan t s i s') :
    Landed s i s' := by
  cases h with
  | enqueue r was full =>
      exact .queues (s.phase?_setPhase_self (State.phase?_of_member was) _)
        fun _ hne => s.phase?_setPhase_ne hne _
  | enter r was room =>
      exact .waits
        (s.phase?_setPhase_self (State.phase?_of_member was) (s.callingNow plan t r 0)) rfl
        fun _ hne => s.phase?_setPhase_ne hne _
  | begin r was => exact landed_call (State.phase?_of_member was)
  | resume r made due was rung => exact landed_call (State.phase?_of_member was)
  | rest r made due reply wait notice was arrived again =>
      exact .waits (State.phase?_setPhase_self (s.record i _) (State.phase?_of_member was) _) rfl
        fun _ hne => State.phase?_setPhase_ne (s.record i _) hne _
  | finish r made due reply ending was arrived stop =>
      have hself := s.phase?_setPhase_self (State.phase?_of_member was)
        (.finished s.moment.now ending)
      have hended : Phase.finished s.moment.now ending ≠ .queued := nofun
      have hmem := mem_queue_setPhase hI.mem_queue (State.phase?_of_member was) nofun hended
      cases hq : s.queue with
      | nil =>
          rw [State.release_of_empty (s := s.setPhase i _) hq]
          refine .ends hself (fun j hne _ => s.phase?_setPhase_ne hne _) fun j hj => ?_
          rw [hq] at hj
          exact absurd hj List.not_mem_nil
      | cons l rest =>
          have hl := (hmem l).mp (hq ▸ List.mem_cons_self)
          have hil : l ≠ i := by
            rintro rfl
            rw [hself] at hl
            cases hl
          rw [State.release_of_cons (s := s.setPhase i _) hq]
          refine .ends ((State.phase?_setPhase_ne _ hil _).trans hself) (fun j hne hj => ?_)
            fun j hj => ?_
          · rw [hq] at hj
            have hlj : l ≠ j := fun e => hj (e ▸ List.mem_cons_self)
            exact (State.phase?_setPhase_ne _ hlj _).trans (s.phase?_setPhase_ne hne _)
          · rw [hq] at hj
            obtain rfl := List.mem_singleton.mp hj
            exact State.phase?_setPhase_self _ hl _

/-! ## 2. The places of the members -/

/-- Where the members are that act by themselves: each is in one of the three places once, and a
    timer is set to the time at which its member is due. -/
structure Placed (state : State σ) (ready brokenOff : List Nat) (timers : List (Nat × Nat)) :
    Prop where
  nodup : (ready ++ brokenOff ++ timers.map Prod.snd).Nodup
  active : ∀ i, i ∈ ready ∨ i ∈ brokenOff →
    ∃ phase, state.phase? i = some phase ∧ phase.isActive = true
  timed : ∀ d i, (d, i) ∈ timers →
    ∃ phase, state.phase? i = some phase ∧ phase.due? = some d ∧ state.moment.now < d
  known : ∀ i phase, state.phase? i = some phase → phase.isActive = true →
    i ∈ ready ∨ i ∈ brokenOff ∨ ∃ d, (d, i) ∈ timers

namespace Placed

variable {state state' : State σ} {i : Nat} {ready rest brokenOff : List Nat}
  {timers : List (Nat × Nat)}

theorem start : Placed (State.start requests k m) (List.range requests.length) [] [] where
  nodup := by
    rw [List.append_nil, List.map_nil, List.append_nil]
    exact List.nodup_range
  active j hj := by
    have hlt := List.mem_range.mp (hj.resolve_right List.not_mem_nil)
    exact ⟨.idle, phase?_start_of_lt hlt, rfl⟩
  timed _ _ h := absurd h List.not_mem_nil
  known j phase hj _ := by
    obtain ⟨r, hr⟩ := (State.phase?_eq_some _).mp hj
    have hlt := (List.getElem?_eq_some_iff.mp hr).1
    rw [State.start, List.length_map] at hlt
    exact .inl (List.mem_range.mpr hlt)

/-- Those who broke off can act again. -/
theorem pause (h : Placed state ready brokenOff timers) :
    Placed state (ready ++ brokenOff) [] timers where
  nodup := by
    rw [List.append_nil]
    exact h.nodup
  active j hj := h.active j (List.mem_append.mp (hj.resolve_right List.not_mem_nil))
  timed := h.timed
  known j phase hj hact := by
    rcases h.known j phase hj hact with hr | hb | ht
    · exact .inl (List.mem_append_left _ hr)
    · exact .inl (List.mem_append_right _ hb)
    · exact .inr (.inr ht)

/-- The next member breaks off. -/
theorem breakOff (h : Placed state (i :: rest) brokenOff timers) :
    Placed state rest (i :: brokenOff) timers where
  nodup := by
    have hperm : (rest ++ i :: brokenOff ++ timers.map Prod.snd).Perm
        (i :: rest ++ brokenOff ++ timers.map Prod.snd) :=
      List.perm_middle.append_right _
    exact hperm.nodup_iff.mpr h.nodup
  active j hj := h.active j (by
    rcases hj with hr | hb
    · exact .inl (List.mem_cons_of_mem i hr)
    · rcases List.mem_cons.mp hb with rfl | hb
      · exact .inl List.mem_cons_self
      · exact .inr hb)
  timed := h.timed
  known j phase hj hact := by
    rcases h.known j phase hj hact with hr | hb | ht
    · rcases List.mem_cons.mp hr with rfl | hr
      · exact .inr (.inl List.mem_cons_self)
      · exact .inl hr
    · exact .inr (.inl (List.mem_cons_of_mem i hb))
    · exact .inr (.inr ht)

/-- The next member sets a timer to the time at which it is due. -/
theorem setTimer (h : Placed state (i :: rest) brokenOff timers) {phase : Phase} {d : Nat}
    (hi : state.phase? i = some phase) (hd : phase.due? = some d) (hlt : state.moment.now < d) :
    Placed state rest brokenOff (timers ++ [(d, i)]) where
  nodup := by
    have hperm : (rest ++ brokenOff ++ (timers ++ [(d, i)]).map Prod.snd).Perm
        (i :: rest ++ brokenOff ++ timers.map Prod.snd) := by
      rw [List.map_append, ← List.append_assoc]
      exact List.perm_append_singleton i _
    exact hperm.nodup_iff.mpr h.nodup
  active j hj := h.active j (hj.imp_left (List.mem_cons_of_mem i))
  timed d' j hj := by
    rcases List.mem_append.mp hj with hj | hj
    · exact h.timed d' j hj
    · cases List.mem_singleton.mp hj
      exact ⟨phase, hi, hd, hlt⟩
  known j phase hj hact := by
    rcases h.known j phase hj hact with hr | hb | ⟨d', ht⟩
    · rcases List.mem_cons.mp hr with rfl | hr
      · exact .inr (.inr ⟨d, List.mem_append_right _ (List.mem_singleton_self _)⟩)
      · exact .inl hr
    · exact .inr (.inl hb)
    · exact .inr (.inr ⟨d', List.mem_append_left _ ht⟩)

/-- Nobody is in two places. -/
theorem ne_of_mem (h : Placed state (i :: rest) brokenOff timers) {j : Nat}
    (hj : j ∈ rest ∨ j ∈ brokenOff ∨ ∃ d, (d, j) ∈ timers) : i ≠ j := by
  rintro rfl
  have hnodup := h.nodup
  rw [List.cons_append, List.cons_append, List.nodup_cons] at hnodup
  refine hnodup.1 ?_
  rcases hj with hr | hb | ⟨d, ht⟩
  · exact List.mem_append_left _ (List.mem_append_left _ hr)
  · exact List.mem_append_left _ (List.mem_append_right _ hb)
  · exact List.mem_append_right _ (List.mem_map.mpr ⟨_, ht, rfl⟩)

/-- The next member has changed its phase and still acts by itself. -/
theorem act (h : Placed state (i :: rest) brokenOff timers) {phase : Phase}
    (self : state'.phase? i = some phase) (hact : phase.isActive = true)
    (others : ∀ j, i ≠ j → state'.phase? j = state.phase? j)
    (now : state'.moment.now = state.moment.now) :
    Placed state' (i :: rest) brokenOff timers where
  nodup := h.nodup
  active j hj := by
    rcases eq_or_ne i j with rfl | hne
    · exact ⟨phase, self, hact⟩
    · rw [others j hne]
      exact h.active j hj
  timed d j hj := by
    rw [others j (h.ne_of_mem (.inr (.inr ⟨d, hj⟩))), now]
    exact h.timed d j hj
  known j phase hj hact := by
    rcases eq_or_ne i j with rfl | hne
    · exact .inl List.mem_cons_self
    · rw [others j hne] at hj
      exact h.known j phase hj hact

/-- Those who wait in the queue are in none of the places. -/
theorem not_mem_of_queued (h : Placed state ready brokenOff timers) {j : Nat}
    (hj : state.phase? j = some .queued) :
    ¬ (j ∈ ready ∨ j ∈ brokenOff ∨ ∃ d, (d, j) ∈ timers) := by
  have inactive : ∀ φ, state.phase? j = some φ → φ.isActive = false := by
    intro φ hφ
    rw [hj] at hφ
    cases hφ
    rfl
  rintro (hr | hb | ⟨d, ht⟩)
  · obtain ⟨φ, hφ, hon⟩ := h.active j (.inl hr)
    rw [inactive φ hφ] at hon
    cases hon
  · obtain ⟨φ, hφ, hon⟩ := h.active j (.inr hb)
    rw [inactive φ hφ] at hon
    cases hon
  · obtain ⟨φ, hφ, hd, -⟩ := h.timed d j ht
    have hoff := inactive φ hφ
    rw [Phase.isActive_of_due? hd] at hoff
    cases hoff

/-- What the next member does leaves the others alone that are in the places. -/
theorem phase?_eq (h : Placed state (i :: rest) brokenOff timers) {admitted : List Nat}
    (others : ∀ j, i ≠ j → j ∉ admitted → state'.phase? j = state.phase? j)
    (waited : ∀ j ∈ admitted, state.phase? j = some .queued) {j : Nat}
    (hj : j ∈ rest ∨ j ∈ brokenOff ∨ ∃ d, (d, j) ∈ timers) :
    state'.phase? j = state.phase? j :=
  others j (h.ne_of_mem hj) fun hadm =>
    h.not_mem_of_queued (waited j hadm) (hj.imp_left (List.mem_cons_of_mem i))

/-- The next member does not act by itself any more, and others may do so now. -/
theorem leave (h : Placed state (i :: rest) brokenOff timers) {phase : Phase} {admitted : List Nat}
    (self : state'.phase? i = some phase) (hact : phase.isActive = false)
    (others : ∀ j, i ≠ j → j ∉ admitted → state'.phase? j = state.phase? j)
    (admits : ∀ j ∈ admitted, state'.phase? j = some .admitted)
    (waited : ∀ j ∈ admitted, state.phase? j = some .queued) (nodup : admitted.Nodup)
    (now : state'.moment.now = state.moment.now) :
    Placed state' (rest ++ admitted) brokenOff timers := by
  refine ⟨?_, fun j hj => ?_, fun d j hj => ?_, fun j φ hj hon => ?_⟩
  · have hperm : (rest ++ admitted ++ brokenOff ++ timers.map Prod.snd).Perm
        (admitted ++ (rest ++ brokenOff ++ timers.map Prod.snd)) := by
      rw [← List.append_assoc, ← List.append_assoc]
      exact (List.perm_append_comm.append_right _).append_right _
    have hnodup := h.nodup
    rw [List.cons_append, List.cons_append, List.nodup_cons] at hnodup
    refine hperm.nodup_iff.mpr (List.nodup_append.mpr ⟨nodup, hnodup.2, ?_⟩)
    rintro a ha b hb rfl
    refine h.not_mem_of_queued (waited a ha) ?_
    rcases List.mem_append.mp hb with hb | hb
    · exact (List.mem_append.mp hb).imp (List.mem_cons_of_mem i) .inl
    · obtain ⟨⟨d, l⟩, hl, rfl⟩ := List.mem_map.mp hb
      exact .inr (.inr ⟨d, hl⟩)
  · rcases hj with hr | hb
    · rcases List.mem_append.mp hr with hr | hadm
      · rw [h.phase?_eq others waited (.inl hr)]
        exact h.active j (.inl (List.mem_cons_of_mem i hr))
      · exact ⟨.admitted, admits j hadm, rfl⟩
    · rw [h.phase?_eq others waited (.inr (.inl hb))]
      exact h.active j (.inr hb)
  · rw [h.phase?_eq others waited (.inr (.inr ⟨d, hj⟩)), now]
    exact h.timed d j hj
  · rcases eq_or_ne i j with rfl | hne
    · rw [self] at hj
      cases hj
      rw [hact] at hon
      cases hon
    · by_cases hadm : j ∈ admitted
      · exact .inl (List.mem_append_right _ hadm)
      · rw [others j hne hadm] at hj
        rcases h.known j φ hj hon with hr | hb | ht
        · rcases List.mem_cons.mp hr with rfl | hr
          · exact absurd rfl hne
          · exact .inl (List.mem_append_left _ hr)
        · exact .inr (.inl hb)
        · exact .inr (.inr ht)

/-- Where nobody is ready and nobody broke off, nobody can act. -/
theorem not_canAct (h : Placed state [] [] timers) (i : Nat) : ¬ state.CanAct i := by
  rintro ⟨phase, hphase, hready⟩
  rcases h.known i phase hphase (Phase.isActive_of_isReady hready) with hr | hb | ⟨d, ht⟩
  · exact List.not_mem_nil hr
  · exact List.not_mem_nil hb
  · obtain ⟨φ, hφ, hd, hlt⟩ := h.timed d i ht
    rw [hphase] at hφ
    cases hφ
    have := (Phase.isReady_of_due? hd).mp hready
    omega

/-- There the timers are set to the times at which somebody is due. -/
theorem mem_dues_iff (h : Placed state [] [] timers) (d : Nat) :
    d ∈ state.dues ↔ d ∈ timers.map Prod.fst := by
  constructor
  · intro hd
    obtain ⟨i, phase, hphase, hdue⟩ := exists_of_mem_dues hd
    rcases h.known i phase hphase (Phase.isActive_of_due? hdue) with hr | hb | ⟨d', ht⟩
    · exact absurd hr List.not_mem_nil
    · exact absurd hb List.not_mem_nil
    · obtain ⟨φ, hφ, hd', -⟩ := h.timed d' i ht
      rw [hphase] at hφ
      cases hφ
      rw [hdue] at hd'
      cases hd'
      exact List.mem_map.mpr ⟨_, ht, rfl⟩
  · intro hd
    obtain ⟨⟨d', i⟩, ht, rfl⟩ := List.mem_map.mp hd
    obtain ⟨φ, hφ, hdue, -⟩ := h.timed d' i ht
    exact mem_dues hφ hdue

/-- Time passes to the first timer, and those whose timers ring can act. -/
theorem ring (h : Placed state [] [] timers) {due : Nat}
    (least : ∀ d ∈ timers.map Prod.fst, due ≤ d) :
    Placed (state.atTime due) ((timers.filter (·.1 == due)).map (·.2)) []
      (timers.filter (·.1 != due)) where
  nodup := by
    rw [List.append_nil, ← List.map_append]
    have hperm : (timers.filter (·.1 == due) ++ timers.filter (·.1 != due)).Perm timers :=
      List.filter_append_perm (fun e => e.1 == due) timers
    exact (hperm.map _).nodup_iff.mpr h.nodup
  active j hj := by
    obtain ⟨⟨d, i⟩, hmem, rfl⟩ := List.mem_map.mp (hj.resolve_right List.not_mem_nil)
    obtain ⟨φ, hφ, hd, -⟩ := h.timed d i (List.mem_filter.mp hmem).1
    exact ⟨φ, hφ, Phase.isActive_of_due? hd⟩
  timed d j hj := by
    obtain ⟨hmem, hne⟩ := List.mem_filter.mp hj
    obtain ⟨φ, hφ, hd, -⟩ := h.timed d j hmem
    have hle := least d (List.mem_map.mpr ⟨_, hmem, rfl⟩)
    have hne : d ≠ due := bne_iff_ne.mp hne
    exact ⟨φ, hφ, hd, Nat.lt_of_le_of_ne hle (Ne.symm hne)⟩
  known j phase hj hact := by
    rcases h.known j phase hj hact with hr | hb | ⟨d, ht⟩
    · exact absurd hr List.not_mem_nil
    · exact absurd hb List.not_mem_nil
    · rcases eq_or_ne d due with rfl | hne
      · exact .inl (List.mem_map.mpr ⟨(d, j), List.mem_filter.mpr ⟨ht, beq_self_eq_true d⟩, rfl⟩)
      · exact .inr (.inr ⟨d, List.mem_filter.mpr ⟨ht, bne_iff_ne.mpr hne⟩⟩)

end Placed

/-! ## 3. Members that are called on too early -/

/-- What the turn of a member costs that is called on before it is due: its timer, and one turn
    more. It is none for a member that can act. -/
def State.lag (s : State σ) (i : Nat) : Nat :=
  if (s.phase? i).any (·.isReady s.moment.now) then 0 else 3

theorem State.lag_le (s : State σ) (i : Nat) : s.lag i ≤ 3 := by
  unfold lag
  split <;> omega

theorem State.lag_of_canAct {s : State σ} {i : Nat} (h : s.CanAct i) : s.lag i = 0 := by
  obtain ⟨phase, hphase, hready⟩ := h
  rw [lag, hphase, Option.any_some, if_pos hready]

theorem State.lag_of_not_canAct {s : State σ} {i : Nat} (h : ¬ s.CanAct i) : s.lag i = 3 := by
  refine if_neg fun hany => h ?_
  obtain ⟨phase, hphase, hready⟩ := (Option.any_eq_true _ _).mp hany
  exact ⟨phase, hphase, hready⟩

theorem State.lag_congr {s s' : State σ} {i : Nat} (hp : s'.phase? i = s.phase? i)
    (hn : s'.moment.now = s.moment.now) : s'.lag i = s.lag i := by
  rw [lag, lag, hp, hn]

/-- The lags of some members together. -/
def State.lags (s : State σ) (members : List Nat) : Nat := (members.map s.lag).sum

theorem State.lags_append (s : State σ) (xs ys : List Nat) :
    s.lags (xs ++ ys) = s.lags xs + s.lags ys := by
  rw [lags, List.map_append, List.sum_append]
  rfl

theorem State.lags_cons (s : State σ) (i : Nat) (rest : List Nat) :
    s.lags (i :: rest) = s.lag i + s.lags rest := by
  rw [lags, List.map_cons, List.sum_cons]
  rfl

theorem State.lags_congr {s s' : State σ} {members : List Nat}
    (h : ∀ i ∈ members, s'.lag i = s.lag i) : s'.lags members = s.lags members := by
  rw [lags, lags, List.map_congr_left h]

theorem State.lags_of_canAct {s : State σ} {members : List Nat} (h : ∀ i ∈ members, s.CanAct i) :
    s.lags members = 0 :=
  List.sum_eq_zero fun _ hx => by
    obtain ⟨i, hi, rfl⟩ := List.mem_map.mp hx
    exact lag_of_canAct (h i hi)

/-- What the next member does leaves the lags of the others alone. -/
theorem Placed.lags_eq {s s' : State σ} {i : Nat} {rest brokenOff : List Nat}
    {timers : List (Nat × Nat)} (h : Placed s (i :: rest) brokenOff timers) (admitted : List Nat)
    (others : ∀ j, i ≠ j → j ∉ admitted → s'.phase? j = s.phase? j)
    (waited : ∀ j ∈ admitted, s.phase? j = some .queued) (now : s'.moment.now = s.moment.now) :
    s'.lags rest = s.lags rest ∧ s'.lags brokenOff = s.lags brokenOff :=
  ⟨State.lags_congr fun _ hj => State.lag_congr (h.phase?_eq others waited (.inl hj)) now,
    State.lags_congr fun _ hj => State.lag_congr (h.phase?_eq others waited (.inr (.inl hj))) now⟩

end Group

end Courier
