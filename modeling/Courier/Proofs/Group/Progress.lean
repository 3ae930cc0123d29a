import Courier.Proofs.Group.Histories
import Mathlib.Algebra.Order.BigOperators.Group.List
import Mathlib.Algebra.Order.Group.Nat

/-!
# Every group comes to an end

`rank` counts the moves that the members of a group have yet to make; every move lowers it. Time
passes at most once more for each call and each rest that is under way (`pending`), so no group
goes on forever (`no_endless_run`), and from every state that a group can come to it can come to its
end (`Reachable.exists_complete`). Where no step is left, every member has ended and all permits are
free (`Complete.finished`, `Complete.free`).
-/

namespace Courier

/-- The number of moves that a member has yet to make, at most. -/
def Phase.remaining (budget : Nat) : Phase → Nat
  | .idle => 2 * budget + 1
  | .queued => 2 * budget
  | .admitted => 2 * budget
  | .calling made _ _ => 2 * (budget - made.toNat) - 1
  | .resting made _ => 2 * (budget - made.toNat)
  | .finished .. => 0

/-- One for a member that waits for a time after `now`. -/
def Phase.pending (now : Nat) (phase : Phase) : Nat :=
  match phase.due? with
  | some due => if now < due then 1 else 0
  | none => 0

theorem Phase.pending_le_one (now : Nat) (phase : Phase) : phase.pending now ≤ 1 := by
  unfold pending
  split
  · split <;> omega
  · omega

theorem Phase.pending_mono {now later : Nat} (h : now ≤ later) (phase : Phase) :
    phase.pending later ≤ phase.pending now := by
  unfold pending
  split
  · split
    · rw [if_pos (by omega)]
    · exact Nat.zero_le _
  · exact Nat.le_refl 0

namespace Group

variable {σ : Type}

/-- The number of moves that the members have yet to make, at most. -/
def State.rank (plan : RetryPlan) (s : State σ) : Nat := s.tally (Phase.remaining plan.budget)

/-- The number of members that wait for a time to come. -/
def State.pending (s : State σ) : Nat := s.tally (Phase.pending s.moment.now)

/-- What every step lowers. -/
def State.height (plan : RetryPlan) (s : State σ) : Nat := 2 * s.rank plan + s.pending

section Steps

variable {plan : RetryPlan} {t : Transport σ} {k : Nat} {s s' : State σ} {i j : Nat}
  {requests : List Request} {m : Moment σ}

/-! ## 1. Moves -/

theorem Reachable.calling_lt (h : Reachable plan t (.start requests k m) s) {r : Request}
    {made : UInt32} {due : Nat} {reply : Reply}
    (hj : s.members[j]? = some ⟨r, .calling made due reply⟩) : made.toNat < plan.budget := by
  obtain ⟨replies, start, hf⟩ := h.follows j r _ hj
  generalize s.share j = es at hf
  cases hf with
  | calling below retried => exact below

theorem Reachable.resting_lt (h : Reachable plan t (.start requests k m) s) {r : Request}
    {made : UInt32} {due : Nat} (hj : s.members[j]? = some ⟨r, .resting made due⟩) :
    made.toNat < plan.budget := by
  obtain ⟨replies, start, hf⟩ := h.follows j r _ hj
  generalize s.share j = es at hf
  cases hf with
  | resting below retried => exact below

/-- Handing a permit over changes no tally in which waiting for it counts as much as having it. -/
theorem tally_release (weight : Phase → Nat) (same : weight .admitted = weight .queued)
    (hq : ∀ l ∈ s.queue, s.phase? l = some .queued) :
    s.release.tally weight = s.tally weight := by
  cases hqueue : s.queue with
  | nil =>
      rw [State.release_of_empty hqueue]
      rfl
  | cons l rest =>
      rw [State.release_of_cons hqueue]
      have htally := s.tally_setPhase weight (hq l (hqueue ▸ List.mem_cons_self)) .admitted
      show (s.setPhase l .admitted).tally weight = s.tally weight
      omega

/-- A member that has ended leaves only its own weight behind. -/
theorem tally_finish (weight : Phase → Nat) (same : weight .admitted = weight .queued)
    (hI : Permits k s) {old : Phase} (was : s.phase? i = some old) (hne : old ≠ .queued)
    (time : Nat) (ending : Ending) :
    (s.setPhase i (.finished time ending)).release.tally weight + weight old =
      s.tally weight + weight (.finished time ending) := by
  have hended : Phase.finished time ending ≠ .queued := nofun
  have hmem := mem_queue_setPhase hI.mem_queue was hne hended
  rw [tally_release weight same fun l hl => (hmem l).mp hl]
  exact s.tally_setPhase weight was _

/-- **Every move lowers the number of moves that are left.** -/
theorem Move.rank_lt (before : Reachable plan t (.start requests k m) s)
    (h : Move plan t s i s') : s'.rank plan < s.rank plan := by
  have hpos := plan.budget_pos
  have zero : (0 : UInt32).toNat = 0 := rfl
  cases h with
  | enqueue r was full =>
      have htally := s.tally_setPhase (Phase.remaining plan.budget) (State.phase?_of_member was)
        .queued
      show (s.setPhase i .queued).tally _ < s.tally _
      simp only [Phase.remaining] at htally
      omega
  | enter r was room =>
      have htally := s.tally_setPhase (Phase.remaining plan.budget) (State.phase?_of_member was)
        (s.callingNow plan t r 0)
      show (s.setPhase i (s.callingNow plan t r 0)).tally _ < s.tally _
      simp only [Phase.remaining, State.callingNow, zero] at htally ⊢
      omega
  | begin r was =>
      have htally := s.tally_setPhase (Phase.remaining plan.budget) (State.phase?_of_member was)
        (s.callingNow plan t r 0)
      show (s.setPhase i (s.callingNow plan t r 0)).tally _ < s.tally _
      simp only [Phase.remaining, State.callingNow, zero] at htally ⊢
      omega
  | resume r made due was rung =>
      have hlt := before.resting_lt was
      have htally := s.tally_setPhase (Phase.remaining plan.budget) (State.phase?_of_member was)
        (s.callingNow plan t r made)
      show (s.setPhase i (s.callingNow plan t r made)).tally _ < s.tally _
      simp only [Phase.remaining, State.callingNow] at htally ⊢
      omega
  | rest r made due reply wait notice was arrived again =>
      have hlt := before.calling_lt was
      have hsucc := RetryPlan.toNat_succ_of_lt_budget hlt
      have htally := s.tally_setPhase (Phase.remaining plan.budget) (State.phase?_of_member was)
        (.resting (made + 1) (s.moment.now + wait.restMillis))
      show (s.setPhase i (.resting (made + 1) (s.moment.now + wait.restMillis))).tally _ < s.tally _
      simp only [Phase.remaining, hsucc] at htally ⊢
      omega
  | finish r made due reply ending was arrived stop =>
      have hlt := before.calling_lt was
      have htally := tally_finish (Phase.remaining plan.budget) rfl before.permits
        (State.phase?_of_member was) nofun s.moment.now ending
      show (s.setPhase i (.finished s.moment.now ending)).release.tally _ < s.tally _
      simp only [Phase.remaining] at htally
      omega

/-- A move sets one timer at most. -/
theorem Move.pending_le (before : Reachable plan t (.start requests k m) s)
    (h : Move plan t s i s') : s'.pending ≤ s.pending + 1 := by
  have setPhase_le : ∀ {old : Phase}, s.phase? i = some old → ∀ new : Phase,
      (s.setPhase i new).tally (Phase.pending s.moment.now) ≤ s.pending + 1 := by
    intro old was new
    have htally := s.tally_setPhase (Phase.pending s.moment.now) was new
    have hle := new.pending_le_one s.moment.now
    show _ ≤ s.tally (Phase.pending s.moment.now) + 1
    omega
  cases h with
  | enqueue r was full => exact setPhase_le (State.phase?_of_member was) _
  | enter r was room => exact setPhase_le (State.phase?_of_member was) (s.callingNow plan t r 0)
  | begin r was => exact setPhase_le (State.phase?_of_member was) (s.callingNow plan t r 0)
  | resume r made due was rung =>
      exact setPhase_le (State.phase?_of_member was) (s.callingNow plan t r made)
  | rest r made due reply wait notice was arrived again =>
      exact setPhase_le (State.phase?_of_member was) _
  | finish r made due reply ending was arrived stop =>
      have htally := tally_finish (Phase.pending s.moment.now) rfl before.permits
        (State.phase?_of_member was) nofun s.moment.now ending
      have hle := (Phase.finished s.moment.now ending).pending_le_one s.moment.now
      rw [State.pending, State.moment_release]
      show (s.setPhase i (.finished s.moment.now ending)).release.tally
        (Phase.pending s.moment.now) ≤ s.tally (Phase.pending s.moment.now) + 1
      omega

/-! ## 2. Time -/

/-- A member that cannot act and is due at some time is due later. -/
theorem lt_due_of_not_canAct {phase : Phase} {due : Nat} (h : ¬ s.CanAct i)
    (hi : s.phase? i = some phase) (hd : phase.due? = some due) : s.moment.now < due := by
  refine Nat.lt_of_not_le fun hle => h ⟨phase, hi, ?_⟩
  cases phase with
  | calling made d reply =>
      cases hd
      exact decide_eq_true hle
  | resting made d =>
      cases hd
      exact decide_eq_true hle
  | _ => cases hd

/-- When time passes, somebody waits no longer. -/
theorem pending_atTime_lt {due : Nat} (idle : ∀ i, ¬ s.CanAct i) (known : due ∈ s.dues) :
    (s.atTime due).pending < s.pending := by
  obtain ⟨i, phase, hi, hd⟩ := exists_of_mem_dues known
  have hlt := lt_due_of_not_canAct (idle i) hi hd
  obtain ⟨r, hr⟩ := s.phase?_eq_some.mp hi
  refine List.sum_lt_sum (l := s.members) _ _
    (fun member _ => member.phase.pending_mono (Nat.le_of_lt hlt))
    ⟨⟨r, phase⟩, List.mem_of_getElem? hr, ?_⟩
  show phase.pending due < phase.pending s.moment.now
  simp only [Phase.pending, hd, if_pos hlt, if_neg (Nat.lt_irrefl due)]
  exact Nat.zero_lt_one

/-- **Every step brings a group nearer to its end.** -/
theorem Step.height_lt (before : Reachable plan t (.start requests k m) s)
    (h : Step plan t s s') : s'.height plan < s.height plan := by
  rw [State.height, State.height]
  rcases h.cases with ⟨i, -, hm⟩ | ⟨due, idle, known, -, rfl⟩
  · have hrank := hm.rank_lt before
    have hpending := hm.pending_le before
    omega
  · have hrank : (s.atTime due).rank plan = s.rank plan := rfl
    have hpending := pending_atTime_lt idle known
    omega

/-- **No group goes on forever.** -/
theorem no_endless_run (run : Nat → State σ) (first : run 0 = .start requests k m) :
    ¬ ∀ n, Step plan t (run n) (run (n + 1)) := by
  intro steps
  have reachable : ∀ n, Reachable plan t (.start requests k m) (run n) := by
    intro n
    induction n with
    | zero => rw [first]; exact .start
    | succ n ih => exact .step _ _ ih (steps n)
  have falls : ∀ n, (run n).height plan + n ≤ (run 0).height plan := by
    intro n
    induction n with
    | zero => exact Nat.le_refl _
    | succ n ih =>
      have := (steps n).height_lt (reachable n)
      omega
  have := falls ((run 0).height plan + 1)
  omega

/-! ## 3. The end -/

/-- A state that a group can come to and from which no step is left. -/
structure Complete (plan : RetryPlan) (t : Transport σ) (s₀ s : State σ) : Prop where
  reachable : Reachable plan t s₀ s
  stuck : ∀ s', ¬ Step plan t s s'

/-- However the steps of the members interleave, the group comes to an end, and there `p` holds. -/
structure ComesTo (plan : RetryPlan) (t : Transport σ) (s₀ : State σ) (p : State σ → Prop) :
    Prop where
  ends : ∀ run : Nat → State σ, run 0 = s₀ → ¬ ∀ n, Step plan t (run n) (run (n + 1))
  atEnd : ∀ s, Complete plan t s₀ s → p s

theorem Complete.not_canAct {s₀ : State σ} (h : Complete plan t s₀ s) (i : Nat) : ¬ s.CanAct i :=
  fun hi => h.stuck _ (.act s i hi)

theorem Complete.not_mem_dues {s₀ : State σ} (h : Complete plan t s₀ s) (d : Nat) :
    d ∉ s.dues := by
  intro hd
  cases hmin : s.dues.min? with
  | none =>
      rw [List.min?_eq_none_iff] at hmin
      rw [hmin] at hd
      exact List.not_mem_nil hd
  | some due =>
      obtain ⟨known, least⟩ := List.min?_eq_some_iff.mp hmin
      exact h.stuck _ (.tick s due h.not_canAct known least)

/-- **At the end every member has ended.** One that waits would wait for one that holds a permit,
    and whoever holds a permit has a step to take. -/
theorem Complete.finished (h : Complete plan t (.start requests k m) s) (pos : 0 < k)
    {phase : Phase} (hi : s.phase? i = some phase) : phase.isFinished = true := by
  have no_holder : ∀ j φ, s.phase? j = some φ → φ.holdsPermit = false := by
    intro j φ hj
    cases φ with
    | admitted => exact absurd ⟨_, hj, rfl⟩ (h.not_canAct j)
    | calling made due reply => exact absurd (mem_dues hj rfl) (h.not_mem_dues due)
    | resting made due => exact absurd (mem_dues hj rfl) (h.not_mem_dues due)
    | _ => rfl
  have hI := h.reachable.permits
  have held := holders_eq_zero no_holder
  cases phase with
  | idle => exact absurd ⟨_, hi, rfl⟩ (h.not_canAct i)
  | queued =>
      have hfree := hI.busy (List.ne_nil_of_mem ((hI.mem_queue i).mpr hi))
      have htotal := hI.free_add_holders
      omega
  | admitted => cases no_holder i _ hi
  | calling made due reply => cases no_holder i _ hi
  | resting made due => cases no_holder i _ hi
  | finished time ending => rfl

theorem Complete.member (h : Complete plan t (.start requests k m) s) (pos : 0 < k) {r : Request}
    (hi : requests[i]? = some r) :
    ∃ phase, s.members[i]? = some ⟨r, phase⟩ ∧ phase.isFinished = true := by
  obtain ⟨phase, hmember⟩ := h.reachable.exists_member hi
  exact ⟨phase, hmember, h.finished pos (State.phase?_of_member hmember)⟩

/-- **At the end all permits are free.** -/
theorem Complete.free (h : Complete plan t (.start requests k m) s) (pos : 0 < k) :
    s.free = k := by
  have htotal := h.reachable.permits.free_add_holders
  have held : s.holders = 0 := by
    refine holders_eq_zero fun j phase hj => ?_
    have hended := h.finished pos hj
    cases phase with
    | finished time ending => rfl
    | _ => cases hended
  omega

/-- **From every state that a group can come to, it can come to its end.** -/
theorem Reachable.exists_complete {s₁ : State σ}
    (h : Reachable plan t (.start requests k m) s₁) :
    ∃ s', Reachable plan t s₁ s' ∧ Complete plan t (.start requests k m) s' := by
  by_cases stuck : ∀ s', ¬ Step plan t s₁ s'
  · exact ⟨s₁, .start, h, stuck⟩
  · obtain ⟨s', hs⟩ := not_forall.mp stuck
    have hs := Classical.not_not.mp hs
    have hlower := hs.height_lt h
    obtain ⟨s'', hreach, hcomplete⟩ := (Reachable.step s₁ s' h hs).exists_complete
    exact ⟨s'', (Reachable.step s₁ s' .start hs).trans hreach, hcomplete⟩
termination_by s₁.height plan

end Steps

end Group

end Courier
