import Courier.Group.State
import Mathlib.Algebra.GroupWithZero.Nat

/-!
# What one step of a group can do

A member that can act makes one of six moves (`Move`, `move_of_canAct`). Each move writes the phase
of the member, adds events of its own at the end of the log, and touches the permits and the queue
in a way of its own. Every fact about the states that a group can come to is proved over these six
moves and the passing of time, and the step function is not opened again.
-/

namespace Courier.Group

/-! ## 1. Reading a state after a change -/

namespace State

variable {σ : Type} (s : State σ)

/-- What happened to member `i`, in order. -/
def share (i : Nat) : List Event := (s.events.filter (·.1 = i)).map (·.2)

/-- The sum of a weight of the phases over all members. -/
def tally (weight : Phase → Nat) : Nat := (s.members.map fun member => weight member.phase).sum

theorem phase?_eq_some {i : Nat} {phase : Phase} :
    s.phase? i = some phase ↔ ∃ r, s.members[i]? = some ⟨r, phase⟩ := by
  rw [phase?, Option.map_eq_some_iff]
  constructor
  · rintro ⟨member, h, rfl⟩
    exact ⟨member.request, h⟩
  · rintro ⟨r, h⟩
    exact ⟨_, h, rfl⟩

theorem phase?_of_member {s : State σ} {i : Nat} {r : Request} {phase : Phase}
    (h : s.members[i]? = some ⟨r, phase⟩) : s.phase? i = some phase :=
  s.phase?_eq_some.mpr ⟨r, h⟩

theorem getElem?_setPhase (i : Nat) (phase : Phase) (j : Nat) :
    (s.setPhase i phase).members[j]? =
      if i = j then (s.members[j]?).map fun member => { member with phase } else s.members[j]? := by
  rw [setPhase, List.getElem?_modify]
  split
  · rfl
  · exact Option.map_id'

theorem phase?_setPhase (i : Nat) (phase : Phase) (j : Nat) :
    (s.setPhase i phase).phase? j =
      if i = j then (s.phase? j).map fun _ => phase else s.phase? j := by
  rw [phase?, getElem?_setPhase, phase?]
  split
  · cases s.members[j]? <;> rfl
  · rfl

theorem phase?_setPhase_self {i : Nat} {old : Phase} (h : s.phase? i = some old) (phase : Phase) :
    (s.setPhase i phase).phase? i = some phase := by
  rw [phase?_setPhase, if_pos rfl, h]
  rfl

theorem phase?_setPhase_ne {i j : Nat} (h : i ≠ j) (phase : Phase) :
    (s.setPhase i phase).phase? j = s.phase? j := by
  rw [phase?_setPhase, if_neg h]

theorem requests_setPhase (i : Nat) (phase : Phase) :
    (s.setPhase i phase).members.map Member.request = s.members.map Member.request := by
  refine List.ext_getElem? fun j => ?_
  rw [List.getElem?_map, List.getElem?_map, getElem?_setPhase]
  split
  · cases s.members[j]? <;> rfl
  · rfl

theorem sum_map_modify {α : Type} (f : α → α) (w : α → Nat) :
    ∀ {l : List α} {i : Nat} {a : α}, l[i]? = some a →
      ((l.modify i f).map w).sum + w a = (l.map w).sum + w (f a)
  | [], _, _, h => by cases h
  | x :: l, 0, a, h => by
      obtain rfl : x = a := Option.some.inj h
      rw [List.modify_zero_cons, List.map_cons, List.map_cons, List.sum_cons, List.sum_cons]
      omega
  | x :: l, i + 1, a, h => by
      have ih := sum_map_modify f w (l := l) (i := i) h
      rw [List.modify_succ_cons, List.map_cons, List.map_cons, List.sum_cons, List.sum_cons]
      omega

/-- A new phase changes a tally by the difference of the two weights. -/
theorem tally_setPhase (weight : Phase → Nat) {i : Nat} {old : Phase} (h : s.phase? i = some old)
    (phase : Phase) :
    (s.setPhase i phase).tally weight + weight old = s.tally weight + weight phase := by
  obtain ⟨r, hr⟩ := s.phase?_eq_some.mp h
  exact sum_map_modify _ (fun member => weight member.phase) hr

theorem share_record (i : Nat) (es : List Event) (j : Nat) :
    (s.record i es).share j = s.share j ++ if i = j then es else [] := by
  rw [share, record, List.filter_append, List.map_append, List.filter_map, List.map_map]
  congr 1
  split
  · rename_i h
    have hall : es.filter ((fun e : Nat × Event => decide (e.1 = j)) ∘ fun e => (i, e)) = es :=
      List.filter_eq_self.mpr fun _ _ => decide_eq_true h
    rw [hall]
    exact List.map_id es
  · rename_i h
    have hnone : es.filter ((fun e : Nat × Event => decide (e.1 = j)) ∘ fun e => (i, e)) = [] :=
      List.filter_eq_nil_iff.mpr fun _ _ he => h (of_decide_eq_true he)
    rw [hnone]
    rfl

/-! ## 2. The state after a call, and after a permit is given back -/

section Call

variable (plan : RetryPlan) (t : Transport σ) (i : Nat) (r : Request) (made : UInt32)

/-- The reply to a request that is made now. -/
def replyNow : Reply := (t.reply r plan.timeout s.moment.state).1

/-- The phase of a member that makes a call now. -/
def callingNow : Phase :=
  .calling made (s.moment.now + (s.replyNow plan t r).latency) (s.replyNow plan t r)

theorem members_call :
    (s.call plan t i r made).members = (s.setPhase i (s.callingNow plan t r made)).members := rfl

theorem share_call (j : Nat) :
    (s.call plan t i r made).share j =
      s.share j ++ if i = j then plan.callEvents r s.moment.now (s.replyNow plan t r) else [] :=
  s.share_record i (plan.callEvents r s.moment.now (s.replyNow plan t r)) j

end Call

theorem release_of_empty {s : State σ} (h : s.queue = []) :
    s.release = { s with free := s.free + 1 } := by
  rw [release, h]

theorem release_of_cons {s : State σ} {j : Nat} {rest : List Nat} (h : s.queue = j :: rest) :
    s.release = { s.setPhase j .admitted with queue := rest } := by
  rw [release, h]

@[simp] theorem events_release : s.release.events = s.events := by
  unfold release
  split <;> rfl

@[simp] theorem moment_release : s.release.moment = s.moment := by
  unfold release
  split <;> rfl

@[simp] theorem share_release (j : Nat) : s.release.share j = s.share j := by
  rw [share, share, events_release]

theorem requests_release :
    s.release.members.map Member.request = s.members.map Member.request := by
  unfold release
  split
  · rfl
  · exact s.requests_setPhase _ _

end State

/-! ## 3. The moves of a member -/

section Moves

variable {σ : Type} (plan : RetryPlan) (t : Transport σ)

/-- A move of member `i`, with the state that it leads to. -/
inductive Move (s : State σ) (i : Nat) : State σ → Prop
  /-- It asks for a permit and has to queue. -/
  | enqueue (r : Request) (was : s.members[i]? = some ⟨r, .idle⟩) (full : s.free = 0) :
      Move s i { s.setPhase i .queued with queue := s.queue ++ [i] }
  /-- It asks for a permit, gets it and makes its first call. -/
  | enter (r : Request) (was : s.members[i]? = some ⟨r, .idle⟩) (room : 0 < s.free) :
      Move s i (State.call plan t { s with free := s.free - 1 } i r 0)
  /-- It was handed a permit and makes its first call. -/
  | begin (r : Request) (was : s.members[i]? = some ⟨r, .admitted⟩) :
      Move s i (s.call plan t i r 0)
  /-- It has rested and makes its next call. -/
  | resume (r : Request) (made : UInt32) (due : Nat)
      (was : s.members[i]? = some ⟨r, .resting made due⟩) (rung : due ≤ s.moment.now) :
      Move s i (s.call plan t i r made)
  /-- It has its reply, and another call will follow. -/
  | rest (r : Request) (made : UInt32) (due : Nat) (reply : Reply) (wait : Span) (notice : Notice)
      (was : s.members[i]? = some ⟨r, .calling made due reply⟩) (arrived : due ≤ s.moment.now)
      (again : plan.decide r (made + 1) reply.outcome = .again wait notice) :
      Move s i ((s.record i [.noticed notice, .waited s.moment.now wait]).setPhase i
        (.resting (made + 1) (s.moment.now + wait.restMillis)))
  /-- It has its last reply. -/
  | finish (r : Request) (made : UInt32) (due : Nat) (reply : Reply) (ending : Ending)
      (was : s.members[i]? = some ⟨r, .calling made due reply⟩) (arrived : due ≤ s.moment.now)
      (stop : plan.decide r (made + 1) reply.outcome = .stop ending) :
      Move s i (s.setPhase i (.finished s.moment.now ending)).release

variable {plan t}

/-- **A member that can act makes a move.** -/
theorem move_of_canAct {s : State σ} {i : Nat} (h : s.CanAct i) :
    Move plan t s i (s.act plan t i) := by
  obtain ⟨phase, hphase, hready⟩ := h
  obtain ⟨r, hr⟩ := s.phase?_eq_some.mp hphase
  cases phase with
  | idle =>
      by_cases hfree : 0 < s.free
      · have hact : s.act plan t i = State.call plan t { s with free := s.free - 1 } i r 0 := by
          simp only [State.act, hr, State.ask, if_pos hfree]
        rw [hact]
        exact .enter r hr hfree
      · have hact : s.act plan t i =
            { s.setPhase i .queued with queue := s.queue ++ [i] } := by
          simp only [State.act, hr, State.ask, if_neg hfree]
        rw [hact]
        exact .enqueue r hr (Nat.eq_zero_of_not_pos hfree)
  | queued => cases hready
  | admitted =>
      have hact : s.act plan t i = s.call plan t i r 0 := by simp only [State.act, hr]
      rw [hact]
      exact .begin r hr
  | calling made due reply =>
      have hdue : due ≤ s.moment.now := of_decide_eq_true hready
      have hact : s.act plan t i = s.settle plan i r made reply.outcome := by
        simp only [State.act, hr, if_pos hdue]
      rw [hact, State.settle]
      cases hdec : plan.decide r (made + 1) reply.outcome with
      | stop ending => exact .finish r made due reply ending hr hdue hdec
      | again wait notice => exact .rest r made due reply wait notice hr hdue hdec
  | resting made due =>
      have hdue : due ≤ s.moment.now := of_decide_eq_true hready
      have hact : s.act plan t i = s.call plan t i r made := by
        simp only [State.act, hr, if_pos hdue]
      rw [hact]
      exact .resume r made due hr hdue
  | finished time ending => cases hready

/-- A member that cannot act does nothing when it is called on. -/
theorem act_of_not_canAct {s : State σ} {i : Nat} (h : ¬ s.CanAct i) : s.act plan t i = s := by
  unfold State.act
  cases hi : s.members[i]? with
  | none => rfl
  | some member =>
      obtain ⟨r, phase⟩ := member
      have hnot : phase.isReady s.moment.now ≠ true :=
        fun hready => h ⟨phase, s.phase?_eq_some.mpr ⟨r, hi⟩, hready⟩
      cases phase with
      | idle => exact absurd rfl hnot
      | queued => rfl
      | admitted => exact absurd rfl hnot
      | calling made due reply => exact if_neg fun hdue => hnot (decide_eq_true hdue)
      | resting made due => exact if_neg fun hdue => hnot (decide_eq_true hdue)
      | finished time ending => rfl

/-- A step is a move of a member or the passing of time. -/
theorem Step.cases {s s' : State σ} (h : Step plan t s s') :
    (∃ i, s.CanAct i ∧ Move plan t s i s') ∨
      ∃ due, (∀ i, ¬ s.CanAct i) ∧ due ∈ s.dues ∧ (∀ d ∈ s.dues, due ≤ d) ∧ s' = s.atTime due := by
  cases h with
  | act i hi => exact .inl ⟨i, hi, move_of_canAct hi⟩
  | tick due idle known least => exact .inr ⟨due, idle, known, least, rfl⟩

/-- The requests of the members never change. -/
theorem Move.requests {s s' : State σ} {i : Nat} (h : Move plan t s i s') :
    s'.members.map Member.request = s.members.map Member.request := by
  cases h with
  | enqueue r was full => exact s.requests_setPhase i _
  | enter r was room => exact s.requests_setPhase i _
  | begin r was => exact s.requests_setPhase i _
  | resume r made due was rung => exact s.requests_setPhase i _
  | rest r made due reply wait notice was arrived again => exact s.requests_setPhase i _
  | finish r made due reply ending was arrived stop =>
      rw [State.requests_release]
      exact s.requests_setPhase i _

end Moves

/-! ## 4. Induction over the states that a group can come to -/

section Reachable

variable {σ : Type} {plan : RetryPlan} {t : Transport σ} {s₀ s : State σ}

/-- **What holds at first, and is kept by every move and by the passing of time, holds in every
    state that a group can come to.** -/
theorem Reachable.induct {motive : State σ → Prop} (h : Reachable plan t s₀ s) (first : motive s₀)
    (move : ∀ s s' i, Reachable plan t s₀ s → motive s → Move plan t s i s' → motive s')
    (tick : ∀ s due, Reachable plan t s₀ s → motive s → (∀ i, ¬ s.CanAct i) → due ∈ s.dues →
      (∀ d ∈ s.dues, due ≤ d) → motive (s.atTime due)) : motive s := by
  induction h with
  | start => exact first
  | step s s' before hs ih =>
      rcases hs.cases with ⟨i, -, hm⟩ | ⟨due, idle, known, least, rfl⟩
      · exact move s s' i before ih hm
      · exact tick s due before ih idle known least

theorem Reachable.trans {s' : State σ} (h : Reachable plan t s₀ s) (h' : Reachable plan t s s') :
    Reachable plan t s₀ s' := by
  induction h' with
  | start => exact h
  | step _ _ _ hs ih => exact .step _ _ ih hs

theorem Reachable.requests (h : Reachable plan t s₀ s) :
    s.members.map Member.request = s₀.members.map Member.request := by
  refine h.induct (motive := fun s => s.members.map Member.request = s₀.members.map Member.request)
    rfl (fun s s' i _ ih hm => ?_) (fun s due _ ih _ _ _ => ih)
  rw [hm.requests, ih]

theorem requests_start (requests : List Request) (permits : Nat) (m : Moment σ) :
    (State.start requests permits m).members.map Member.request = requests := by
  rw [State.start, List.map_map]
  exact List.map_id requests

variable {requests : List Request} {k : Nat} {m : Moment σ}

theorem Reachable.requests_eq (h : Reachable plan t (.start requests k m) s) :
    s.members.map Member.request = requests := by
  rw [h.requests, requests_start]

theorem Reachable.length_eq (h : Reachable plan t (.start requests k m) s) :
    s.members.length = requests.length := by
  rw [← h.requests_eq, List.length_map]

theorem Reachable.exists_member (h : Reachable plan t (.start requests k m) s) {i : Nat}
    {r : Request} (hi : requests[i]? = some r) : ∃ phase, s.members[i]? = some ⟨r, phase⟩ := by
  rw [← h.requests_eq, List.getElem?_map, Option.map_eq_some_iff] at hi
  obtain ⟨⟨q, phase⟩, hmember, rfl⟩ := hi
  exact ⟨phase, hmember⟩

end Reachable

end Courier.Group
