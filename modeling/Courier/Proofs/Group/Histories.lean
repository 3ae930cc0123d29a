import Courier.Proofs.Accounts
import Courier.Proofs.Group.Permits
import Mathlib.Logic.Function.Basic

/-!
# What happens to one member of a group

Seen from one member, a step of a group is one of a few changes of its phase and of its share of the
log, whoever makes the move (`Advance`, `Move.advance`). Along any run of the group these changes
follow the course of a run of attempts (`Follows`): the member is always some calls into such a run,
with the replies that the transport gave it.
-/

namespace Courier.Group

open RetryPlan

variable {σ : Type}

/-! ## 1. One step, seen from one member -/

/-- Call number `made` may be made now in a phase. -/
inductive MayCall (now : Nat) : Phase → UInt32 → Prop
  | entering : MayCall now .idle 0
  | handed : MayCall now .admitted 0
  | rested {made : UInt32} {due : Nat} (rung : due ≤ now) : MayCall now (.resting made due) made

section Advance

variable (plan : RetryPlan) (t : Transport σ) (m : Moment σ) (r : Request)

/-- What a move of any member may make of a member with this request: its phase and its share of
    the log before, and after. -/
inductive Advance : Phase → List Event → Phase → List Event → Prop
  | stay (phase : Phase) (es : List Event) : Advance phase es phase es
  | enqueue (es : List Event) : Advance .idle es .queued es
  | grant (es : List Event) : Advance .queued es .admitted es
  | call {phase : Phase} {made : UInt32} (es : List Event) (may : MayCall m.now phase made)
      (reply : Reply) (given : reply = (t.reply r plan.timeout m.state).1) :
      Advance phase es (.calling made (m.now + reply.latency) reply)
        (es ++ plan.callEvents r m.now reply)
  | rest {made : UInt32} {due : Nat} {reply : Reply} (es : List Event) (arrived : due ≤ m.now)
      {wait : Span} {notice : Notice}
      (again : plan.decide r (made + 1) reply.outcome = .again wait notice) :
      Advance (.calling made due reply) es (.resting (made + 1) (m.now + wait.restMillis))
        (es ++ [.noticed notice, .waited m.now wait])
  | finish {made : UInt32} {due : Nat} {reply : Reply} (es : List Event) (arrived : due ≤ m.now)
      {ending : Ending} (stop : plan.decide r (made + 1) reply.outcome = .stop ending) :
      Advance (.calling made due reply) es (.finished m.now ending) es

end Advance

theorem getElem?_setPhase_self {s : State σ} {i : Nat} {r : Request} {old : Phase}
    (h : s.members[i]? = some ⟨r, old⟩) (phase : Phase) :
    (s.setPhase i phase).members[i]? = some ⟨r, phase⟩ := by
  rw [State.getElem?_setPhase, if_pos rfl, h]
  rfl

theorem getElem?_setPhase_ne {s : State σ} {i j : Nat} (h : i ≠ j) (phase : Phase) :
    (s.setPhase i phase).members[j]? = s.members[j]? := by
  rw [State.getElem?_setPhase, if_neg h]

section Moves

variable {plan : RetryPlan} {t : Transport σ} {k : Nat} {s s' : State σ} {i j : Nat} {r : Request}
  {phase : Phase}

/-- A call advances the member that makes it and no other. -/
theorem call_advance {q : Request} {made : UInt32} {old : Phase}
    (was : s.members[i]? = some ⟨q, old⟩) (may : MayCall s.moment.now old made)
    (hj : s.members[j]? = some ⟨r, phase⟩) :
    ∃ phase', (s.call plan t i q made).members[j]? = some ⟨r, phase'⟩ ∧
      Advance plan t s.moment r phase (s.share j) phase' ((s.call plan t i q made).share j) := by
  rw [State.members_call, State.share_call]
  rcases eq_or_ne i j with rfl | hne
  · rw [hj] at was
    cases was
    rw [if_pos rfl]
    exact ⟨_, getElem?_setPhase_self hj _, .call _ may _ rfl⟩
  · rw [if_neg hne, List.append_nil]
    exact ⟨phase, (getElem?_setPhase_ne hne _).trans hj, .stay phase _⟩

/-- A permit that is given back admits the first in the queue and leaves everybody else alone. -/
theorem getElem?_release (hq : ∀ l ∈ s.queue, s.phase? l = some .queued)
    (hj : s.members[j]? = some ⟨r, phase⟩) :
    s.release.members[j]? = some ⟨r, phase⟩ ∨
      phase = .queued ∧ s.release.members[j]? = some ⟨r, .admitted⟩ := by
  cases hqueue : s.queue with
  | nil =>
      rw [State.release_of_empty hqueue]
      exact .inl hj
  | cons l rest =>
      rw [State.release_of_cons hqueue]
      rcases eq_or_ne l j with rfl | hne
      · have hphase := hq l (hqueue ▸ List.mem_cons_self)
        rw [State.phase?_of_member hj] at hphase
        exact .inr ⟨Option.some.inj hphase, getElem?_setPhase_self hj _⟩
      · exact .inl ((getElem?_setPhase_ne hne _).trans hj)

/-- **A move advances each member in one of the known ways.** -/
theorem Move.advance (hI : Permits k s) (h : Move plan t s i s')
    (hj : s.members[j]? = some ⟨r, phase⟩) :
    ∃ phase', s'.members[j]? = some ⟨r, phase'⟩ ∧
      Advance plan t s.moment r phase (s.share j) phase' (s'.share j) := by
  cases h with
  | enqueue q was full =>
      rcases eq_or_ne i j with rfl | hne
      · rw [hj] at was
        cases was
        exact ⟨.queued, getElem?_setPhase_self hj _, .enqueue _⟩
      · exact ⟨phase, (getElem?_setPhase_ne hne _).trans hj, .stay phase _⟩
  | enter q was room => exact call_advance was .entering hj
  | begin q was => exact call_advance was .handed hj
  | resume q made due was rung => exact call_advance was (.rested rung) hj
  | rest q made due reply wait notice was arrived again =>
      have hshare := s.share_record i [.noticed notice, .waited s.moment.now wait] j
      rcases eq_or_ne i j with rfl | hne
      · rw [hj] at was
        cases was
        rw [if_pos rfl] at hshare
        refine ⟨_, getElem?_setPhase_self (s := s.record i _) hj _, ?_⟩
        have hadv : Advance plan t s.moment r (.calling made due reply) (s.share i) _ _ :=
          .rest _ arrived again
        rw [← hshare] at hadv
        exact hadv
      · rw [if_neg hne, List.append_nil] at hshare
        refine ⟨phase, (getElem?_setPhase_ne (s := s.record i _) hne _).trans hj, ?_⟩
        have hadv : Advance plan t s.moment r phase (s.share j) phase (s.share j) := .stay phase _
        nth_rewrite 2 [← hshare] at hadv
        exact hadv
  | finish q made due reply ending was arrived stop =>
      have hended : Phase.finished s.moment.now ending ≠ .queued := nofun
      have hq : ∀ l ∈ (s.setPhase i (.finished s.moment.now ending)).queue,
          (s.setPhase i (.finished s.moment.now ending)).phase? l = some .queued := fun l hl =>
        (mem_queue_setPhase hI.mem_queue (State.phase?_of_member was) nofun hended l).mp hl
      rw [State.share_release]
      rcases eq_or_ne i j with rfl | hne
      · rw [hj] at was
        cases was
        -- nobody that has ended is in the queue, so the permit goes to another member
        have hself := getElem?_setPhase_self hj (.finished s.moment.now ending)
        have hkept := (getElem?_release hq hself).resolve_right fun h => hended h.1
        exact ⟨_, hkept, .finish _ arrived stop⟩
      · have hother := (getElem?_setPhase_ne hne (.finished s.moment.now ending)).trans hj
        rcases getElem?_release hq hother with h | ⟨rfl, h⟩
        · exact ⟨phase, h, .stay phase _⟩
        · exact ⟨.admitted, h, .grant _⟩

/-- **A member after a move has come from the same member before it, in one of the known ways.** -/
theorem Move.advance_of (hI : Permits k s) (h : Move plan t s i s')
    (hj : s'.members[j]? = some ⟨r, phase⟩) :
    ∃ before, s.members[j]? = some ⟨r, before⟩ ∧
      Advance plan t s.moment r before (s.share j) phase (s'.share j) := by
  have hreq : (s.members.map Member.request)[j]? = some r := by
    rw [← h.requests, List.getElem?_map, hj]
    rfl
  rw [List.getElem?_map, Option.map_eq_some_iff] at hreq
  obtain ⟨⟨q, before⟩, hbefore, rfl⟩ := hreq
  obtain ⟨phase', hphase', hadv⟩ := h.advance hI hbefore
  rw [hj] at hphase'
  cases hphase'
  exact ⟨before, hbefore, hadv⟩

theorem Move.now (h : Move plan t s i s') : s'.moment.now = s.moment.now := by
  cases h with
  | finish q made due reply ending was arrived stop => rw [State.moment_release]; rfl
  | _ => rfl

/-! ## 2. Nobody is late -/

/-- No time at which a member acts next has passed. -/
def Timely (s : State σ) : Prop :=
  ∀ j phase d, s.phase? j = some phase → phase.due? = some d → s.moment.now ≤ d

theorem mem_dues {d : Nat} (hj : s.phase? j = some phase) (hd : phase.due? = some d) :
    d ∈ s.dues := by
  obtain ⟨q, hq⟩ := s.phase?_eq_some.mp hj
  exact List.mem_filterMap.mpr ⟨_, List.mem_of_getElem? hq, hd⟩

theorem exists_of_mem_dues {d : Nat} (h : d ∈ s.dues) :
    ∃ i phase, s.phase? i = some phase ∧ phase.due? = some d := by
  obtain ⟨⟨r, phase⟩, hmem, hd⟩ := List.mem_filterMap.mp h
  obtain ⟨i, hi⟩ := List.mem_iff_getElem?.mp hmem
  exact ⟨i, phase, State.phase?_of_member hi, hd⟩

theorem Timely.move (hT : Timely s) (hI : Permits k s) (h : Move plan t s i s') : Timely s' := by
  intro j phase d hj hd
  obtain ⟨q, hq⟩ := s'.phase?_eq_some.mp hj
  obtain ⟨before, hbefore, hadv⟩ := h.advance_of hI hq
  rw [h.now]
  generalize s.share j = es, s'.share j = es' at hadv
  cases hadv with
  | stay => exact hT j phase d (State.phase?_of_member hbefore) hd
  | enqueue => cases hd
  | grant => cases hd
  | call _ may reply given =>
      cases hd
      exact Nat.le_add_right _ _
  | rest _ arrived again =>
      cases hd
      exact Nat.le_add_right _ _
  | finish => cases hd

theorem Timely.tick {due : Nat} (least : ∀ d ∈ s.dues, due ≤ d) : Timely (s.atTime due) :=
  fun _ _ d hj hd => least d (mem_dues hj hd)

/-- **Nobody is ever late**: time passes only up to the next moment at which somebody acts. -/
theorem Reachable.timely {requests : List Request} {m : Moment σ}
    (h : Reachable plan t (.start requests k m) s) : Timely s := by
  refine h.induct (fun j phase d hj hd => ?_) (fun s s' i before hT hm => hT.move before.permits hm)
    (fun s due _ _ _ _ least => Timely.tick least)
  cases phase?_start hj
  cases hd

end Moves

/-! ## 3. The course of a member -/

section Course

variable (plan : RetryPlan) (r : Request) (replies : Nat → Reply) (start : Nat)

/-- How far a member can have come with its share of the log, when its first call begins at `start`
    and its calls get these replies. -/
inductive Follows : Phase → List Event → Prop
  | idle : Follows .idle []
  | queued : Follows .queued []
  | admitted : Follows .admitted []
  | calling {made : UInt32} (below : made.toNat < plan.budget)
      (retried : ∀ k < made.toNat, (replies k).outcome.MeritsRetry) :
      Follows (.calling made
          (start + plan.offset replies made.toNat + (replies made.toNat).latency)
          (replies made.toNat))
        (plan.eventsThrough r replies start made.toNat)
  | resting {made : UInt32} (below : made.toNat < plan.budget)
      (retried : ∀ k < made.toNat, (replies k).outcome.MeritsRetry) :
      Follows (.resting made (start + plan.offset replies made.toNat))
        (plan.eventsBefore r replies start made.toNat)
  | finished {last : Nat} (ends : plan.Ends replies last) :
      Follows (.finished (start + plan.offset replies last + (replies last).latency)
          ((replies last).outcome.ending r))
        (plan.eventsThrough r replies start last)

variable {plan r replies start}

/-- A member that has ended has come to the end of its course. -/
theorem Follows.ends {phase : Phase} {es : List Event} (h : Follows plan r replies start phase es)
    (ended : phase.isFinished = true) :
    ∃ last, plan.Ends replies last ∧ es = plan.eventsThrough r replies start last ∧
      phase = .finished (start + plan.offset replies last + (replies last).latency)
        ((replies last).outcome.ending r) := by
  cases h with
  | finished ends => exact ⟨_, ends, rfl, rfl⟩
  | _ => cases ended

/-- A member that makes call number `made` has made as many calls. -/
theorem Follows.length_answersOf {now : Nat} {phase : Phase} {made : UInt32} {es : List Event}
    (h : Follows plan r replies start phase es) (may : MayCall now phase made) :
    (answersOf es).length = made.toNat := by
  cases may with
  | entering =>
      cases h
      rfl
  | handed =>
      cases h
      rfl
  | rested rung =>
      cases h with
      | resting below retried =>
          rw [RetryPlan.answersOf_eventsBefore, List.length_map, List.length_range]

/-- What a member may call with has no part in how it has come so far. -/
theorem Follows.congr_of_mayCall {now : Nat} {phase : Phase} {made : UInt32} {es : List Event}
    (h : Follows plan r replies start phase es) (may : MayCall now phase made)
    (replies' : Nat → Reply) (same : ∀ k < made.toNat, replies' k = replies k) :
    Follows plan r replies' start phase es := by
  cases may with
  | entering =>
      cases h
      exact .idle
  | handed =>
      cases h
      exact .admitted
  | rested rung =>
      cases h with
      | resting below retried =>
          rw [← plan.eventsBefore_congr r replies start same, ← plan.offset_congr replies same]
          refine .resting below fun k hk => ?_
          rw [same k hk]
          exact retried k hk

/-- A member that may make a call now makes the next one of its course, or the first one, with which
    the course starts. -/
theorem Follows.call {now : Nat} {phase : Phase} {made : UInt32} {es : List Event}
    (h : Follows plan r replies start phase es) (may : MayCall now phase made)
    (timely : ∀ d, phase.due? = some d → now ≤ d) :
    ∃ start', Follows plan r replies start'
        (.calling made (now + (replies made.toNat).latency) (replies made.toNat))
        (es ++ plan.callEvents r now (replies made.toNat)) ∧
      (start' = start ∨ phase.due? = none ∧ start' = now) := by
  cases may with
  | entering =>
      cases h
      exact ⟨now, .calling plan.budget_pos fun k hk => absurd hk (Nat.not_lt_zero k),
        .inr ⟨rfl, rfl⟩⟩
  | handed =>
      cases h
      exact ⟨now, .calling plan.budget_pos fun k hk => absurd hk (Nat.not_lt_zero k),
        .inr ⟨rfl, rfl⟩⟩
  | rested rung =>
      cases h with
      | resting below retried =>
          have hnow : now = start + plan.offset replies made.toNat :=
            Nat.le_antisymm (timely _ rfl) rung
          rw [hnow]
          exact ⟨start, .calling below retried, .inl rfl⟩

/-- **A member follows the course of a run of attempts.** Where it makes a call, the reply is the
    next one of the course; any other step keeps the course as it is. The course starts with the
    first call. -/
theorem Follows.advance {t : Transport σ} {m : Moment σ} {phase phase' : Phase}
    {es es' : List Event} (h : Follows plan r replies start phase es)
    (timely : ∀ d, phase.due? = some d → m.now ≤ d)
    (hadv : Advance plan t m r phase es phase' es') :
    ∃ replies' start', Follows plan r replies' start' phase' es' ∧
      ((∀ made, MayCall m.now phase made →
        (t.reply r plan.timeout m.state).1 = replies made.toNat) → replies' = replies) ∧
      (start' = start ∨ phase.due? = none ∧ start' = m.now) := by
  cases hadv with
  | stay => exact ⟨replies, start, h, fun _ => rfl, .inl rfl⟩
  | enqueue =>
      cases h
      exact ⟨replies, start, .queued, fun _ => rfl, .inl rfl⟩
  | grant =>
      cases h
      exact ⟨replies, start, .admitted, fun _ => rfl, .inl rfl⟩
  | @call _ made _ may reply given =>
      have hcourse := h.congr_of_mayCall may (Function.update replies made.toNat reply)
        fun k hk => Function.update_of_ne (Nat.ne_of_lt hk) _ _
      obtain ⟨start', hcall, hstart⟩ := hcourse.call may timely
      rw [Function.update_self] at hcall
      refine ⟨_, start', hcall, fun same => ?_, hstart⟩
      rw [given, same made may, Function.update_eq_self]
  | @rest made _ _ _ arrived _ _ again =>
      cases h with
      | calling below retried =>
          obtain ⟨merits, more, rfl, hwarn⟩ := of_decide_eq_again below again
          have hsucc := toNat_succ_of_lt_budget below
          have hnow := Nat.le_antisymm (timely _ rfl) arrived
          have hcourse : Follows plan r replies start
              (.resting (made + 1) (start + plan.offset replies (made + 1).toNat))
              (plan.eventsBefore r replies start (made + 1).toNat) := by
            refine .resting (by rw [hsucc]; exact more) fun k hk => ?_
            rw [hsucc] at hk
            rcases Nat.lt_succ_iff_lt_or_eq.mp hk with hlt | rfl
            · exact retried k hlt
            · exact merits
          rw [hsucc, eventsBefore_succ, gapPart, hwarn, offset, ← Nat.add_assoc, ← Nat.add_assoc,
            ← hnow] at hcourse
          exact ⟨replies, start, hcourse, fun _ => rfl, .inl rfl⟩
  | finish _ arrived stop =>
      cases h with
      | calling below retried =>
          obtain ⟨final, rfl⟩ := of_decide_eq_stop below stop
          have hnow := Nat.le_antisymm (timely _ rfl) arrived
          rw [hnow]
          exact ⟨replies, start, .finished ⟨below, retried, final⟩, fun _ => rfl, .inl rfl⟩

end Course

section Reachable

variable {plan : RetryPlan} {t : Transport σ} {k : Nat} {s : State σ} {requests : List Request}
  {m : Moment σ}

/-- **Every member is on the course of a run of attempts**, with some replies of its own. -/
theorem Reachable.follows (h : Reachable plan t (.start requests k m) s) :
    ∀ j r phase, s.members[j]? = some ⟨r, phase⟩ →
      ∃ replies start, Follows plan r replies start phase (s.share j) := by
  refine h.induct
    (motive := fun s => ∀ j r phase, s.members[j]? = some ⟨r, phase⟩ →
      ∃ replies start, Follows plan r replies start phase (s.share j)) ?_ ?_ ?_
  · intro j r phase hj
    cases phase?_start (State.phase?_of_member hj)
    exact ⟨fun _ => ⟨none, .crashed ""⟩, 0, .idle⟩
  · intro s s' i before ih hm j r phase hj
    obtain ⟨old, hold, hadv⟩ := hm.advance_of before.permits hj
    obtain ⟨replies, start, hf⟩ := ih j r old hold
    obtain ⟨replies', start', hf', -, -⟩ := hf.advance
      (fun d hd => before.timely j old d (State.phase?_of_member hold) hd) hadv
    exact ⟨replies', start', hf'⟩
  · intro s due _ ih _ _ _ j r phase hj
    exact ih j r phase hj

end Reachable

end Courier.Group
