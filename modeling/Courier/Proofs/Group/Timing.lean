import Courier.Proofs.Group.Fairness
import Courier.Proofs.Group.Logs
import Courier.Proofs.Group.Timetable

/-!
# When the members of a group begin and end

A group whose members ask for permits in input order keeps a schedule (`timing`). The first members,
as many as there are permits, begin when the group does; each of the others begins when one before
it ends, the first of them at the first end, the next at the next. The group is over when the last
of its members ends.

Whoever has got a permit holds it or has ended (`Lined.holders_add_ends`), so at the moment at which
a member gets its permit the number of those who have ended is known. What `Entry` says of that
moment is kept by everything that follows, since ends that are still to come are no earlier.
-/

namespace Courier

/-- When a member in this phase ended, if it has. -/
def Phase.end? : Phase → Option Nat
  | .finished time _ => some time
  | _ => none

/-- When the first call among events begins. -/
def firstStart? (es : List Event) : Option Nat := (callsOf es).head?.map Call.start

/-- When the last call among events has its reply. -/
def lastFinish? (es : List Event) : Option Nat := (callsOf es).getLast?.map Call.finish

/-- A member in this phase holds up the clock: it waits for a time, or it ended at this one. -/
def Phase.Paces (now : Nat) (phase : Phase) : Prop :=
  phase.due? ≠ none ∨ phase.end? = some now

/-- Whoever has got a permit holds it or has ended. -/
theorem Phase.permits_add_end {phase : Phase} (h : phase.hasEntered = true) :
    phase.permits + phase.end?.toList.length = 1 := by
  cases phase with
  | idle => cases h
  | queued => cases h
  | _ => rfl

theorem firstStart?_append {es : List Event} {b : Nat} (h : firstStart? es = some b)
    (es' : List Event) : firstStart? (es ++ es') = some b := by
  obtain ⟨call, hcall, rfl⟩ := Option.map_eq_some_iff.mp h
  rw [firstStart?, callsOf, List.filterMap_append, List.head?_append]
  rw [callsOf] at hcall
  rw [hcall]
  rfl

/-- The first call of a run of attempts begins at its start, and the last has its reply at its
    end. -/
theorem RetryPlan.firstStart?_eventsThrough (plan : RetryPlan) (r : Request)
    (replies : Nat → Reply) (start last : Nat) :
    firstStart? (plan.eventsThrough r replies start last) = some start := by
  rw [firstStart?, callsOf_eventsThrough, List.range_succ_eq_map]
  rfl

theorem RetryPlan.lastFinish?_eventsThrough (plan : RetryPlan) (r : Request)
    (replies : Nat → Reply) (start last : Nat) :
    lastFinish? (plan.eventsThrough r replies start last) =
      some (start + plan.offset replies last + (replies last).latency) := by
  rw [lastFinish?, callsOf_eventsThrough, List.range_succ, List.map_append, List.map_singleton,
    List.getLast?_concat]
  rfl

namespace Group

variable {σ : Type} {plan : RetryPlan} {t : Transport σ} {k : Nat} {s s' : State σ} {i j : Nat}
  {requests : List Request} {m : Moment σ}

/-! ## 1. The clock -/

theorem Reachable.start_le (h : Reachable plan t (.start requests k m) s) :
    m.now ≤ s.moment.now := by
  refine h.induct (motive := fun s => m.now ≤ s.moment.now) (Nat.le_refl m.now)
    (fun s s' i _ ih hm => ?_) (fun s due before ih _ known _ => ?_)
  · rw [hm.now]
    exact ih
  · obtain ⟨l, phase, hl, hd⟩ := exists_of_mem_dues known
    exact Nat.le_trans ih (before.timely l phase due hl hd)

/-! ## 2. When members end -/

/-- When member `i` ended, if it has. -/
def State.end? (s : State σ) (i : Nat) : Option Nat := (s.phase? i).bind Phase.end?

/-- When the members before `n` ended, those that have. -/
def State.ends (s : State σ) (n : Nat) : List Nat := (List.range n).filterMap s.end?

theorem State.ends_succ (s : State σ) (n : Nat) :
    s.ends (n + 1) = s.ends n ++ (s.end? n).toList := by
  rw [ends, List.range_succ, List.filterMap_append]
  cases h : s.end? n <;> simp [ends, h]

theorem State.end?_of_phase? {phase : Phase} (h : s.phase? i = some phase) :
    s.end? i = phase.end? := by
  rw [end?, h]
  rfl

theorem Advance.end? {r : Request} {phase phase' : Phase} {es es' : List Event}
    (h : Advance plan t m r phase es phase' es') :
    phase'.end? = phase.end? ∨ phase.end? = none ∧ phase'.end? = some m.now := by
  cases h with
  | call _ may _ _ => cases may <;> exact .inl rfl
  | finish => exact .inr ⟨rfl, rfl⟩
  | _ => exact .inl rfl

/-- Whoever ends does so now, and whoever has ended has ended for good. -/
theorem Move.end? (hI : Permits k s) (h : Move plan t s i s') (j : Nat) :
    s'.end? j = s.end? j ∨ s.end? j = none ∧ s'.end? j = some s.moment.now := by
  by_cases hj : j < s.members.length
  · obtain ⟨phase, hphase⟩ := exists_phase? hj
    obtain ⟨r, hr⟩ := s.phase?_eq_some.mp hphase
    obtain ⟨phase', hnext, hadv⟩ := h.advance hI hr
    rw [State.end?_of_phase? hphase, State.end?_of_phase? (State.phase?_of_member hnext)]
    exact hadv.end?
  · have hnone : ∀ x : State σ, x.members.length = s.members.length → x.end? j = none := by
      intro x hx
      rw [State.end?, State.phase?, List.getElem?_eq_none (by omega)]
      rfl
    exact .inl ((hnone s' h.length_eq).trans (hnone s rfl).symm)

theorem Reachable.end_bounds (h : Reachable plan t (.start requests k m) s) :
    ∀ j e, s.end? j = some e → m.now ≤ e ∧ e ≤ s.moment.now := by
  refine h.induct (motive := fun s => ∀ j e, s.end? j = some e → m.now ≤ e ∧ e ≤ s.moment.now)
    (fun j e he => ?_) (fun s s' i before ih hm j e he => ?_)
    (fun s due before ih _ known _ j e he => ?_)
  · obtain ⟨phase, hphase, hend⟩ := Option.bind_eq_some_iff.mp he
    rw [phase?_start hphase] at hend
    cases hend
  · rw [hm.now]
    rcases hm.end? before.permits j with heq | ⟨-, hnow⟩
    · exact ih j e (heq ▸ he)
    · rw [hnow] at he
      cases he
      exact ⟨before.start_le, Nat.le_refl _⟩
  · obtain ⟨l, phase, hl, hd⟩ := exists_of_mem_dues known
    obtain ⟨hlow, hhigh⟩ := ih j e he
    exact ⟨hlow, Nat.le_trans hhigh (before.timely l phase due hl hd)⟩

/-- A member that holds up the clock, by a time that it waits for or by having ended now, still
    does so after a move. -/
theorem Advance.paces {r : Request} {phase phase' : Phase} {es es' : List Event}
    (h : Advance plan t m r phase es phase' es') (paces : phase.Paces m.now) :
    phase'.Paces m.now := by
  cases h with
  | stay => exact paces
  | enqueue => exact absurd rfl (paces.resolve_right nofun)
  | grant => exact absurd rfl (paces.resolve_right nofun)
  | call => exact .inl nofun
  | rest => exact .inl nofun
  | finish => exact .inr rfl

/-- **Time passes only for somebody**: for one that waits, or that has ended just now. -/
theorem Reachable.paced (h : Reachable plan t (.start requests k m) s) :
    s.moment.now = m.now ∨ ∃ j phase, s.phase? j = some phase ∧ phase.Paces s.moment.now := by
  refine h.induct
    (motive := fun s => s.moment.now = m.now ∨
      ∃ j phase, s.phase? j = some phase ∧ phase.Paces s.moment.now)
    (.inl rfl) (fun s s' i before ih hm => ?_) (fun s due _ _ _ known _ => ?_)
  · rw [hm.now]
    rcases ih with hstart | ⟨j, phase, hphase, paces⟩
    · exact .inl hstart
    · obtain ⟨r, hr⟩ := s.phase?_eq_some.mp hphase
      obtain ⟨phase', hnext, hadv⟩ := hm.advance before.permits hr
      exact .inr ⟨j, phase', State.phase?_of_member hnext, hadv.paces paces⟩
  · obtain ⟨l, phase, hl, hd⟩ := exists_of_mem_dues known
    exact .inr ⟨l, phase, hl, .inl fun hnone => by rw [hd] at hnone; cases hnone⟩

/-- **A group is over when the last of its members ends.** -/
theorem Complete.now_eq (h : Complete plan t (.start requests k m) s) (pos : 0 < k) :
    s.moment.now = m.now ∨ ∃ j, s.end? j = some s.moment.now := by
  rcases h.reachable.paced with hstart | ⟨j, phase, hphase, hdue | hend⟩
  · exact .inl hstart
  · have hended := h.finished pos hphase
    cases phase with
    | finished time ending => exact absurd rfl hdue
    | _ => cases hended
  · exact .inr ⟨j, (State.end?_of_phase? hphase).trans hend⟩

/-! ## 3. How many have ended -/

theorem Lined.holders_upTo {front back : Nat} (hl : Lined s front back) {n : Nat} (hn : n ≤ front) :
    ((s.members.take n).countP fun member => member.phase.holdsPermit) + (s.ends n).length = n := by
  induction n with
  | zero => rfl
  | succ n ih =>
    obtain ⟨phase, hphase, hentered⟩ := hl.entered n hn
    obtain ⟨r, hr⟩ := s.phase?_eq_some.mp hphase
    have hbefore := ih (Nat.le_of_succ_le hn)
    have hself := Phase.permits_add_end hentered
    have hcount : ([⟨r, phase⟩] : List Member).countP (fun member => member.phase.holdsPermit) =
        phase.permits := List.countP_singleton
    rw [List.take_add_one, hr, s.ends_succ, State.end?_of_phase? hphase, Option.toList_some,
      List.countP_append, hcount, List.length_append]
    omega

/-- **Whoever has got a permit holds it or has ended.** -/
theorem Lined.holders_add_ends {front back : Nat} (hl : Lined s front back) :
    s.holders + (s.ends front).length = front := by
  have hothers : ((s.members.drop front).countP fun member => member.phase.holdsPermit) = 0 := by
    refine List.countP_eq_zero.mpr fun member hmem hholds => ?_
    obtain ⟨j, hj⟩ := List.mem_iff_getElem?.mp hmem
    rw [List.getElem?_drop] at hj
    have := hl.lt_front (State.phase?_of_member hj) (Phase.hasEntered_of_holdsPermit hholds)
    omega
  have hall := hl.holders_upTo (Nat.le_refl front)
  rw [State.holders, ← List.take_append_drop front s.members, List.countP_append, hothers]
  exact hall

/-! ## 4. When members get their permits -/

theorem Move.countP_ends_le (hI : Permits k s) (h : Move plan t s i s') (n : Nat)
    (p : Nat → Bool) : (s.ends n).countP p ≤ (s'.ends n).countP p := by
  rw [State.ends, State.ends, List.countP_filterMap, List.countP_filterMap]
  refine List.countP_mono_left fun j _ hj => ?_
  rcases h.end? hI j with heq | ⟨hnone, -⟩
  · rw [heq]
    exact hj
  · rw [hnone] at hj
    cases hj

/-- A move adds no end before a time that has come. -/
theorem Move.countP_ends_lt (hI : Permits k s) (h : Move plan t s i s') (n : Nat) {x : Nat}
    (hx : x ≤ s.moment.now) : (s'.ends n).countP (· < x) = (s.ends n).countP (· < x) := by
  rw [State.ends, State.ends, List.countP_filterMap, List.countP_filterMap]
  refine List.countP_congr fun j _ => ?_
  rcases h.end? hI j with heq | ⟨hnone, hnow⟩
  · rw [heq]
  · rw [hnone, hnow]
    simp only [Option.map_some, Option.map_none, Option.getD_some, Option.getD_none,
      decide_eq_true_eq, Bool.false_eq_true, iff_false]
    omega

/-- Member `i` got its permit at a time: it was handed it now, or its first call was made then. -/
inductive EnteredAt (s : State σ) (i b : Nat) : Prop
  | now (handed : s.phase? i = some .admitted) (eq : b = s.moment.now)
  | called (begins : firstStart? (s.share i) = some b)

theorem Move.share_grows (h : Move plan t s i s') (j : Nat) :
    ∃ es, s'.share j = s.share j ++ es := by
  cases h.adds with
  | call r own state events => exact ⟨_, share_of_events events j⟩
  | silent es quiet own state events => exact ⟨_, share_of_events events j⟩

/-- A member that has made no call and makes one now, or is admitted now, got its permit now. -/
theorem Advance.entered {r : Request} {phase phase' : Phase} {es es' : List Event}
    (h : Advance plan t m r phase es phase' es') (fresh : es = [])
    (was : phase = .admitted ∨ phase.hasEntered = false) (hentered : phase'.hasEntered = true) :
    phase'.end? = none ∧ (phase' = .admitted ∨ firstStart? es' = some m.now) := by
  subst fresh
  cases h with
  | stay =>
      rcases was with rfl | hnot
      · exact ⟨rfl, .inl rfl⟩
      · rw [hnot] at hentered
        cases hentered
  | enqueue => cases hentered
  | grant => exact ⟨rfl, .inl rfl⟩
  | call => exact ⟨rfl, .inr rfl⟩
  | _ => rcases was with h | h <;> cases h

/-- A member that has not got its permit, or only now, has made no call. -/
theorem Follows.fresh {r : Request} {replies : Nat → Reply} {start : Nat} {phase : Phase}
    {es : List Event} (h : Follows plan r replies start phase es)
    (was : phase = .admitted ∨ phase.hasEntered = false) : es = [] := by
  cases h with
  | idle => rfl
  | queued => rfl
  | admitted => rfl
  | _ => rcases was with h | h <;> cases h

/-- Whoever has got its permit by a move, or just before it, has got it now. -/
theorem Move.entered (before : Reachable plan t (.start requests k m) s)
    (h : Move plan t s i s') {phase phase' : Phase} (hj : s.phase? j = some phase)
    (was : phase = .admitted ∨ phase.hasEntered = false)
    (hj' : s'.phase? j = some phase') (hentered : phase'.hasEntered = true) :
    s'.end? j = none ∧ EnteredAt s' j s'.moment.now := by
  obtain ⟨r, hr⟩ := s.phase?_eq_some.mp hj
  obtain ⟨next, hnext, hadv⟩ := h.advance before.permits hr
  obtain rfl : phase' = next := by
    rw [State.phase?_of_member hnext] at hj'
    exact (Option.some.inj hj').symm
  obtain ⟨replies, start, hf⟩ := before.follows j r phase hr
  obtain ⟨unended, hnow⟩ := hadv.entered (hf.fresh was) was hentered
  refine ⟨(State.end?_of_phase? hj').trans unended, ?_⟩
  rw [h.now]
  rcases hnow with rfl | hstart
  · exact .now hj' h.now.symm
  · exact .called hstart

/-- Whoever has got its permit has got it at that time for good. -/
theorem EnteredAt.move {b : Nat} (before : Reachable plan t (.start requests k m) s)
    (h : Move plan t s i s') (entered : EnteredAt s j b) : EnteredAt s' j b := by
  cases entered with
  | now handed eq =>
      obtain ⟨r, hr⟩ := s.phase?_eq_some.mp handed
      obtain ⟨phase', hnext, hadv⟩ := h.advance before.permits hr
      have hkept : phase'.hasEntered = true := by
        generalize s.share j = es, s'.share j = es' at hadv
        cases hadv with
        | stay => rfl
        | call => rfl
      rw [eq, ← h.now]
      exact (h.entered before handed (.inl rfl) (State.phase?_of_member hnext) hkept).2
  | called begins =>
      obtain ⟨es, hes⟩ := h.share_grows j
      refine .called ?_
      rw [hes]
      exact firstStart?_append begins es

/-- When member `i` got its permit, and that it was neither too early nor too late: the permit was
    there, and no other had been there before that nobody had taken. -/
structure Entry (k start : Nat) (s : State σ) (i b : Nat) : Prop where
  entered : EnteredAt s i b
  start_le : start ≤ b
  le_now : b ≤ s.moment.now
  ranked : Ranked (List.replicate k start ++ s.ends i) i b

theorem Entry.move {b : Nat} (before : Reachable plan t (.start requests k m) s)
    (hm : Move plan t s i s') (h : Entry k m.now s j b) : Entry k m.now s' j b := by
  obtain ⟨hlow, hhigh⟩ := h.ranked
  have hI := before.permits
  rw [List.countP_append] at hlow hhigh
  refine ⟨h.entered.move before hm, h.start_le, by rw [hm.now]; exact h.le_now, ?_, ?_⟩
  · rw [List.countP_append, hm.countP_ends_lt hI j h.le_now]
    exact hlow
  · rw [List.countP_append]
    exact Nat.lt_of_lt_of_le hhigh (Nat.add_le_add_left (hm.countP_ends_le hI j _) _)

theorem Entry.tick {b due : Nat} (h : Entry k m.now s j b) (idle : ∀ i, ¬ s.CanAct i)
    (later : s.moment.now ≤ due) : Entry k m.now (s.atTime due) j b := by
  refine ⟨?_, h.start_le, Nat.le_trans h.le_now later, h.ranked⟩
  cases h.entered with
  | now handed eq => exact absurd ⟨_, handed, rfl⟩ (idle j)
  | called begins => exact .called begins

/-- The entry of the member that has got its permit last. -/
theorem entry_now {front back : Nat} (h : Reachable plan t (.start requests k m) s)
    (hl : Lined s (front + 1) back) (entered : EnteredAt s front s.moment.now)
    (unended : s.end? front = none)
    (low : m.now < s.moment.now → k + (s.ends front).countP (· < s.moment.now) ≤ front) :
    Entry k m.now s front s.moment.now := by
  refine ⟨entered, h.start_le, Nat.le_refl _, ?_, ?_⟩
  · rw [Timetable.countP_permits]
    split
    · rename_i hlt
      exact low (of_decide_eq_true hlt)
    · rename_i hnot
      -- at the start nobody has ended before
      have hnone : (s.ends front).countP (· < s.moment.now) = 0 :=
        List.countP_eq_zero.mpr fun e he => by
          obtain ⟨l, -, hl⟩ := List.mem_filterMap.mp he
          have hbounds := h.end_bounds l e hl
          simp only [decide_eq_true_eq] at hnot ⊢
          omega
      omega
  · have hbalance := hl.holders_add_ends
    have htotal := h.permits.free_add_holders
    have hall : (s.ends front).countP (· ≤ s.moment.now) = (s.ends front).length :=
      List.countP_eq_length.mpr fun e he => by
        obtain ⟨l, -, hl⟩ := List.mem_filterMap.mp he
        exact decide_eq_true (h.end_bounds l e hl).2
    rw [s.ends_succ, unended, Option.toList_none, List.append_nil] at hbalance
    rw [Timetable.countP_permits, if_pos (decide_eq_true h.start_le), hall]
    omega

/-- The line of a group that keeps the order, with the times at which its members got their
    permits. -/
structure Entries (k start : Nat) (s : State σ) (front back : Nat) : Prop where
  lined : Lined s front back
  /-- Once time has passed, everybody has asked. -/
  asked : start < s.moment.now → back = s.members.length
  entry : ∀ i < front, ∃ b, Entry k start s i b

namespace Entries

variable {front back : Nat}

theorem tick {due : Nat} (h : Entries k m.now s front back) (idle : ∀ i, ¬ s.CanAct i)
    (later : s.moment.now ≤ due) : Entries k m.now (s.atTime due) front back where
  lined := h.lined.congr rfl rfl
  asked _ := by
    refine Nat.le_antisymm h.lined.back_le (Nat.le_of_not_lt fun hlt => ?_)
    exact idle back ⟨.idle, h.lined.idle back (Nat.le_refl back) hlt, rfl⟩
  entry i hi := by
    obtain ⟨b, hb⟩ := h.entry i hi
    exact ⟨b, hb.tick idle later⟩

/-- A move after which nobody has got a permit that had none. -/
theorem keep (h : Entries k m.now s front back) (before : Reachable plan t (.start requests k m) s)
    (hm : Move plan t s i s') {back' : Nat} (hl : Lined s' front back')
    (asked : m.now < s.moment.now → back' = s.members.length) :
    Entries k m.now s' front back' where
  lined := hl
  asked := by
    rw [hm.now, hm.length_eq]
    exact asked
  entry i hi := by
    obtain ⟨b, hb⟩ := h.entry i hi
    exact ⟨b, hb.move before hm⟩

/-- A move by which one more has got a permit. -/
theorem letIn (h : Entries k m.now s front back) (before : Reachable plan t (.start requests k m) s)
    (hm : Move plan t s i s') (after : Reachable plan t (.start requests k m) s') {back' : Nat}
    (hl : Lined s' (front + 1) back') (asked : m.now < s.moment.now → back' = s.members.length)
    {phase : Phase} (hphase : s.phase? front = some phase) (hnot : phase.hasEntered = false)
    (low : m.now < s.moment.now → k + (s.ends front).length ≤ front) :
    Entries k m.now s' (front + 1) back' where
  lined := hl
  asked := by
    rw [hm.now, hm.length_eq]
    exact asked
  entry j hj := by
    rcases Nat.lt_succ_iff_lt_or_eq.mp hj with hlt | rfl
    · obtain ⟨b, hb⟩ := h.entry j hlt
      exact ⟨b, hb.move before hm⟩
    · obtain ⟨phase', hphase', hentered⟩ := hl.entered j (Nat.lt_succ_self j)
      obtain ⟨unended, entered⟩ := hm.entered before hphase (.inr hnot) hphase' hentered
      refine ⟨s'.moment.now, entry_now after hl entered unended fun hlt => ?_⟩
      rw [hm.now] at hlt ⊢
      rw [hm.countP_ends_lt before.permits j (Nat.le_refl _)]
      exact Nat.le_trans (Nat.add_le_add_left List.countP_le_length k) (low hlt)

/-- **A move that keeps the order lets members in when it is their time.** -/
theorem move (h : Entries k m.now s front back) (before : Reachable plan t (.start requests k m) s)
    (hm : Move plan t s i s') (after : InOrder plan t (.start requests k m) s') :
    ∃ front' back', Entries k m.now s' front' back' := by
  have hI := before.permits
  have all_asked : s.phase? back = some .idle → ¬ m.now < s.moment.now := by
    intro was hlt
    have hback := lt_length_of_phase? was
    rw [h.asked hlt] at hback
    exact Nat.lt_irrefl _ hback
  cases h.lined.move hI hm after.askedInOrder with
  | stays lined => exact ⟨_, _, h.keep before hm lined h.asked⟩
  | queues was lined =>
      exact ⟨_, _, h.keep before hm lined fun hlt => absurd hlt (all_asked was)⟩
  | enters was eq lined =>
      obtain rfl := eq
      exact ⟨_, _, h.letIn before hm after.reachable lined (fun hlt => absurd hlt (all_asked was))
        was rfl fun hlt => absurd hlt (all_asked was)⟩
  | admits waited lined =>
      have was := h.lined.queued front (Nat.le_refl front) waited
      refine ⟨_, _, h.letIn before hm after.reachable lined h.asked was rfl fun _ => ?_⟩
      have hfree := hI.busy (List.ne_nil_of_mem ((hI.mem_queue front).mpr was))
      have htotal := hI.free_add_holders
      have hbalance := h.lined.holders_add_ends
      omega

end Entries

/-- **In every state that a group can come to in order, members got their permits when it was their
    time.** -/
theorem InOrder.entries (h : InOrder plan t (.start requests k m) s) :
    ∃ front back, Entries k m.now s front back := by
  refine h.induct (motive := fun s => ∃ front back, Entries k m.now s front back) ?_ ?_ ?_
  · exact ⟨0, 0, .start, fun hlt => absurd hlt (Nat.lt_irrefl _),
      fun i hi => absurd hi (Nat.not_lt_zero i)⟩
  · rintro s s' i before ⟨front, back, hentries⟩ hm after
    exact hentries.move before.reachable hm after
  · rintro s due before ⟨front, back, hentries⟩ idle known -
    obtain ⟨l, phase, hl, hd⟩ := exists_of_mem_dues known
    exact ⟨front, back, hentries.tick idle (before.reachable.timely l phase due hl hd)⟩

/-! ## 5. The end of a group -/

/-- When the members of a group that has ended began and ended. -/
structure Timed (s : State σ) (first last : Nat → Nat) : Prop where
  /-- The first call of a member begins when the member does. -/
  begins : ∀ i < s.members.length, firstStart? (s.share i) = some (first i)
  /-- Its last call has its reply, or crashes, when the member ends. -/
  ends : ∀ i < s.members.length, lastFinish? (s.share i) = some (last i)
  ended : ∀ i < s.members.length, s.end? i = some (last i)

/-- The schedule of a group of `n` members with `k` permits from a start on: the first `k` members
    begin at the start, and every other one when so many of those before it have ended as let it
    in. -/
structure OnSchedule (k start n : Nat) (s : State σ) (first last : Nat → Nat) : Prop
    extends Timed s first last where
  length_eq : s.members.length = n
  early : ∀ i < n, i < k → first i = start
  late : ∀ i < n, k ≤ i → nthSmallest? ((List.range i).map last) (i - k) = some (first i)
  /-- Members begin in input order. -/
  inOrder : ∀ i j, i ≤ j → j < n → first i ≤ first j
  /-- The group is over when the last of its members ends. -/
  finish : s.moment.now = ((List.range n).map last).max?.getD start

/-- A member of a group that has ended ends no earlier than it begins. -/
theorem Complete.span (h : Complete plan t (.start requests k m) s) (pos : 0 < k)
    (hi : i < s.members.length) :
    ∃ b e, firstStart? (s.share i) = some b ∧ lastFinish? (s.share i) = some e ∧
      s.end? i = some e ∧ b ≤ e := by
  have hmember : s.members[i]? = some ⟨s.members[i].request, s.members[i].phase⟩ :=
    List.getElem?_eq_getElem hi
  have hphase := State.phase?_of_member hmember
  obtain ⟨replies, start, hf⟩ := h.reachable.follows i _ _ hmember
  obtain ⟨last, -, hshare, heq⟩ := hf.ends (h.finished pos hphase)
  rw [hshare, State.end?_of_phase? hphase, heq, RetryPlan.firstStart?_eventsThrough,
    RetryPlan.lastFinish?_eventsThrough]
  exact ⟨start, _, rfl, rfl, rfl, by omega⟩

theorem Complete.timed (h : Complete plan t (.start requests k m) s) (pos : 0 < k) :
    ∃ first last, Timed s first last := by
  refine ⟨fun i => (firstStart? (s.share i)).getD 0, fun i => (s.end? i).getD 0, ⟨?_, ?_, ?_⟩⟩
  all_goals
    intro i hi
    obtain ⟨b, e, hbegin, hlast, hend, -⟩ := h.span pos hi
  · rw [hbegin, Option.getD_some]
  · rw [hlast, hend, Option.getD_some]
  · rw [hend, Option.getD_some]

theorem Complete.first_le_last (h : Complete plan t (.start requests k m) s) (pos : 0 < k)
    {first last : Nat → Nat} (timed : Timed s first last) (hi : i < s.members.length) :
    first i ≤ last i := by
  obtain ⟨b, e, hbegin, -, hend, hle⟩ := h.span pos hi
  rw [timed.begins i hi, Option.some.injEq] at hbegin
  rw [timed.ended i hi, Option.some.injEq] at hend
  rw [hbegin, hend]
  exact hle

/-- At the end of a group the ends of its members are known. -/
theorem Timed.ends_eq {first last : Nat → Nat} (h : Timed s first last) {n : Nat}
    (hn : n ≤ s.members.length) : s.ends n = (List.range n).map last := by
  rw [State.ends, ← List.filterMap_eq_map]
  exact List.filterMap_congr fun i hi => h.ended i (Nat.lt_of_lt_of_le (List.mem_range.mp hi) hn)

/-- **At the end of a group that kept the order its members have followed a timetable.** -/
theorem CompleteInOrder.timetable (h : CompleteInOrder plan t (.start requests k m) s)
    (pos : 0 < k) {first last : Nat → Nat} (timed : Timed s first last) :
    Timetable k m.now requests.length first last := by
  obtain ⟨front, back, hentries⟩ := h.inOrder.entries
  have entry : ∀ i < s.members.length, Entry k m.now s i (first i) := by
    intro i hi
    obtain ⟨phase, hphase⟩ := exists_phase? hi
    have hended := h.complete.finished pos hphase
    have hentered : phase.hasEntered = true := by
      cases phase with
      | finished time ending => rfl
      | _ => cases hended
    obtain ⟨b, hb⟩ := hentries.entry i (hentries.lined.lt_front hphase hentered)
    have heq : b = first i := by
      cases hb.entered with
      | now handed _ =>
          rw [hphase] at handed
          cases handed
          cases hended
      | called begins =>
          rw [timed.begins i hi] at begins
          exact (Option.some.inj begins).symm
    exact heq ▸ hb
  rw [← h.complete.reachable.length_eq]
  refine ⟨fun i hi => (entry i hi).start_le, fun i hi => h.complete.first_le_last pos timed hi,
    fun i hi => ?_⟩
  rw [← timed.ends_eq (Nat.le_of_lt hi)]
  exact (entry i hi).ranked

theorem Complete.reached (h : Complete plan t (.start requests k m) s) (pos : 0 < k)
    {first last : Nat → Nat} (timed : Timed s first last) :
    s.moment.now = m.now ∨ ∃ i < s.members.length, last i = s.moment.now := by
  rcases h.now_eq pos with hstart | ⟨i, hi⟩
  · exact .inl hstart
  · obtain ⟨phase, hphase, -⟩ := Option.bind_eq_some_iff.mp hi
    have hlt := lt_length_of_phase? hphase
    rw [timed.ended i hlt] at hi
    exact .inr ⟨i, hlt, Option.some.inj hi⟩

/-- A group whose members begin and end at these times is over when the last of them ends. -/
theorem Complete.finish (h : Complete plan t (.start requests k m) s) (pos : 0 < k)
    {first last : Nat → Nat} (timed : Timed s first last) :
    s.moment.now = ((List.range requests.length).map last).max?.getD m.now := by
  rw [← h.reachable.length_eq]
  have bounds : ∀ e ∈ (List.range s.members.length).map last, m.now ≤ e ∧ e ≤ s.moment.now := by
    intro e he
    obtain ⟨i, hi, rfl⟩ := List.mem_map.mp he
    exact h.reachable.end_bounds i _ (timed.ended i (List.mem_range.mp hi))
  cases hmax : ((List.range s.members.length).map last).max? with
  | none =>
      rw [List.max?_eq_none_iff, List.map_eq_nil_iff, List.range_eq_nil] at hmax
      refine (h.reached pos timed).resolve_right ?_
      rintro ⟨i, hi, -⟩
      omega
  | some x =>
      obtain ⟨hmem, hgreatest⟩ := List.max?_eq_some_iff.mp hmax
      have hx := bounds x hmem
      show s.moment.now = x
      rcases h.reached pos timed with hstart | ⟨i, hi, hnow⟩
      · omega
      · have := hgreatest _ (List.mem_map_of_mem (List.mem_range.mpr hi))
        omega

/-- **Timing.** For any plan, any transport, any requests and any wish that can be met, a group
    whose members ask for permits in input order comes to an end however their other steps
    interleave, and there its members have begun and ended on schedule; and the run in turns comes
    to such an end. -/
theorem timing (plan : RetryPlan) (t : Transport σ) (requests : List Request) (wish : UInt64)
    (m : Moment σ) (possible : wish.toNat ≤ maxPermits) :
    ComesToInOrder plan t (.start requests (max 1 wish.toNat) m) (fun s =>
      ∃ first last, OnSchedule (max 1 wish.toNat) m.now requests.length s first last) ∧
    ∃ s, CompleteInOrder plan t (.start requests (max 1 wish.toNat) m) s ∧
      dispatch? plan t requests wish m = some s.dispatched := by
  have hpos : 0 < max 1 wish.toNat := Nat.lt_of_lt_of_le Nat.zero_lt_one (Nat.le_max_left _ _)
  refine ⟨⟨no_endless_run, fun s h => ?_⟩,
    dispatch_inOrder (Nat.max_le.mpr ⟨by decide, possible⟩)⟩
  obtain ⟨first, last, timed⟩ := h.complete.timed hpos
  have htable := h.timetable hpos timed
  exact ⟨first, last, timed, h.complete.reachable.length_eq, fun i hi hk => htable.early hi hk,
    fun i hi hk => htable.late hi hk, fun i j hij hj => htable.first_mono hij hj,
    h.complete.finish hpos timed⟩

/-- With one permit the second of two members begins when the call of the first crashes. -/
theorem second_begins_at_crash_of_first :
    let t := Script.transport (.ofTable [("http://a/", [⟨some 10, .crashed "lost"⟩])])
    (1 : UInt64).toNat ≤ maxPermits ∧
    ∃ s : State Script.Served, dispatch? (.ofSettings {}) t [.get "http://a/", .get "http://b/"] 1
        ⟨0, Script.Served.none⟩ = some s.dispatched ∧
      firstStart? (s.share 0) = some 0 ∧ firstStart? (s.share 1) = lastFinish? (s.share 0) := by
  intro t
  obtain ⟨hcomes, s, hcomplete, hdispatch⟩ := timing (.ofSettings {}) t
    [.get "http://a/", .get "http://b/"] 1 ⟨0, Script.Served.none⟩ (by decide)
  obtain ⟨first, last, h⟩ := hcomes.atEnd s hcomplete
  have hlength : s.members.length = 2 := h.length_eq
  have hfirst : first 0 = 0 := h.early 0 (by decide) (by decide)
  have hnext : nthSmallest? [last 0] 0 = some (first 1) := h.late 1 (by decide) (by decide)
  rw [nthSmallest?, List.mergeSort_singleton] at hnext
  refine ⟨by decide, s, hdispatch, ?_, ?_⟩
  · rw [h.begins 0 (by omega), hfirst]
  · rw [h.begins 1 (by omega), h.ends 0 (by omega)]
    exact hnext.symm

end Group

end Courier
