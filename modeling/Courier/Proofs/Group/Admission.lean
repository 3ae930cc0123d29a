import Courier.Proofs.Group.Logs
import Courier.Proofs.Group.Turns

/-!
# Admission to a group

What the permits of a group guarantee, in every state that it can come to (`admission`).

* With `k` permits, the free ones and the members that hold one are always `k`.
* Calls and waits that are under way belong to members that hold a permit, so there are never more
  than `k` calls in flight.
* A member holds its permit from before its first call until it has ended.
* While a member waits for a permit all of them are held, and at the end all of them are free.
-/

namespace Courier

/-- A call that has no reply yet at a time. -/
def Event.inFlight (now : Nat) : Event → Bool
  | .called call _ => now < call.finish
  | _ => false

theorem Event.Over.not_inFlight {now : Nat} {e : Event} (h : e.Over now) :
    ¬ e.inFlight now = true := by
  cases e with
  | called call outcome => exact fun hfly => Nat.not_lt.mpr (h _ rfl) (of_decide_eq_true hfly)
  | _ => exact nofun

/-- A member whose call is not settled yet. -/
def Phase.isCalling : Phase → Bool
  | .calling .. => true
  | _ => false

theorem Phase.holdsPermit_of_isCalling {phase : Phase} (h : phase.isCalling = true) :
    phase.holdsPermit = true := by
  cases phase with
  | calling made due reply => rfl
  | _ => cases h

namespace Group

variable {σ : Type} {plan : RetryPlan} {t : Transport σ} {k : Nat} {s s' : State σ} {i : Nat}
  {requests : List Request} {m : Moment σ}

/-! ## 1. Who holds a permit keeps it -/

/-- A member that holds a permit gives it back only by ending. -/
theorem Advance.keeps {r : Request} {phase phase' : Phase} {es es' : List Event}
    (h : Advance plan t m r phase es phase' es') (holds : phase.holdsPermit = true) :
    phase'.holdsPermit = true ∨ phase'.isFinished = true := by
  cases h with
  | stay => exact .inl holds
  | enqueue => cases holds
  | grant => cases holds
  | call => exact .inl rfl
  | rest => exact .inl rfl
  | finish => exact .inr rfl

/-- A member that has ended does nothing more. -/
theorem Advance.finished {r : Request} {phase phase' : Phase} {es es' : List Event}
    (h : Advance plan t m r phase es phase' es') (ended : phase.isFinished = true) :
    phase' = phase := by
  cases h with
  | stay => rfl
  | call _ may _ _ => cases may <;> cases ended
  | _ => cases ended

/-- **A member holds its permit until it has ended**, whatever else happens in the group. -/
theorem Reachable.keeps (h : Reachable plan t (.start requests k m) s) (h' : Reachable plan t s s')
    {phase : Phase} (hi : s.phase? i = some phase)
    (holds : phase.holdsPermit = true ∨ phase.isFinished = true) :
    ∃ phase', s'.phase? i = some phase' ∧
      (phase'.holdsPermit = true ∨ phase'.isFinished = true) := by
  refine h'.induct
    (motive := fun x => ∃ phase', x.phase? i = some phase' ∧
      (phase'.holdsPermit = true ∨ phase'.isFinished = true))
    ⟨phase, hi, holds⟩ (fun x x' j before ih hm => ?_) (fun _ _ _ ih _ _ _ => ih)
  obtain ⟨phase', hphase', hkept⟩ := ih
  obtain ⟨r, hr⟩ := x.phase?_eq_some.mp hphase'
  obtain ⟨next, hnext, hadv⟩ := hm.advance (h.trans before).permits hr
  refine ⟨next, State.phase?_of_member hnext, ?_⟩
  rcases hkept with hholds | hended
  · exact hadv.keeps hholds
  · rw [hadv.finished hended]
    exact .inr hended

/-- Whoever something happened to holds a permit, or has ended. -/
theorem Reachable.entitled (h : Reachable plan t (.start requests k m) s) {e : Nat × Event}
    (he : e ∈ s.events) :
    ∃ phase, s.phase? e.1 = some phase ∧
      (phase.holdsPermit = true ∨ phase.isFinished = true) := by
  have hlt := h.owner_lt e he
  rw [← h.length_eq] at hlt
  have hmember : s.members[e.1]? = some ⟨s.members[e.1].request, s.members[e.1].phase⟩ :=
    List.getElem?_eq_getElem hlt
  have hshare : e.2 ∈ s.share e.1 :=
    List.mem_map.mpr ⟨e, List.mem_filter.mpr ⟨he, decide_eq_true rfl⟩, rfl⟩
  obtain ⟨replies, start, hf⟩ := h.follows _ _ _ hmember
  refine ⟨_, State.phase?_of_member hmember, ?_⟩
  generalize s.members[e.1].phase = phase, s.share e.1 = es at hf hshare
  cases hf with
  | calling => exact .inl rfl
  | resting => exact .inl rfl
  | finished => exact .inr rfl
  | _ => exact absurd hshare List.not_mem_nil

/-! ## 2. How many calls are in flight -/

/-- The number of calls in flight. -/
def State.inFlight (s : State σ) : Nat := s.events.countP fun e => e.2.inFlight s.moment.now

theorem countP_eq_zero_of_over {now : Nat} {es : List Event} (past : ∀ e ∈ es, e.Over now) :
    es.countP (·.inFlight now) = 0 :=
  List.countP_eq_zero.mpr fun e he => (past e he).not_inFlight

/-- A member has no more calls in flight than it holds permits. -/
theorem Current.inFlight_le {now : Nat} {phase : Phase} {es : List Event}
    (h : Current now phase es) : es.countP (·.inFlight now) ≤ phase.permits := by
  cases h with
  | nothing undated past =>
      rw [countP_eq_zero_of_over past]
      exact Nat.zero_le _
  | @calling made call reply es past =>
      rw [List.countP_append, countP_eq_zero_of_over past, Nat.zero_add]
      exact List.countP_le_length
  | resting past =>
      rw [List.countP_append, countP_eq_zero_of_over past, Nat.zero_add]
      exact Nat.zero_le 1

/-- The entries about the first members, counted with those about one more. -/
theorem countP_owner_succ (p : Event → Bool) (n : Nat) (log : List (Nat × Event)) :
    log.countP (fun e => p e.2 && decide (e.1 < n + 1)) =
      log.countP (fun e => p e.2 && decide (e.1 < n)) +
        ((log.filter (·.1 = n)).map (·.2)).countP p := by
  rw [List.countP_map, List.countP_filter]
  induction log with
  | nil => rfl
  | cons e rest ih =>
    rw [List.countP_cons, List.countP_cons, List.countP_cons, ih]
    cases hp : p e.2 with
    | false => simp [hp]
    | true =>
        rcases Nat.lt_trichotomy e.1 n with hlt | heq | hgt
        · simp [hp, hlt, Nat.lt_succ_of_lt hlt, Nat.ne_of_lt hlt]
          omega
        · simp [hp, heq]
          omega
        · simp [hp, Nat.not_lt_of_gt hgt, Nat.not_lt.mpr (Nat.succ_le_of_lt hgt),
            Nat.ne_of_gt hgt]

/-- **There are no more calls in flight than members that hold a permit.** -/
theorem Reachable.inFlight_le_holders (h : Reachable plan t (.start requests k m) s) :
    s.inFlight ≤ s.holders := by
  -- over the members from the first on, each with its own share of the log
  have upTo : ∀ n ≤ s.members.length,
      s.events.countP (fun e => e.2.inFlight s.moment.now && decide (e.1 < n)) ≤
        ((s.members.take n).map fun member => member.phase.permits).sum := by
    intro n hn
    induction n with
    | zero =>
      refine Nat.le_of_eq (List.countP_eq_zero.mpr fun e _ he => ?_)
      exact Nat.not_lt_zero _ (of_decide_eq_true (Bool.and_eq_true_iff.mp he).2)
    | succ n ih =>
      have hmember : s.members[n]? = some ⟨s.members[n].request, s.members[n].phase⟩ :=
        List.getElem?_eq_getElem hn
      have hlast := (h.current _ _ _ hmember).inFlight_le
      have hbefore := ih (Nat.le_of_succ_le hn)
      rw [countP_owner_succ, List.take_succ_eq_append_getElem hn, List.map_append, List.sum_append,
        List.map_singleton, List.sum_singleton]
      exact Nat.add_le_add hbefore hlast
  have hall := upTo s.members.length (Nat.le_refl _)
  rw [List.take_length] at hall
  rw [s.holders_eq_tally]
  refine Nat.le_trans (List.countP_mono_left fun e he hfly => ?_) hall
  have hlt := h.owner_lt e he
  rw [← h.length_eq] at hlt
  exact Bool.and_eq_true_iff.mpr ⟨hfly, decide_eq_true hlt⟩

/-! ## 3. Admission -/

/-- What holds of the permits and the calls in a state of a group with `k` permits. -/
structure Admission (plan : RetryPlan) (t : Transport σ) (k : Nat) (s : State σ) : Prop where
  /-- Every permit is free or held by a member that was admitted and has not ended. -/
  total : s.free + s.holders = k
  /-- A call in flight is the one whose reply its member, which holds a permit, waits for. -/
  call_held : ∀ i call outcome, (i, Event.called call outcome) ∈ s.events →
    s.moment.now < call.finish → ∃ made reply, s.phase? i = some (.calling made call.finish reply)
  /-- A wait that goes on is the one for which its member, which holds a permit, rests. -/
  wait_held : ∀ i start length, (i, Event.waited start length) ∈ s.events →
    s.moment.now < start + length.restMillis →
    ∃ made, s.phase? i = some (.resting made (start + length.restMillis))
  /-- There are never more calls in flight than permits. -/
  inFlight_le : s.inFlight ≤ k
  /-- Nor are there more members whose call is not settled. -/
  calling_le : (s.members.countP fun member => member.phase.isCalling) ≤ k
  /-- Whoever has made a call holds a permit or has ended. -/
  entitled : ∀ e ∈ s.events, ∃ phase, s.phase? e.1 = some phase ∧
    (phase.holdsPermit = true ∨ phase.isFinished = true)
  /-- Whoever holds a permit holds it until it has ended, whatever steps follow. -/
  kept : ∀ s' i phase, Reachable plan t s s' → s.phase? i = some phase →
    phase.holdsPermit = true → ∃ phase', s'.phase? i = some phase' ∧
      (phase'.holdsPermit = true ∨ phase'.isFinished = true)
  /-- While somebody waits for a permit, all of them are held. -/
  busy : ∀ i, s.phase? i = some .queued → s.free = 0 ∧ s.holders = k
  /-- So they are where nobody can act and somebody has not been admitted yet. -/
  stalled : (∀ i, ¬ s.CanAct i) → ∀ i phase, s.phase? i = some phase →
    phase.holdsPermit = false → phase.isFinished = false → s.free = 0 ∧ s.holders = k

theorem Reachable.busy (h : Reachable plan t (.start requests k m) s)
    (hi : s.phase? i = some .queued) : s.free = 0 ∧ s.holders = k := by
  have hI := h.permits
  have hmem := (hI.mem_queue i).mpr hi
  have hfree := hI.busy (List.ne_nil_of_mem hmem)
  have htotal := hI.free_add_holders
  omega

/-- What is under way is what the member that it is about waits for. -/
theorem Reachable.open_eq (h : Reachable plan t (.start requests k m) s) {e : Event}
    (he : (i, e) ∈ s.events) (hopen : ¬ e.Over s.moment.now) :
    (∃ made call reply, s.phase? i = some (.calling made call.finish reply) ∧
        e = .called call reply.outcome) ∨
      ∃ made start length, s.phase? i = some (.resting made (start + length.restMillis)) ∧
        e = .waited start length := by
  obtain ⟨phase, hphase, -⟩ := h.entitled he
  obtain ⟨r, hr⟩ := s.phase?_eq_some.mp hphase
  have hshare : e ∈ s.share i :=
    List.mem_map.mpr ⟨(i, e), List.mem_filter.mpr ⟨he, decide_eq_true rfl⟩, rfl⟩
  rcases (h.current i r phase hr).eq_of_not_over hshare hopen with
    ⟨made, call, reply, rfl, rfl⟩ | ⟨made, start, length, rfl, rfl⟩
  · exact .inl ⟨made, call, reply, hphase, rfl⟩
  · exact .inr ⟨made, start, length, hphase, rfl⟩

theorem Reachable.call_held (h : Reachable plan t (.start requests k m) s) {call : Call}
    {outcome : Outcome} (he : (i, Event.called call outcome) ∈ s.events)
    (hfly : s.moment.now < call.finish) :
    ∃ made reply, s.phase? i = some (.calling made call.finish reply) := by
  rcases h.open_eq he fun hover => Nat.not_le_of_lt hfly (hover _ rfl) with
    ⟨made, call', reply, hphase, heq⟩ | ⟨_, _, _, _, heq⟩
  · cases heq
    exact ⟨made, reply, hphase⟩
  · cases heq

theorem Reachable.wait_held (h : Reachable plan t (.start requests k m) s) {start : Nat}
    {length : Span} (he : (i, Event.waited start length) ∈ s.events)
    (hlasts : s.moment.now < start + length.restMillis) :
    ∃ made, s.phase? i = some (.resting made (start + length.restMillis)) := by
  rcases h.open_eq he fun hover => Nat.not_le_of_lt hlasts (hover _ rfl) with
    ⟨_, _, _, _, heq⟩ | ⟨made, start', length', hphase, heq⟩
  · cases heq
  · cases heq
    exact ⟨made, hphase⟩

/-- **The permits do what they are there for in every state that the group can come to.** -/
theorem Reachable.admits (h : Reachable plan t (.start requests k m) s) :
    Admission plan t k s := by
  have htotal := h.permits.free_add_holders
  have hholders : s.holders ≤ k := Nat.le_trans (Nat.le_add_left _ _) (Nat.le_of_eq htotal)
  refine
    { total := htotal
      call_held := fun i call outcome he hfly => h.call_held he hfly
      wait_held := fun i start length he hlasts => h.wait_held he hlasts
      inFlight_le := Nat.le_trans h.inFlight_le_holders hholders
      calling_le := Nat.le_trans
        (List.countP_mono_left fun member _ hcalling => Phase.holdsPermit_of_isCalling hcalling)
        hholders
      entitled := fun e he => h.entitled he
      kept := fun s' i phase h' hi holds => h.keeps h' hi (.inl holds)
      busy := fun i hi => h.busy hi
      stalled := fun idle i phase hi hholds hended => ?_ }
  cases phase with
  | idle => exact absurd ⟨_, hi, rfl⟩ (idle i)
  | queued => exact h.busy hi
  | finished time ending => cases hended
  | _ => cases hholds

/-- **Admission to a group.** For any plan, any transport, any requests and any wish that can be
    met, the permits do what they are there for however the steps of the members interleave; the
    group comes to an end, and there every member has ended and all permits are free; and the run in
    turns comes to such an end. -/
theorem admission (plan : RetryPlan) (t : Transport σ) (requests : List Request) (wish : UInt64)
    (m : Moment σ) (possible : wish.toNat ≤ maxPermits) :
    (∀ s, Reachable plan t (.start requests (max 1 wish.toNat) m) s →
      Admission plan t (max 1 wish.toNat) s) ∧
    ComesTo plan t (.start requests (max 1 wish.toNat) m) (fun s =>
      s.free = max 1 wish.toNat ∧
        ∀ i phase, s.phase? i = some phase → phase.isFinished = true) ∧
    ∃ s, Complete plan t (.start requests (max 1 wish.toNat) m) s ∧
      dispatch? plan t requests wish m = some s.dispatched := by
  have hpos : 0 < max 1 wish.toNat := Nat.lt_of_lt_of_le Nat.zero_lt_one (Nat.le_max_left _ _)
  refine ⟨fun s h => h.admits, ⟨no_endless_run, fun s h => ?_⟩,
    dispatch_complete (Nat.max_le.mpr ⟨by decide, possible⟩)⟩
  exact ⟨h.free hpos, fun i phase hi => h.finished hpos hi⟩

/-- With one permit and a first call that takes its time, the second of two members waits. -/
theorem second_waits_for_first :
    let t := Script.transport ⟨fun url _ => { Script.echo url with wait := some 10 }⟩
    let s₀ := State.start [.get "http://a/", .get "http://b/"] 1 ⟨0, Script.Served.none⟩
    let s := (s₀.act (.ofSettings {}) t 0).act (.ofSettings {}) t 1
    (1 : UInt64).toNat ≤ maxPermits ∧ Reachable (.ofSettings {}) t s₀ s ∧
      s.phase? 1 = some .queued ∧ s.free = 0 ∧ s.holders = 1 := by
  intro t s₀ s
  have h : Reachable (.ofSettings {}) t s₀ s :=
    .step _ _ (.step _ _ .start (.act s₀ 0 ⟨.idle, rfl, rfl⟩)) (.act _ 1 ⟨.idle, rfl, rfl⟩)
  have hadmission := (admission (.ofSettings {}) t _ 1 ⟨0, .none⟩ (by decide)).1 s h
  exact ⟨by decide, h, rfl, hadmission.busy 1 rfl⟩

end Group

end Courier
