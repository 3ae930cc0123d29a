import Courier.Proofs.Group.Isolation
import Courier.Proofs.Group.Timing

/-!
# How long a group takes

Where the members of a group do not disturb each other, each takes as long as its request takes
alone, and it is known how long the group takes (`duration`): no less than the longest of them and
than an even share of all of them for each permit, and no more than that with what the other permits
may be idle for while the longest is at work. More permits delay nobody.
-/

namespace Courier

/-! ## 1. The span of a run -/

theorem firstStart?_delayed (delay : Nat) (es : List Event) :
    firstStart? (es.map (Event.delayed delay)) = (firstStart? es).map (· + delay) := by
  rw [firstStart?, firstStart?, callsOf_delayed, List.head?_map, Option.map_map, Option.map_map]
  rfl

theorem lastFinish?_delayed (delay : Nat) (es : List Event) :
    lastFinish? (es.map (Event.delayed delay)) = (lastFinish? es).map (· + delay) := by
  rw [lastFinish?, lastFinish?, callsOf_delayed, List.getLast?_map, Option.map_map, Option.map_map]
  rfl

namespace RetryPlan

variable {σ : Type} (plan : RetryPlan) (t : Transport σ) (r : Request) (m : Moment σ)

/-- A run of attempts lasts from its first call to the reply to its last. -/
theorem execute_span :
    firstStart? (plan.execute t r m).events = some m.now ∧
      lastFinish? (plan.execute t r m).events = some (plan.execute t r m).moment.now := by
  obtain ⟨last, -, hrun⟩ := plan.execute_eq t r m
  rw [hrun]
  exact ⟨plan.firstStart?_eventsThrough r _ _ _, plan.lastFinish?_eventsThrough r _ _ _⟩

/-- How long requests take that are sent alone, each over the transport as it is in a state. -/
def timesAlone (requests : List Request) (state : σ) : List Nat :=
  requests.map fun r => (plan.execute t r ⟨0, state⟩).moment.now

end RetryPlan

namespace Group

variable {σ : Type} {plan : RetryPlan} {t : Transport σ} {k : Nat} {s : State σ} {i : Nat}
  {requests : List Request} {m : Moment σ} {first last : Nat → Nat}

/-! ## 2. Each member takes as long as it takes alone -/

theorem Complete.last_eq {answer : String → Nat → Reply} (foretold : t.Foretold m.state answer)
    (distinct : (requests.map Request.url).Nodup)
    (h : Complete plan t (.start requests k m) s) (pos : 0 < k) (timed : Timed s first last)
    (hi : i < requests.length) :
    last i = first i + ((plan.timesAlone t requests m.state)[i]?).getD 0 := by
  have hr : requests[i]? = some requests[i] := List.getElem?_eq_getElem hi
  have hlt : i < s.members.length := by
    rw [h.reachable.length_eq]
    exact hi
  obtain ⟨-, delay, hshare⟩ := h.alone foretold distinct pos hr
  obtain ⟨hbegin, hend⟩ := plan.execute_span t requests[i] ⟨0, m.state⟩
  have hfirst := timed.begins i hlt
  have hlast := timed.ends i hlt
  rw [hshare, firstStart?_delayed, hbegin, Option.map_some, Option.some.injEq] at hfirst
  rw [hshare, lastFinish?_delayed, hend, Option.map_some, Option.some.injEq] at hlast
  rw [RetryPlan.timesAlone, List.getElem?_map, hr, Option.map_some, Option.getD_some]
  dsimp only at hfirst
  omega

/-! ## 3. How long the group takes -/

/-- A time that a group with `k` permits may take whose members take these times alone. -/
structure Lasting (k : Nat) (alone : List Nat) (time : Nat) : Prop where
  /-- It is as long as the longest. -/
  longest_le : alone.max?.getD 0 ≤ time
  /-- There is enough of it for all that there is to do. -/
  sum_le : alone.sum ≤ k * time
  /-- Permits are idle no longer than the longest takes. -/
  le_sum : k * time ≤ alone.sum + (k - 1) * alone.max?.getD 0
  /-- With one permit one member comes after the other. -/
  single : k = 1 → time = alone.sum
  /-- With a permit for everybody all are at work side by side. -/
  sideBySide : alone.length ≤ k → time = alone.max?.getD 0

/-- **Members that keep a timetable take a time that their number of permits allows for.** -/
theorem Timetable.lasting {start n time : Nat} {alone : List Nat}
    (h : Timetable k start n first last) (pos : 0 < k) (hn : alone.length = n)
    (hlast : ∀ i < n, last i = first i + (alone[i]?).getD 0)
    (inTime : ∀ i < n, last i ≤ start + time)
    (reached : time = 0 ∨ ∃ i < n, last i = start + time) : Lasting k alone time := by
  have hall : (List.range n).map (fun i => (alone[i]?).getD 0) = alone := by
    refine List.ext_getElem (by simp [hn]) fun i h1 h2 => ?_
    rw [List.getElem_map, List.getElem_range, List.getElem?_eq_getElem h2, Option.getD_some]
  have hlong : ∀ i < n, (alone[i]?).getD 0 ≤ alone.max?.getD 0 := by
    intro i hi
    rw [← hn] at hi
    rw [List.getElem?_eq_getElem hi, Option.getD_some]
    exact List.le_max?_getD_of_mem (List.getElem_mem hi)
  have longest_le : alone.max?.getD 0 ≤ time := by
    cases hmax : alone.max? with
    | none => exact Nat.zero_le time
    | some x =>
        obtain ⟨i, hi⟩ := List.mem_iff_getElem?.mp (List.max?_eq_some_iff.mp hmax).1
        have hlt : i < n := hn ▸ (List.getElem?_eq_some_iff.mp hi).1
        have hend := hlast i hlt
        have hover := inTime i hlt
        have hstart := h.start_le i hlt
        rw [hi, Option.getD_some] at hend
        rw [Option.getD_some]
        omega
  have sum_le := h.sum_le hlast inTime
  have le_sum := h.le_sum pos hlast reached hlong
  rw [hall] at sum_le le_sum
  refine ⟨longest_le, sum_le, le_sum, ?_, fun hk => Nat.le_antisymm ?_ longest_le⟩
  · rintro rfl
    omega
  · -- everybody begins at the start, so the last to end is the longest
    rcases reached with rfl | ⟨i, hi, hend⟩
    · exact Nat.zero_le _
    · have hfirst := h.early hi (by omega)
      have hsome := hlast i hi
      have hle := hlong i hi
      omega

theorem CompleteInOrder.lasting {answer : String → Nat → Reply}
    (foretold : t.Foretold m.state answer) (distinct : (requests.map Request.url).Nodup)
    (h : CompleteInOrder plan t (.start requests k m) s) (pos : 0 < k) :
    ∃ time, s.moment.now = m.now + time ∧
      Lasting k (plan.timesAlone t requests m.state) time := by
  obtain ⟨first, last, timed⟩ := h.complete.timed pos
  have hlength := h.complete.reachable.length_eq
  have hstart := h.complete.reachable.start_le
  refine ⟨s.moment.now - m.now, by omega, ?_⟩
  refine (h.timetable pos timed).lasting pos ?_ (fun i hi => ?_) (fun i hi => ?_) ?_
  · rw [RetryPlan.timesAlone, List.length_map]
  · exact h.complete.last_eq foretold distinct pos timed hi
  · rw [← hlength] at hi
    have hbounds := h.complete.reachable.end_bounds i _ (timed.ended i hi)
    omega
  · rw [← hlength]
    rcases h.complete.reached pos timed with hnow | ⟨i, hi, hnow⟩
    · exact .inl (by omega)
    · exact .inr ⟨i, hi, by omega⟩

/-! ## 4. More permits -/

/-- **More permits delay nobody.** -/
theorem CompleteInOrder.no_later {k' : Nat} {s' : State σ} {first' last' : Nat → Nat}
    {answer : String → Nat → Reply}
    (foretold : t.Foretold m.state answer) (distinct : (requests.map Request.url).Nodup)
    (h : CompleteInOrder plan t (.start requests k m) s) (timed : Timed s first last) (pos : 0 < k)
    (h' : CompleteInOrder plan t (.start requests k' m) s') (timed' : Timed s' first' last')
    (more : k ≤ k') (hi : i < requests.length) : first' i ≤ first i ∧ last' i ≤ last i := by
  have pos' := Nat.lt_of_lt_of_le pos more
  have hfirst := (h.timetable pos timed).first_le (h'.timetable pos' timed') more
    (fun i hi => h.complete.last_eq foretold distinct pos timed hi)
    (fun i hi => h'.complete.last_eq foretold distinct pos' timed' hi) hi
  have hend := h.complete.last_eq foretold distinct pos timed hi
  have hend' := h'.complete.last_eq foretold distinct pos' timed' hi
  omega

/-! ## 5. The duration of a group -/

/-- **Duration.** For any plan, any transport that is known in advance, any requests with distinct
    URLs and any wish that can be met, a group whose members ask for permits in input order comes to
    an end however their other steps interleave, and it takes a time that its number of permits
    allows for, by the times that its requests take alone; and the run in turns comes to such an
    end. With a wish that is no smaller every member begins and ends no later, and so the group is
    over no later. -/
theorem duration (plan : RetryPlan) (t : Transport σ) (requests : List Request) (wish : UInt64)
    (m : Moment σ) (answer : String → Nat → Reply) (foretold : t.Foretold m.state answer)
    (distinct : (requests.map Request.url).Nodup) (possible : wish.toNat ≤ maxPermits) :
    ComesToInOrder plan t (.start requests (max 1 wish.toNat) m) (fun s =>
      ∃ time, s.moment.now = m.now + time ∧
        Lasting (max 1 wish.toNat) (plan.timesAlone t requests m.state) time) ∧
    (∃ s, CompleteInOrder plan t (.start requests (max 1 wish.toNat) m) s ∧
      dispatch? plan t requests wish m = some s.dispatched) ∧
    ∀ wish' : UInt64, max 1 wish.toNat ≤ max 1 wish'.toNat →
      ∀ s s', CompleteInOrder plan t (.start requests (max 1 wish.toNat) m) s →
        CompleteInOrder plan t (.start requests (max 1 wish'.toNat) m) s' →
        s'.moment.now ≤ s.moment.now ∧
        ∃ first last first' last', Timed s first last ∧ Timed s' first' last' ∧
          ∀ i < requests.length, first' i ≤ first i ∧ last' i ≤ last i := by
  have pos : ∀ w : UInt64, 0 < max 1 w.toNat := fun w =>
    Nat.lt_of_lt_of_le Nat.zero_lt_one (Nat.le_max_left _ _)
  refine ⟨⟨no_endless_run, fun s h => h.lasting foretold distinct (pos wish)⟩,
    dispatch_inOrder (Nat.max_le.mpr ⟨by decide, possible⟩), fun wish' more s s' h h' => ?_⟩
  obtain ⟨first, last, timed⟩ := h.complete.timed (pos wish)
  obtain ⟨first', last', timed'⟩ := h'.complete.timed (pos wish')
  have no_later : ∀ i < requests.length, first' i ≤ first i ∧ last' i ≤ last i := fun i hi =>
    h.no_later foretold distinct timed (pos wish) h' timed' more hi
  refine ⟨?_, first, last, first', last', timed, timed', no_later⟩
  rcases h'.complete.reached (pos wish') timed' with hstart | ⟨i, hi, hend⟩
  · rw [hstart]
    exact h.complete.reachable.start_le
  · rw [h'.complete.reachable.length_eq] at hi
    have hle := (no_later i hi).2
    rw [← h.complete.reachable.length_eq] at hi
    have hbounds := h.complete.reachable.end_bounds i _ (timed.ended i hi)
    omega

/-- With one permit two requests take their times one after the other, also if the first crashes. -/
theorem duration_of_two :
    let script := Script.ofTable [("http://a/", [⟨some 10, .crashed "lost"⟩]),
      ("http://b/", [{ Script.echo "http://b/" with wait := some 4 }])]
    let requests := [Request.get "http://a/", Request.get "http://b/"]
    script.transport.Foretold Script.Served.none
        (fun url n => Script.timed (script.reply url n)) ∧
      (requests.map Request.url).Nodup ∧ (1 : UInt64).toNat ≤ maxPermits ∧
      ∃ d, dispatch? (.ofSettings {}) script.transport requests 1 ⟨0, Script.Served.none⟩ = some d ∧
        d.moment.now = 14 := by
  intro script requests
  have distinct : (requests.map Request.url).Nodup := by decide
  obtain ⟨hcomes, ⟨s, hcomplete, hdispatch⟩, -⟩ := duration (.ofSettings {}) script.transport
    requests 1 ⟨0, Script.Served.none⟩ _ script.foretold distinct (by decide)
  obtain ⟨time, hnow, hlasting⟩ := hcomes.atEnd s hcomplete
  refine ⟨script.foretold, distinct, by decide, s.dispatched, hdispatch, ?_⟩
  have halone : (RetryPlan.ofSettings {}).timesAlone script.transport requests Script.Served.none =
      [10, 4] := by decide +kernel
  have htime := hlasting.single rfl
  rw [halone] at htime
  show s.moment.now = 14
  rw [hnow, htime]
  rfl

end Group

end Courier
