import Courier.Proofs.Group.Histories

/-!
# The log of a group

What the log says of the transport and of the members, in every state that a group can come to.

* Every entry is about a member of the group (`Reachable.owner_lt`).
* The calls in it, in order, are what the transport was asked, and their outcomes are what it
  answered (`Reachable.replayed`).
* What has not come to its end is the last entry of a member that waits for just that end, and each
  member has one such entry at most (`Reachable.current`).
-/

namespace Courier

/-! ## 1. When events end -/

/-- When an event that takes time comes to its end. -/
def Event.finish? : Event → Option Nat
  | .called call _ => some call.finish
  | .waited start length => some (start + length.restMillis)
  | .noticed _ => none

/-- Nothing of an event is left at a time. -/
def Event.Over (now : Nat) (e : Event) : Prop := ∀ d, e.finish? = some d → d ≤ now

theorem Event.over_noticed (now : Nat) (notice : Notice) : (Event.noticed notice).Over now := nofun

theorem Event.Over.later {now later : Nat} {e : Event} (h : e.Over now) (hle : now ≤ later) :
    e.Over later := fun d hd => Nat.le_trans (h d hd) hle

namespace Group

variable {σ : Type} {plan : RetryPlan} {t : Transport σ} {k : Nat} {s s' : State σ} {i : Nat}
  {requests : List Request} {m : Moment σ}

/-! ## 2. What a move adds to the log -/

/-- What a move of member `i` adds to the log, and what it makes of the state of the transport. -/
inductive Adds (plan : RetryPlan) (t : Transport σ) (s : State σ) (i : Nat) (s' : State σ) : Prop
  /-- The call of its request, which the transport answers. -/
  | call (r : Request) (own : (s.members.map Member.request)[i]? = some r)
      (state : s'.moment.state = (t.reply r plan.timeout s.moment.state).2)
      (events : s'.events = s.events ++
        (plan.callEvents r s.moment.now (s.replyNow plan t r)).map fun e => (i, e))
  /-- Nothing that the transport has a part in. -/
  | silent (es : List Event) (quiet : answersOf es = []) (own : i < s.members.length)
      (state : s'.moment.state = s.moment.state)
      (events : s'.events = s.events ++ es.map fun e => (i, e))

theorem request_of_member {r : Request} {phase : Phase} (h : s.members[i]? = some ⟨r, phase⟩) :
    (s.members.map Member.request)[i]? = some r := by
  rw [List.getElem?_map, h]
  rfl

theorem lt_of_member {r : Request} {phase : Phase} (h : s.members[i]? = some ⟨r, phase⟩) :
    i < s.members.length := (List.getElem?_eq_some_iff.mp h).1

/-- **A move adds a call that the transport answers, or nothing that it has a part in.** -/
theorem Move.adds (h : Move plan t s i s') : Adds plan t s i s' := by
  cases h with
  | enqueue r was full => exact .silent [] rfl (lt_of_member was) rfl (List.append_nil _).symm
  | enter r was room => exact .call r (request_of_member was) rfl rfl
  | begin r was => exact .call r (request_of_member was) rfl rfl
  | resume r made due was rung => exact .call r (request_of_member was) rfl rfl
  | rest r made due reply wait notice was arrived again =>
      exact .silent _ rfl (lt_of_member was) rfl rfl
  | finish r made due reply ending was arrived stop =>
      refine .silent [] rfl (lt_of_member was) ?_ ?_
      · rw [State.moment_release]
        rfl
      · rw [State.events_release]
        exact (List.append_nil _).symm

theorem share_of_events {es : List Event}
    (h : s'.events = s.events ++ es.map fun e => (i, e)) (j : Nat) :
    s'.share j = s.share j ++ if i = j then es else [] := by
  rw [← s.share_record i es j, State.share, h]
  rfl

/-! ## 3. Whom the entries are about -/

/-- **Every entry is about a member.** -/
theorem Reachable.owner_lt (h : Reachable plan t (.start requests k m) s) :
    ∀ e ∈ s.events, e.1 < requests.length := by
  refine h.induct (motive := fun s => ∀ e ∈ s.events, e.1 < requests.length)
    (fun e he => absurd he List.not_mem_nil) (fun s s' i before ih hm e he => ?_)
    (fun _ _ _ ih _ _ _ => ih)
  have added : ∀ es : List Event, i < s.members.length →
      e ∈ s.events ++ es.map (fun e => (i, e)) → e.1 < requests.length := by
    intro es hlt he
    rcases List.mem_append.mp he with he | he
    · exact ih e he
    · obtain ⟨_, -, rfl⟩ := List.mem_map.mp he
      rw [← before.length_eq]
      exact hlt
  cases hm.adds with
  | call r own state events =>
      have hlt := (List.getElem?_eq_some_iff.mp own).1
      rw [List.length_map] at hlt
      rw [events] at he
      exact added _ hlt he
  | silent es quiet own state events =>
      rw [events] at he
      exact added es own he

/-! ## 4. What the transport was asked -/

/-- The calls in a log, each with the member that made it and what became of it. -/
def answersIn (log : List (Nat × Event)) : List (Nat × Call × Outcome) :=
  log.filterMap fun e => e.2.answer?.map fun a => (e.1, a)

theorem answersIn_append (log : List (Nat × Event)) (i : Nat) (es : List Event) :
    answersIn (log ++ es.map fun e => (i, e)) =
      answersIn log ++ (answersOf es).map fun a => (i, a) := by
  rw [answersIn, List.filterMap_append, List.filterMap_map, answersOf, List.map_filterMap]
  rfl

/-- These calls in this order take a transport from its first state to this one: each is the call
    of the request of its member, and what becomes of it is the answer of the transport. -/
inductive Replayed (t : Transport σ) (timeout : Option Span) (requests : List Request) (first : σ) :
    List (Nat × Call × Outcome) → σ → Prop
  | nil : Replayed t timeout requests first [] first
  | call {log : List (Nat × Call × Outcome)} {state : σ} {i : Nat} {r : Request} (start : Nat)
      (before : Replayed t timeout requests first log state) (own : requests[i]? = some r) :
      Replayed t timeout requests first
        (log ++ [(i, r.call timeout start (t.reply r timeout state).1.latency,
          (t.reply r timeout state).1.outcome)])
        (t.reply r timeout state).2

/-- **The calls in the log are what the transport was asked.** -/
theorem Reachable.replayed (h : Reachable plan t (.start requests k m) s) :
    Replayed t plan.timeout requests m.state (answersIn s.events) s.moment.state := by
  refine h.induct
    (motive := fun s =>
      Replayed t plan.timeout requests m.state (answersIn s.events) s.moment.state)
    .nil (fun s s' i before ih hm => ?_) (fun _ _ _ ih _ _ _ => ih)
  cases hm.adds with
  | call r own state events =>
      rw [before.requests_eq] at own
      rw [state, events, answersIn_append]
      exact .call s.moment.now ih own
  | silent es quiet own state events =>
      rw [state, events, answersIn_append, quiet, List.map_nil, List.append_nil]
      exact ih

/-- The calls of one member are those in its share of the log. -/
theorem filter_answersIn (s : State σ) (i : Nat) :
    ((answersIn s.events).filter (·.1 = i)).map (·.2) = answersOf (s.share i) := by
  rw [answersIn, answersOf, State.share, List.filterMap_map, List.filterMap_filter,
    List.filter_filterMap, List.map_filterMap]
  refine List.filterMap_congr fun e _ => ?_
  rw [Function.comp_apply]
  by_cases h : e.1 = i
  · rw [if_pos (decide_eq_true h)]
    cases e.2.answer? with
    | none => rfl
    | some a => simp [h]
  · rw [if_neg (by rwa [decide_eq_true_iff])]
    cases e.2.answer? with
    | none => rfl
    | some a => simp [h]

/-! ## 5. What is under way -/

/-- What is under way at a time, for a member in a phase with its share of the log. -/
inductive Current (now : Nat) : Phase → List Event → Prop
  /-- Nothing, where the member does not wait for a time. -/
  | nothing {phase : Phase} {es : List Event} (undated : phase.due? = none)
      (past : ∀ e ∈ es, e.Over now) : Current now phase es
  /-- The last call, which the member waits for. -/
  | calling {made : UInt32} {call : Call} {reply : Reply} {es : List Event}
      (past : ∀ e ∈ es, e.Over now) :
      Current now (.calling made call.finish reply) (es ++ [.called call reply.outcome])
  /-- The last wait. -/
  | resting {made : UInt32} {start : Nat} {length : Span} {es : List Event}
      (past : ∀ e ∈ es, e.Over now) :
      Current now (.resting made (start + length.restMillis)) (es ++ [.waited start length])

namespace Current

variable {now : Nat} {phase : Phase} {es : List Event}

theorem later {later : Nat} (h : Current now phase es) (hle : now ≤ later) :
    Current later phase es := by
  cases h with
  | nothing undated past => exact .nothing undated fun e he => (past e he).later hle
  | calling past => exact .calling fun e he => (past e he).later hle
  | resting past => exact .resting fun e he => (past e he).later hle

/-- Once the time has come that a member waits for, nothing is under way. -/
theorem all_over (h : Current now phase es) (arrived : ∀ d, phase.due? = some d → d ≤ now) :
    ∀ e ∈ es, e.Over now := by
  cases h with
  | nothing undated past => exact past
  | calling past =>
      intro e he
      rcases List.mem_append.mp he with he | he
      · exact past e he
      · obtain rfl := List.mem_singleton.mp he
        intro d hd
        cases hd
        exact arrived _ rfl
  | resting past =>
      intro e he
      rcases List.mem_append.mp he with he | he
      · exact past e he
      · obtain rfl := List.mem_singleton.mp he
        intro d hd
        cases hd
        exact arrived _ rfl

/-- Something that is not over is what the member waits for. -/
theorem eq_of_not_over (h : Current now phase es) {e : Event} (he : e ∈ es) (hopen : ¬ e.Over now) :
    (∃ made call reply, phase = .calling made call.finish reply ∧ e = .called call reply.outcome) ∨
      ∃ made start length, phase = .resting made (start + length.restMillis) ∧
        e = .waited start length := by
  cases h with
  | nothing undated past => exact absurd (past e he) hopen
  | calling past =>
      rcases List.mem_append.mp he with hold | hlast
      · exact absurd (past e hold) hopen
      · exact .inl ⟨_, _, _, rfl, List.mem_singleton.mp hlast⟩
  | resting past =>
      rcases List.mem_append.mp he with hold | hlast
      · exact absurd (past e hold) hopen
      · exact .inr ⟨_, _, _, rfl, List.mem_singleton.mp hlast⟩

/-- Whatever happens to the member starts where nothing else is under way. -/
theorem advance {r : Request} {m : Moment σ} {phase phase' : Phase} {es es' : List Event}
    (h : Current m.now phase es) (hadv : Advance plan t m r phase es phase' es') :
    Current m.now phase' es' := by
  have with_notice : ∀ notice, (∀ e ∈ es, e.Over m.now) →
      ∀ e ∈ es ++ [.noticed notice], e.Over m.now := by
    intro notice hover e he
    rcases List.mem_append.mp he with he | he
    · exact hover e he
    · obtain rfl := List.mem_singleton.mp he
      exact Event.over_noticed m.now notice
  cases hadv with
  | stay => exact h
  | enqueue => exact .nothing rfl (h.all_over nofun)
  | grant => exact .nothing rfl (h.all_over nofun)
  | @call _ made _ may reply given =>
      have hover : ∀ e ∈ es, e.Over m.now := by
        refine h.all_over ?_
        cases may with
        | entering => exact nofun
        | handed => exact nofun
        | rested rung =>
            intro d hd
            cases hd
            exact rung
      have hcall : Current m.now
          (.calling made (r.call plan.timeout m.now reply.latency).finish reply)
          (es ++ [.noticed (.sending r.method r.url)] ++
            [.called (r.call plan.timeout m.now reply.latency) reply.outcome]) :=
        .calling (with_notice _ hover)
      rw [List.append_assoc] at hcall
      exact hcall
  | @rest made due reply _ arrived wait notice again =>
      have hover : ∀ e ∈ es, e.Over m.now := h.all_over fun d hd => by
        cases hd
        exact arrived
      have hrest : Current m.now (.resting (made + 1) (m.now + wait.restMillis))
          (es ++ [.noticed notice] ++ [.waited m.now wait]) :=
        .resting (with_notice notice hover)
      rw [List.append_assoc] at hrest
      exact hrest
  | finish _ arrived stop =>
      refine .nothing rfl (h.all_over fun d hd => ?_)
      cases hd
      exact arrived

end Current

/-- **What is under way is what its member waits for.** -/
theorem Reachable.current (h : Reachable plan t (.start requests k m) s) :
    ∀ j r phase, s.members[j]? = some ⟨r, phase⟩ → Current s.moment.now phase (s.share j) := by
  refine h.induct
    (motive := fun s => ∀ j r phase, s.members[j]? = some ⟨r, phase⟩ →
      Current s.moment.now phase (s.share j)) ?_ ?_ ?_
  · intro j r phase hj
    cases phase?_start (State.phase?_of_member hj)
    exact .nothing rfl fun e he => absurd he List.not_mem_nil
  · intro s s' i before ih hm j r phase hj
    obtain ⟨old, hold, hadv⟩ := hm.advance_of before.permits hj
    rw [hm.now]
    exact (ih j r old hold).advance hadv
  · intro s due before ih _ known _ j r phase hj
    obtain ⟨l, φ, hl, hd⟩ := exists_of_mem_dues known
    exact (ih j r phase hj).later (before.timely l φ due hl hd)

end Group

end Courier
