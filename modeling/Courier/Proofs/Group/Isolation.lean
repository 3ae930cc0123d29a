import Courier.Proofs.Execution
import Courier.Proofs.Group.Logs
import Courier.Proofs.Group.Turns

/-!
# The members of a group do not disturb each other

Where no two requests of a group have the same URL, and the transport answers a call by its URL and
by how many calls to that URL there were before, a group does what its requests would do one by one
(`isolation`): each member ends as it would end alone, and it does the same, only that all of it may
happen later. So neither the number of permits nor what becomes of the others has a part in its
result.
-/

namespace Courier

/-! ## 1. Transports that are known in advance -/

namespace Transport

variable {σ : Type} (t : Transport σ)

/-- The state of a transport after some calls. -/
def after (first : σ) (calls : List (Request × Option Span)) : σ :=
  calls.foldl (fun state call => (t.reply call.1 call.2 state).2) first

/-- From a state on, the reply to call number `n` to a URL, counted from 0, depends on the URL and
    on `n` only: it is `answer url n`, whatever other calls there are before. -/
def Foretold (first : σ) (answer : (url : String) → (n : Nat) → Reply) : Prop :=
  ∀ calls r timeout, (t.reply r timeout (t.after first calls)).1 =
    answer r.url (calls.countP fun call => call.1.url = r.url)

theorem after_concat (first : σ) (calls : List (Request × Option Span)) (r : Request)
    (timeout : Option Span) :
    t.after first (calls ++ [(r, timeout)]) = (t.reply r timeout (t.after first calls)).2 := by
  rw [after, List.foldl_append]
  rfl

theorem stateAfter_eq_after (r : Request) (timeout : Option Span) (first : σ) (k : Nat) :
    t.stateAfter r timeout first k = t.after first (List.replicate k (r, timeout)) := by
  induction k with
  | zero => rfl
  | succ k ih => rw [stateAfter, ih, List.replicate_succ', after_concat]

/-- A request that is sent over and over gets the replies for its URL one after the other. -/
theorem Foretold.replies_eq {t : Transport σ} {first : σ} {answer : String → Nat → Reply}
    (h : t.Foretold first answer) (r : Request) (timeout : Option Span) :
    t.replies r timeout first = answer r.url := by
  funext k
  rw [replies, stateAfter_eq_after, h, List.countP_replicate, if_pos (decide_eq_true rfl)]

end Transport

namespace Script

theorem after_apply (script : Script) (calls : List (Request × Option Span)) (url : String)
    (served : Served) :
    script.transport.after served calls url =
      served url + calls.countP fun call => call.1.url = url := by
  induction calls generalizing served with
  | nil => rfl
  | cons call rest ih =>
    show script.transport.after (served.add call.1.url) rest url = _
    rw [ih, List.countP_cons, Served.add]
    by_cases h : call.1.url = url
    · rw [if_pos h.symm, if_pos (decide_eq_true h)]
      omega
    · rw [if_neg (Ne.symm h), if_neg (by rwa [decide_eq_true_iff])]
      omega

/-- Scripts are known in advance. -/
theorem foretold (script : Script) :
    script.transport.Foretold Served.none fun url n => timed (script.reply url n) := by
  intro calls r timeout
  show timed (script.reply r.url (script.transport.after Served.none calls r.url)) = _
  rw [after_apply, Served.none, Nat.zero_add]

/-- A table of replies without a crash makes a script without a crash. -/
theorem steady_ofTable {table : List (String × List Reply)}
    (h : ∀ entry ∈ table, ∀ reply ∈ entry.2, ∀ report, reply.outcome ≠ .crashed report)
    (url : String) (n : Nat) (report : String) :
    ((ofTable table).reply url n).outcome ≠ .crashed report := by
  have echoes : (echo url).outcome ≠ .crashed report := nofun
  cases hurl : table.lookup url with
  | none =>
      simp only [ofTable, hurl]
      exact echoes
  | some replies =>
      simp only [ofTable, hurl]
      obtain ⟨before, behind, rfl, -⟩ := List.lookup_eq_some_iff.mp hurl
      cases hn : replies[n]? with
      | none => exact echoes
      | some reply =>
          exact h (url, replies) (List.mem_append_right _ List.mem_cons_self) reply
            (List.mem_of_getElem? hn) report

end Script

/-! ## 2. The same, later -/

/-- What happens, with all times later by a delay. -/
def Event.delayed (delay : Nat) : Event → Event
  | .called call outcome =>
    .called { call with start := call.start + delay, finish := call.finish + delay } outcome
  | .waited start length => .waited (start + delay) length
  | .noticed notice => .noticed notice

/-- A call that is made later. -/
def Call.delayed (delay : Nat) (call : Call) : Call :=
  { call with start := call.start + delay, finish := call.finish + delay }

theorem callsOf_delayed (delay : Nat) (es : List Event) :
    callsOf (es.map (Event.delayed delay)) = (callsOf es).map (Call.delayed delay) := by
  rw [callsOf, callsOf, List.filterMap_map, List.map_filterMap]
  refine List.filterMap_congr fun e _ => ?_
  cases e <;> rfl

namespace RetryPlan

variable (plan : RetryPlan) (r : Request) (replies : Nat → Reply) (start delay : Nat)

theorem callPart_delayed (k : Nat) :
    plan.callPart r replies (start + delay) k =
      (plan.callPart r replies start k).map (Event.delayed delay) := by
  rw [callPart, callPart, Nat.add_right_comm]
  have hfinish := Nat.add_right_comm (start + plan.offset replies k) delay (replies k).latency
  simp only [callEvents, Request.call, Event.delayed, List.map_cons, List.map_nil, hfinish]

theorem gapPart_delayed (k : Nat) :
    plan.gapPart r replies (start + delay) k =
      (plan.gapPart r replies start k).map (Event.delayed delay) := by
  rw [gapPart, gapPart, List.map_append, Nat.add_right_comm start,
    Nat.add_right_comm (start + plan.offset replies k)]
  cases plan.warning? r k (replies k).outcome <;> rfl

theorem eventsBefore_delayed (k : Nat) :
    plan.eventsBefore r replies (start + delay) k =
      (plan.eventsBefore r replies start k).map (Event.delayed delay) := by
  rw [eventsBefore, eventsBefore, List.map_flatMap]
  refine List.flatMap_congr fun j _ => ?_
  rw [callPart_delayed, gapPart_delayed, List.map_append]

/-- A run of attempts that starts later does the same, later. -/
theorem eventsThrough_delayed (last : Nat) :
    plan.eventsThrough r replies (start + delay) last =
      (plan.eventsThrough r replies start last).map (Event.delayed delay) := by
  rw [eventsThrough, eventsThrough, eventsBefore_delayed, callPart_delayed, List.map_append]

end RetryPlan

namespace Group

variable {σ : Type} {plan : RetryPlan} {t : Transport σ} {k : Nat} {s : State σ} {i : Nat}
  {requests : List Request} {m : Moment σ} {r : Request}

/-! ## 3. Each member gets its own replies -/

theorem url_ne_of_ne (distinct : (requests.map Request.url).Nodup) {j : Nat} {q : Request}
    (hne : i ≠ j) (hi : requests[i]? = some r) (hj : requests[j]? = some q) : r.url ≠ q.url := by
  intro heq
  have hurl : ∀ {l : Nat} {x : Request}, requests[l]? = some x →
      (requests.map Request.url)[l]? = some x.url := by
    intro l x hl
    rw [List.getElem?_map, hl]
    rfl
  obtain ⟨hlt, -⟩ := List.getElem?_eq_some_iff.mp (hurl hi)
  exact hne ((List.getElem?_inj hlt distinct).mp (by rw [hurl hi, hurl hj, heq]))

/-- **The calls to the URL of a member are the calls of that member.** -/
theorem Reachable.heard (distinct : (requests.map Request.url).Nodup)
    (h : Reachable plan t (.start requests k m) s) :
    ∃ calls, s.moment.state = t.after m.state calls ∧
      ∀ (j : Nat) (q : Request), requests[j]? = some q →
        (calls.countP fun call => call.1.url = q.url) = (answersOf (s.share j)).length := by
  refine h.induct
    (motive := fun s => ∃ calls, s.moment.state = t.after m.state calls ∧
      ∀ (j : Nat) (q : Request), requests[j]? = some q →
        (calls.countP fun call => call.1.url = q.url) = (answersOf (s.share j)).length)
    ⟨[], rfl, fun _ _ _ => rfl⟩ (fun s s' i before ih hm => ?_) (fun _ _ _ ih _ _ _ => ih)
  obtain ⟨calls, hstate, hcount⟩ := ih
  cases hm.adds with
  | call r own state events =>
      rw [before.requests_eq] at own
      refine ⟨calls ++ [(r, plan.timeout)], ?_, fun j q hj => ?_⟩
      · rw [state, t.after_concat, hstate]
      · rw [List.countP_append, List.countP_singleton, hcount j q hj, share_of_events events]
        rcases eq_or_ne i j with rfl | hne
        · rw [own] at hj
          cases hj
          rw [if_pos rfl, if_pos (decide_eq_true rfl), answersOf_append, List.length_append]
          rfl
        · have hurl := url_ne_of_ne distinct hne own hj
          rw [if_neg hne, if_neg (by rwa [decide_eq_true_iff]), List.append_nil,
            Nat.add_zero]
  | silent es quiet own state events =>
      refine ⟨calls, by rw [state, hstate], fun j q hj => ?_⟩
      rw [hcount j q hj, share_of_events events]
      split
      · rw [answersOf_append, quiet, List.append_nil]
      · rw [List.append_nil]

/-- **Every member is on the course of its own replies.** -/
theorem Reachable.follows_foretold {answer : String → Nat → Reply}
    (foretold : t.Foretold m.state answer) (distinct : (requests.map Request.url).Nodup)
    (h : Reachable plan t (.start requests k m) s) :
    ∀ j q phase, s.members[j]? = some ⟨q, phase⟩ →
      ∃ start, Follows plan q (answer q.url) start phase (s.share j) := by
  refine h.induct
    (motive := fun s => ∀ j q phase, s.members[j]? = some ⟨q, phase⟩ →
      ∃ start, Follows plan q (answer q.url) start phase (s.share j)) ?_ ?_ ?_
  · intro j q phase hj
    cases phase?_start (State.phase?_of_member hj)
    exact ⟨0, .idle⟩
  · intro s s' i before ih hm j q phase hj
    obtain ⟨old, hold, hadv⟩ := hm.advance_of before.permits hj
    obtain ⟨start, hf⟩ := ih j q old hold
    obtain ⟨replies, start', hf', same, -⟩ := hf.advance
      (fun d hd => before.timely j old d (State.phase?_of_member hold) hd) hadv
    have hq : requests[j]? = some q := by
      rw [← before.requests_eq]
      exact request_of_member hold
    obtain ⟨calls, hstate, hcount⟩ := before.heard distinct
    -- what the transport says to a call of this member is its next reply
    have hnext : ∀ made, MayCall s.moment.now old made →
        (t.reply q plan.timeout s.moment.state).1 = answer q.url made.toNat := by
      intro made may
      rw [hstate, foretold, hcount j q hq, hf.length_answersOf may]
    rw [same hnext] at hf'
    exact ⟨start', hf'⟩
  · intro s due _ ih _ _ _ j q phase hj
    exact ih j q phase hj

/-! ## 4. Each member ends as it would alone -/

/-- **A member does what its request does alone, later.** -/
theorem Complete.alone {answer : String → Nat → Reply} (foretold : t.Foretold m.state answer)
    (distinct : (requests.map Request.url).Nodup)
    (h : Complete plan t (.start requests k m) s) (pos : 0 < k) (hi : requests[i]? = some r) :
    s.dispatched.results[i]? = some (slot i (plan.execute t r ⟨0, m.state⟩).ending) ∧
      ∃ delay, s.share i =
        (plan.execute t r ⟨0, m.state⟩).events.map (Event.delayed delay) := by
  obtain ⟨phase, hmember, hended⟩ := h.member pos hi
  obtain ⟨start, hf⟩ := h.reachable.follows_foretold foretold distinct i r phase hmember
  obtain ⟨last, ends, hshare, rfl⟩ := hf.ends hended
  obtain ⟨last', ends', hrun⟩ := plan.execute_eq t r ⟨0, m.state⟩
  rw [foretold.replies_eq] at ends' hrun
  obtain rfl := ends.unique ends'
  rw [hrun]
  refine ⟨getElem?_results hmember, start, ?_⟩
  rw [hshare, ← RetryPlan.eventsThrough_delayed, Nat.zero_add]

/-- The result of a member depends on the replies for its own URL only. -/
theorem Complete.slot_congr {σ' : Type} {t' : Transport σ'} {k' : Nat} {s' : State σ'}
    {m' : Moment σ'} {answer answer' : String → Nat → Reply}
    (foretold : t.Foretold m.state answer) (foretold' : t'.Foretold m'.state answer')
    (distinct : (requests.map Request.url).Nodup)
    (h : Complete plan t (.start requests k m) s) (pos : 0 < k)
    (h' : Complete plan t' (.start requests k' m') s') (pos' : 0 < k')
    (hi : requests[i]? = some r) (same : answer' r.url = answer r.url) :
    s'.dispatched.results[i]? = s.dispatched.results[i]? := by
  rw [(h.alone foretold distinct pos hi).1, (h'.alone foretold' distinct pos' hi).1]
  obtain ⟨last, ends, hrun⟩ := plan.execute_eq t r ⟨0, m.state⟩
  obtain ⟨last', ends', hrun'⟩ := plan.execute_eq t' r ⟨0, m'.state⟩
  rw [foretold.replies_eq] at ends hrun
  rw [foretold'.replies_eq, same] at ends' hrun'
  obtain rfl := ends.unique ends'
  rw [hrun, hrun']

/-- The results of requests that are sent alone, each over the transport as it is in a state. -/
def resultsAlone (plan : RetryPlan) (t : Transport σ) (requests : List Request) (state : σ) :
    List (Except Failure Response) :=
  requests.mapIdx fun i r => slot i (plan.execute t r ⟨0, state⟩).ending

theorem Complete.results_eq {answer : String → Nat → Reply} (foretold : t.Foretold m.state answer)
    (distinct : (requests.map Request.url).Nodup)
    (h : Complete plan t (.start requests k m) s) (pos : 0 < k) :
    s.dispatched.results = resultsAlone plan t requests m.state := by
  refine List.ext_getElem? fun i => ?_
  rw [resultsAlone, List.getElem?_mapIdx]
  cases hi : requests[i]? with
  | some r => exact (h.alone foretold distinct pos hi).1
  | none =>
      rw [List.getElem?_eq_none_iff, ← h.reachable.length_eq, ← List.getElem?_eq_none_iff] at hi
      rw [State.dispatched, List.getElem?_mapIdx, hi]
      rfl

/-- **Isolation.** For any plan, any transport that is known in advance, any requests with distinct
    URLs and any wish that can be met, a group comes to an end however the steps of its members
    interleave. There the results are those of the requests sent alone, each over the transport as
    it was at first, whatever the wish was; and each member has done what its request does alone
    from time 0 on, later by one delay. Over any other such transport that differs in the replies
    for the URL of one member only, the other members have the same results. -/
theorem isolation (plan : RetryPlan) (t : Transport σ) (requests : List Request) (wish : UInt64)
    (m : Moment σ) (answer : String → Nat → Reply) (foretold : t.Foretold m.state answer)
    (distinct : (requests.map Request.url).Nodup) (possible : wish.toNat ≤ maxPermits) :
    ComesTo plan t (.start requests (max 1 wish.toNat) m) (fun s =>
      s.dispatched.results = resultsAlone plan t requests m.state ∧
      ∀ i r, requests[i]? = some r → ∃ delay, s.share i =
        (plan.execute t r ⟨0, m.state⟩).events.map (Event.delayed delay)) ∧
    (∃ s, Complete plan t (.start requests (max 1 wish.toNat) m) s ∧
      dispatch? plan t requests wish m = some s.dispatched) ∧
    ∀ {σ' : Type} (t' : Transport σ') (m' : Moment σ') (answer' : String → Nat → Reply)
      (wish' : UInt64) (j : Nat) (q : Request),
      t'.Foretold m'.state answer' → wish'.toNat ≤ maxPermits → requests[j]? = some q →
      (∀ url, url ≠ q.url → answer' url = answer url) →
      ∀ s s', Complete plan t (.start requests (max 1 wish.toNat) m) s →
        Complete plan t' (.start requests (max 1 wish'.toNat) m') s' →
        ∀ i, i ≠ j → s'.dispatched.results[i]? = s.dispatched.results[i]? := by
  have pos : ∀ w : UInt64, 0 < max 1 w.toNat := fun w =>
    Nat.lt_of_lt_of_le Nat.zero_lt_one (Nat.le_max_left _ _)
  refine ⟨⟨no_endless_run, fun s h => ?_⟩,
    dispatch_complete (Nat.max_le.mpr ⟨by decide, possible⟩), ?_⟩
  · exact ⟨h.results_eq foretold distinct (pos wish), fun i r hi =>
      (h.alone foretold distinct (pos wish) hi).2⟩
  · intro σ' t' m' answer' wish' j q foretold' _ hj same s s' h h' i hne
    cases hi : requests[i]? with
    | some r =>
        have hurl := url_ne_of_ne distinct hne hi hj
        exact h.slot_congr foretold foretold' distinct (pos wish) h' (pos wish') hi
          (same r.url hurl)
    | none =>
        rw [h.results_eq foretold distinct (pos wish), h'.results_eq foretold' distinct (pos wish'),
          resultsAlone, resultsAlone, List.getElem?_mapIdx, List.getElem?_mapIdx, hi]
        rfl

/-- Two requests and one permit, where the first call crashes after a while. -/
theorem isolation_from_crash :
    let script := Script.ofTable [("http://a/", [⟨some 5, .crashed "lost"⟩])]
    let requests := [Request.get "http://a/", Request.get "http://b/"]
    script.transport.Foretold Script.Served.none
        (fun url n => Script.timed (script.reply url n)) ∧
      (requests.map Request.url).Nodup ∧ (1 : UInt64).toNat ≤ maxPermits ∧
      ∃ d, dispatch? (.ofSettings {}) script.transport requests 1 ⟨0, Script.Served.none⟩ = some d ∧
        d.results =
          resultsAlone (.ofSettings {}) script.transport requests Script.Served.none := by
  intro script requests
  have distinct : (requests.map Request.url).Nodup := by decide
  obtain ⟨hcomes, ⟨s, hcomplete, hdispatch⟩, -⟩ := isolation (.ofSettings {}) script.transport
    requests 1 ⟨0, Script.Served.none⟩ _ script.foretold distinct (by decide)
  exact ⟨script.foretold, distinct, by decide, s.dispatched, hdispatch,
    (hcomes.atEnd s hcomplete).1⟩

end Group

end Courier
