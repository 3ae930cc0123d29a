import Courier.Proofs.Execution
import Courier.Proofs.Group.Admission
import Courier.Proofs.Group.Timing
import Mathlib.Data.List.Induction

/-!
# A group with one permit

With one permit a group does what its requests do when they are sent one after the other (`inTurn`):
the next is sent when the one before it is settled or has crashed. In every state that such a group
can come to there is one member whose turn it is (`Serial`): those before it have come to what the
loop came to with their requests, nothing has happened to those behind it, and it has come some way
into the run of its own request over the transport as the loop left it (`OnTurn`). No two members
are ever at work in turn, so it does not matter whether they share URLs.
-/

namespace Courier.Group

variable {σ : Type} {plan : RetryPlan} {t : Transport σ} {k n i : Nat} {s s' : State σ}
  {requests : List Request} {m : Moment σ} {r : Request}

/-! ## 1. One after the other -/

/-- A loop over requests goes on with the next one, whatever became of those before it. -/
def Dispatched.andThen (plan : RetryPlan) (t : Transport σ) (d : Dispatched σ) (r : Request) :
    Dispatched σ :=
  let run := plan.execute t r d.moment
  { results := d.results ++ [slot d.results.length run.ending]
    moment := run.moment
    events := d.events ++ run.events.map fun e => (d.results.length, e) }

/-- Requests that are sent one after the other, each when the one before it is settled or has
    crashed. -/
def inTurn (plan : RetryPlan) (t : Transport σ) (requests : List Request) (m : Moment σ) :
    Dispatched σ :=
  requests.foldl (fun d r => d.andThen plan t r) { results := [], moment := m, events := [] }

theorem inTurn_take_succ (h : requests[n]? = some r) (m : Moment σ) :
    inTurn plan t (requests.take (n + 1)) m =
      (inTurn plan t (requests.take n) m).andThen plan t r := by
  rw [inTurn, List.take_add_one, h, List.foldl_append]
  rfl

/-! ## 2. One permit -/

/-- With one permit, only one member holds it. -/
theorem Permits.eq_of_holds (hI : Permits 1 s) {j : Nat} {phase phase' : Phase}
    (hi : s.phase? i = some phase) (holds : phase.holdsPermit = true)
    (hj : s.phase? j = some phase') (holds' : phase'.holdsPermit = true) : i = j := by
  by_contra hne
  -- without the permit of `i` there is none left for `j`
  have hone := s.tally_setPhase Phase.permits hi .idle
  have hj : (s.setPhase i .idle).phase? j = some phase' := (s.phase?_setPhase_ne hne _).trans hj
  have htwo := (s.setPhase i .idle).tally_setPhase Phase.permits hj .idle
  have htotal := hI.total
  have hidle : Phase.idle.permits = 0 := rfl
  have hp : phase.permits = 1 := if_pos holds
  have hp' : phase'.permits = 1 := if_pos holds'
  omega

/-- A member that has got its permit and has not ended holds it. -/
theorem holds_of_entered {phase : Phase} (entered : phase.hasEntered = true)
    (unended : phase.isFinished = false) : phase.holdsPermit = true := by
  refine (Phase.holdsPermit_or_isFinished entered).resolve_right fun hended => ?_
  rw [unended] at hended
  cases hended

/-- Where all the members from `n` on have not ended, those behind `n` have not got a permit. -/
theorem Lined.not_entered {front back : Nat} (hl : Lined s front back) (hI : Permits 1 s)
    (unended : ∀ j phase, n ≤ j → s.phase? j = some phase → phase.isFinished = false) {j : Nat}
    (hj : n < j) {phase : Phase} (hphase : s.phase? j = some phase) : phase.hasEntered = false := by
  rw [← Bool.not_eq_true]
  intro entered
  obtain ⟨first, hfirst, hentered⟩ :=
    hl.entered n (Nat.lt_trans hj (hl.lt_front hphase entered))
  have heq := hI.eq_of_holds hfirst
    (holds_of_entered hentered (unended n first (Nat.le_refl n) hfirst)) hphase
    (holds_of_entered entered (unended j phase (Nat.le_of_lt hj) hphase))
  omega

/-! ## 3. The member whose turn it is -/

/-- How far the member has come whose turn it is, from the moment `m₀` on at which its turn began:
    it is on the course of the run of its request over the transport as it was then. -/
structure OnTurn (plan : RetryPlan) (t : Transport σ) (m₀ : Moment σ) (r : Request) (m : Moment σ)
    (phase : Phase) (es : List Event) : Prop where
  follows : Follows plan r (t.replies r plan.timeout m₀.state) m₀.now phase es
  state : m.state = t.stateAfter r plan.timeout m₀.state (answersOf es).length
  /-- Until it has made its first call no time passes. -/
  prompt : phase.due? = none → phase.isFinished = false → m.now = m₀.now

namespace OnTurn

variable {m₀ m' : Moment σ} {phase phase' : Phase} {es es' : List Event}

/-- **Whatever happens to the member, it stays on the course of its request.** -/
theorem advance (h : OnTurn plan t m₀ r m phase es) (unended : phase.isFinished = false)
    (timely : ∀ d, phase.due? = some d → m.now ≤ d)
    (hadv : Advance plan t m r phase es phase' es') (hnow : m'.now = m.now)
    (hstate : m'.state = t.stateAfter r plan.timeout m₀.state (answersOf es').length) :
    OnTurn plan t m₀ r m' phase' es' := by
  obtain ⟨replies, start, hf, same, hstart⟩ := h.follows.advance timely hadv
  have hnext : ∀ made, MayCall m.now phase made →
      (t.reply r plan.timeout m.state).1 = t.replies r plan.timeout m₀.state made.toNat := by
    intro made may
    rw [h.state, h.follows.length_answersOf may]
    rfl
  have hbegin : start = m₀.now := by
    rcases hstart with heq | ⟨hdue, heq⟩
    · exact heq
    · rw [heq, h.prompt hdue unended]
  rw [same hnext, hbegin] at hf
  refine ⟨hf, hstate, fun hdue hopen => ?_⟩
  rw [hnow]
  cases hadv with
  | stay => exact h.prompt hdue unended
  | enqueue => exact h.prompt rfl rfl
  | grant => exact h.prompt rfl rfl
  | call => cases hdue
  | rest => cases hdue
  | finish => cases hopen

/-- A member at the end of its turn has come to what its request comes to when it is sent then. -/
theorem finished {time : Nat} {ending : Ending}
    (h : OnTurn plan t m₀ r m (.finished time ending) es) :
    plan.execute t r m₀ = ⟨ending, ⟨time, m.state⟩, es, 0⟩ := by
  obtain ⟨last, ends, hes, heq⟩ := h.follows.ends rfl
  obtain ⟨last', ends', hrun⟩ := plan.execute_eq t r m₀
  obtain rfl := ends.unique ends'
  obtain ⟨rfl, rfl⟩ := Phase.finished.inj heq
  have hstate := h.state
  rw [hes, RetryPlan.answersOf_eventsThrough, List.length_map, List.length_range] at hstate
  rw [hrun, hes, hstate]

end OnTurn

/-- A member that has not got a permit and to which nothing happens has not begun. -/
theorem Advance.waits {phase phase' : Phase} {es es' : List Event}
    (hadv : Advance plan t m r phase es phase' es') (was : phase.hasEntered = false)
    (nothing : es' = []) (replies : Nat → Reply) (start : Nat) :
    Follows plan r replies start phase' [] := by
  cases hadv with
  | stay =>
      cases phase with
      | idle => exact .idle
      | queued => exact .queued
      | _ => cases was
  | enqueue => exact .queued
  | grant => exact .admitted
  | call => exact absurd nothing (List.append_ne_nil_of_right_ne_nil _ (List.cons_ne_nil _ _))
  | rest => cases was
  | finish => cases was

/-- Nor has it ended after the next move. -/
theorem Advance.unended {phase phase' : Phase} {es es' : List Event}
    (hadv : Advance plan t m r phase es phase' es') (was : phase.hasEntered = false) :
    phase'.isFinished = false := by
  cases hadv with
  | stay =>
      cases phase with
      | finished time ending => cases was
      | _ => rfl
  | finish => cases was
  | _ => rfl

/-! ## 4. Turn after turn -/

/-- Nothing happens to those that are no members. -/
theorem Reachable.share_eq_nil (h : Reachable plan t (.start requests k m) s) {j : Nat}
    (hj : s.members.length ≤ j) : s.share j = [] := by
  rw [State.share, List.map_eq_nil_iff, List.filter_eq_nil_iff]
  intro e he howner
  have howner := of_decide_eq_true howner
  have hlt := h.owner_lt e he
  rw [← h.length_eq] at hlt
  omega

/-- The state of a group with one permit when it is the turn of member `n`, and `d` is what the
    requests before it came to one after the other. -/
structure Serial (plan : RetryPlan) (t : Transport σ) (d : Dispatched σ) (n : Nat) (s : State σ) :
    Prop where
  length_eq : d.results.length = n
  /-- Those before it have ended as their requests did. -/
  settled : ∀ j < n, ∃ r time ending, s.members[j]? = some ⟨r, .finished time ending⟩ ∧
    d.results[j]? = some (slot j ending)
  /-- It has not ended, nor have those behind it. -/
  unended : ∀ j phase, n ≤ j → s.phase? j = some phase → phase.isFinished = false
  events : s.events = d.events ++ (s.share n).map fun e => (n, e)
  turn : ∀ r phase, s.members[n]? = some ⟨r, phase⟩ →
    OnTurn plan t d.moment r s.moment phase (s.share n)
  /-- Once everybody has had its turn, all is as the loop left it. -/
  atEnd : s.members[n]? = none → s.moment = d.moment

namespace Serial

variable {d : Dispatched σ}

/-- Those behind the member whose turn it is have not got a permit. -/
theorem not_entered (h : Serial plan t d n s) (hs : InOrder plan t (.start requests 1 m) s)
    {j : Nat} (hj : n < j) {phase : Phase} (hphase : s.phase? j = some phase) :
    phase.hasEntered = false := by
  obtain ⟨front, back, hentries⟩ := hs.entries
  exact hentries.lined.not_entered hs.reachable.permits h.unended hj hphase

/-- Nothing has happened to them. -/
theorem share_eq_nil (h : Serial plan t d n s) (hs : InOrder plan t (.start requests 1 m) s)
    {j : Nat} (hj : n < j) : s.share j = [] := by
  by_cases hlt : j < s.members.length
  · obtain ⟨phase, hphase⟩ := exists_phase? hlt
    obtain ⟨r, hr⟩ := s.phase?_eq_some.mp hphase
    obtain ⟨replies, start, hf⟩ := hs.reachable.follows j r phase hr
    exact hf.fresh (.inr (h.not_entered hs hj hphase))
  · exact hs.reachable.share_eq_nil (Nat.le_of_not_lt hlt)

theorem eq_of_holds (h : Serial plan t d n s) (hs : InOrder plan t (.start requests 1 m) s)
    {phase : Phase} (hi : s.phase? i = some phase) (holds : phase.holdsPermit = true) : i = n := by
  rcases Nat.lt_trichotomy i n with hlt | heq | hgt
  · obtain ⟨r, time, ending, hmember, -⟩ := h.settled i hlt
    rw [State.phase?_of_member hmember] at hi
    cases hi
    cases holds
  · exact heq
  · have hnot := h.not_entered hs hgt hi
    rw [Phase.hasEntered_of_holdsPermit holds] at hnot
    cases hnot

/-- Nobody behind the member whose turn it is gets a permit before it has ended. -/
theorem eq_of_enters (h : Serial plan t d n s) (hs' : InOrder plan t (.start requests 1 m) s')
    (was : s.phase? i = some .idle) (others : ∀ j, i ≠ j → s'.phase? j = s.phase? j)
    {phase : Phase} (self : s'.phase? i = some phase) (holds : phase.holdsPermit = true) :
    i = n := by
  by_contra hne
  have hgt : n < i := by
    refine Nat.lt_of_le_of_ne (Nat.le_of_not_lt fun hlt => ?_) (Ne.symm hne)
    obtain ⟨r, time, ending, hmember, -⟩ := h.settled i hlt
    rw [State.phase?_of_member hmember] at was
    cases was
  obtain ⟨front, back, hentries⟩ := hs'.entries
  have hfront := hentries.lined.lt_front self (Phase.hasEntered_of_holdsPermit holds)
  obtain ⟨old, hold, entered⟩ := hentries.lined.entered n (Nat.lt_trans hgt hfront)
  have unended := h.unended n old (Nat.le_refl n) (by rw [← others n hne]; exact hold)
  exact hne (hs'.reachable.permits.eq_of_holds self holds hold (holds_of_entered entered unended))

/-- **Whoever moves is the member whose turn it is**, or it queues. -/
theorem mover (h : Serial plan t d n s) (hs : InOrder plan t (.start requests 1 m) s)
    (hm : Move plan t s i s') (hs' : InOrder plan t (.start requests 1 m) s') :
    i = n ∨ s'.moment = s.moment ∧ s'.events = s.events := by
  cases hm with
  | enqueue r was full => exact .inr ⟨rfl, rfl⟩
  | enter r was room =>
      have was := State.phase?_of_member was
      exact .inl (h.eq_of_enters hs' was (fun j hne => s.phase?_setPhase_ne hne _)
        (s.phase?_setPhase_self was (s.callingNow plan t r 0)) rfl)
  | begin r was => exact .inl (h.eq_of_holds hs (State.phase?_of_member was) rfl)
  | resume r made due was rung => exact .inl (h.eq_of_holds hs (State.phase?_of_member was) rfl)
  | rest r made due reply wait notice was arrived again =>
      exact .inl (h.eq_of_holds hs (State.phase?_of_member was) rfl)
  | finish r made due reply ending was arrived stop =>
      exact .inl (h.eq_of_holds hs (State.phase?_of_member was) rfl)

/-- The log and the transport go on with what the member does whose turn it is. -/
theorem adds (h : Serial plan t d n s) (hs : InOrder plan t (.start requests 1 m) s)
    (hm : Move plan t s i s') (hs' : InOrder plan t (.start requests 1 m) s') {phase : Phase}
    (hn : s.members[n]? = some ⟨r, phase⟩) :
    s'.events = d.events ++ (s'.share n).map (fun e => (n, e)) ∧
      s'.moment.state = t.stateAfter r plan.timeout d.moment.state
        (answersOf (s'.share n)).length := by
  have hturn := h.turn r phase hn
  rcases h.mover hs hm hs' with rfl | ⟨hmoment, hevents⟩
  · have grown : ∀ es, s'.events = s.events ++ es.map (fun e => (i, e)) →
        s'.share i = s.share i ++ es ∧
          s'.events = d.events ++ (s'.share i).map (fun e => (i, e)) := by
      intro es hes
      have hshare := share_of_events hes i
      rw [if_pos rfl] at hshare
      refine ⟨hshare, ?_⟩
      rw [hes, h.events, hshare, List.map_append, List.append_assoc]
    cases hm.adds with
    | call q own state events =>
        obtain rfl : r = q := by
          rw [request_of_member hn] at own
          exact Option.some.inj own
        obtain ⟨hshare, hall⟩ := grown _ events
        refine ⟨hall, ?_⟩
        rw [state, hshare, answersOf_append, List.length_append, hturn.state]
        rfl
    | silent es quiet own state events =>
        obtain ⟨hshare, hall⟩ := grown es events
        refine ⟨hall, ?_⟩
        rw [state, hshare, answersOf_append, quiet, List.append_nil, hturn.state]
  · have hshare : s'.share n = s.share n := by rw [State.share, State.share, hevents]
    rw [hevents, hmoment, hshare]
    exact ⟨h.events, hturn.state⟩

/-- To the member behind nothing has happened yet. -/
theorem share_next (h : Serial plan t d n s) (hs : InOrder plan t (.start requests 1 m) s)
    (hm : Move plan t s i s') (hs' : InOrder plan t (.start requests 1 m) s') :
    s'.share (n + 1) = [] := by
  have hnone := h.share_eq_nil hs (Nat.lt_succ_self n)
  rcases h.mover hs hm hs' with rfl | ⟨-, hevents⟩
  · obtain ⟨es, hes⟩ : ∃ es : List Event, s'.events = s.events ++ es.map fun e => (i, e) := by
      cases hm.adds with
      | call q own state events => exact ⟨_, events⟩
      | silent es quiet own state events => exact ⟨_, events⟩
    rw [share_of_events hes, hnone, if_neg (Nat.ne_of_lt (Nat.lt_succ_self i))]
    rfl
  · rw [State.share, hevents]
    exact hnone

theorem settled_move (h : Serial plan t d n s) (hI : Permits 1 s) (hm : Move plan t s i s') :
    ∀ j < n, ∃ r time ending, s'.members[j]? = some ⟨r, .finished time ending⟩ ∧
      d.results[j]? = some (slot j ending) := by
  intro j hj
  obtain ⟨q, time, ending, hmember, hresult⟩ := h.settled j hj
  obtain ⟨phase', hnext, hadv⟩ := hm.advance hI hmember
  rw [hadv.finished rfl] at hnext
  exact ⟨q, time, ending, hnext, hresult⟩

theorem unended_behind (h : Serial plan t d n s) (hs : InOrder plan t (.start requests 1 m) s)
    (hm : Move plan t s i s') {j : Nat} (hj : n < j) {phase : Phase}
    (hphase : s'.phase? j = some phase) : phase.isFinished = false := by
  obtain ⟨q, hq⟩ := s'.phase?_eq_some.mp hphase
  obtain ⟨old, hold, hadv⟩ := hm.advance_of hs.reachable.permits hq
  exact hadv.unended (h.not_entered hs hj (State.phase?_of_member hold))

theorem turn_move (h : Serial plan t d n s) (hs : InOrder plan t (.start requests 1 m) s)
    (hm : Move plan t s i s') (hs' : InOrder plan t (.start requests 1 m) s') {phase : Phase}
    (hnext : s'.members[n]? = some ⟨r, phase⟩) :
    OnTurn plan t d.moment r s'.moment phase (s'.share n) := by
  obtain ⟨old, hn, hadv⟩ := hm.advance_of hs.reachable.permits hnext
  have hold := State.phase?_of_member hn
  exact (h.turn r old hn).advance (h.unended n old (Nat.le_refl n) hold)
    (fun e he => hs.reachable.timely n old e hold he) hadv hm.now (h.adds hs hm hs' hn).2

/-- **When the member has ended, it is the turn of the next.** -/
theorem next (h : Serial plan t d n s) (hs : InOrder plan t (.start requests 1 m) s)
    (hm : Move plan t s i s') (hs' : InOrder plan t (.start requests 1 m) s') {time : Nat}
    {ending : Ending} (hnext : s'.members[n]? = some ⟨r, .finished time ending⟩) :
    Serial plan t (d.andThen plan t r) (n + 1) s' := by
  obtain ⟨old, hn, hadv⟩ := hm.advance_of hs.reachable.permits hnext
  have hopen := h.unended n old (Nat.le_refl n) (State.phase?_of_member hn)
  have htime : time = s.moment.now := by
    generalize s.share n = es, s'.share n = es' at hadv
    cases hadv with
    | stay => cases hopen
    | finish => rfl
  have hrun : plan.execute t r d.moment = ⟨ending, s'.moment, s'.share n, 0⟩ := by
    rw [(h.turn_move hs hm hs' hnext).finished, htime, ← hm.now]
  have hgone : d.andThen plan t r = ⟨d.results ++ [slot n ending], s'.moment,
      d.events ++ (s'.share n).map fun e => (n, e)⟩ := by
    rw [Dispatched.andThen, hrun, h.length_eq]
  have hshare := h.share_next hs hm hs'
  rw [hgone]
  refine ⟨?_, fun j hj => ?_, fun j φ hj hφ => h.unended_behind hs hm hj hφ, ?_,
    fun q φ hq => ?_, fun _ => rfl⟩
  · rw [List.length_append, h.length_eq]
    rfl
  · rcases Nat.lt_succ_iff_lt_or_eq.mp hj with hlt | rfl
    · obtain ⟨q, time', ending', hmember, hresult⟩ := h.settled_move hs.reachable.permits hm j hlt
      refine ⟨q, time', ending', hmember, ?_⟩
      rw [List.getElem?_append_left (by rw [h.length_eq]; exact hlt)]
      exact hresult
    · refine ⟨r, time, ending, hnext, ?_⟩
      rw [← h.length_eq, List.getElem?_concat_length]
  · rw [hshare, List.map_nil, List.append_nil]
    exact (h.adds hs hm hs' hn).1
  · obtain ⟨before, hbefore, hadv⟩ := hm.advance_of hs.reachable.permits hq
    have hnot := h.not_entered hs (Nat.lt_succ_self n) (State.phase?_of_member hbefore)
    rw [hshare]
    exact ⟨hadv.waits hnot hshare _ _, rfl, fun _ _ => rfl⟩

/-- Once everybody has had its turn, nothing happens any more. -/
theorem still (h : Serial plan t d n s) (hs : InOrder plan t (.start requests 1 m) s)
    (hm : Move plan t s i s') (hs' : InOrder plan t (.start requests 1 m) s')
    (hn : s.members[n]? = none) : s'.moment = s.moment ∧ s'.events = s.events := by
  refine (h.mover hs hm hs').resolve_left ?_
  rintro rfl
  have hlt : i < s.members.length := by
    cases hm.adds with
    | call r own state events =>
        rw [← List.length_map Member.request]
        exact (List.getElem?_eq_some_iff.mp own).1
    | silent es quiet own state events => exact own
  rw [List.getElem?_eq_none_iff] at hn
  omega

/-- **A move leaves it to the same member, or that has ended and it is the turn of the next.** -/
theorem move (h : Serial plan t d n s) (hs : InOrder plan t (.start requests 1 m) s)
    (hm : Move plan t s i s') (hs' : InOrder plan t (.start requests 1 m) s') :
    Serial plan t d n s' ∨
      ∃ r, requests[n]? = some r ∧ Serial plan t (d.andThen plan t r) (n + 1) s' := by
  have hsettled := h.settled_move hs.reachable.permits hm
  by_cases hended : ∃ r time ending, s'.members[n]? = some ⟨r, .finished time ending⟩
  · obtain ⟨r, time, ending, hnext⟩ := hended
    have hown := request_of_member hnext
    rw [hs'.reachable.requests_eq] at hown
    exact .inr ⟨r, hown, h.next hs hm hs' hnext⟩
  · refine .inl ⟨h.length_eq, hsettled, fun j φ hj hφ => ?_, ?_,
      fun q φ hq => h.turn_move hs hm hs' hq, ?_⟩
    · rcases Nat.eq_or_lt_of_le hj with rfl | hlt
      · obtain ⟨q, hq⟩ := s'.phase?_eq_some.mp hφ
        cases φ with
        | finished time ending => exact absurd ⟨q, time, ending, hq⟩ hended
        | _ => rfl
      · exact h.unended_behind hs hm hlt hφ
    · cases hn : s.members[n]? with
      | some member =>
          obtain ⟨r, phase⟩ := member
          exact (h.adds hs hm hs' hn).1
      | none =>
          have hevents := (h.still hs hm hs' hn).2
          rw [State.share, hevents]
          exact h.events
    · intro hnone
      have hn : s.members[n]? = none := by
        rw [List.getElem?_eq_none_iff] at hnone ⊢
        rw [← hm.length_eq]
        exact hnone
      rw [(h.still hs hm hs' hn).1]
      exact h.atEnd hn

/-- Time passes only for the member whose turn it is. -/
theorem tick {due : Nat} (h : Serial plan t d n s) (hs : InOrder plan t (.start requests 1 m) s)
    (idle : ∀ i, ¬ s.CanAct i) (known : due ∈ s.dues) : Serial plan t d n (s.atTime due) := by
  have hI := hs.reachable.permits
  refine ⟨h.length_eq, h.settled, h.unended, h.events, fun r phase hn => ?_, fun hnone => ?_⟩
  · have hturn := h.turn r phase hn
    have hphase : s.phase? n = some phase := State.phase?_of_member hn
    refine ⟨hturn.follows, hturn.state, fun hdue hopen => ?_⟩
    cases phase with
    | idle => exact absurd ⟨_, hphase, rfl⟩ (idle n)
    | admitted => exact absurd ⟨_, hphase, rfl⟩ (idle n)
    | queued =>
        -- somebody would have to hold the permit, and nobody else can
        have hbusy := hI.busy (List.ne_nil_of_mem ((hI.mem_queue n).mpr hphase))
        have htotal := hI.free_add_holders
        have hnobody : s.holders = 0 := by
          refine holders_eq_zero fun j φ hj => ?_
          rw [← Bool.not_eq_true]
          intro holds
          obtain rfl := h.eq_of_holds hs hj holds
          rw [hphase] at hj
          cases hj
          cases holds
        omega
    | calling made e reply => cases hdue
    | resting made e => cases hdue
    | finished time ending => cases hopen
  · obtain ⟨j, phase, hj, hdue⟩ := exists_of_mem_dues known
    have hlt := lt_length_of_phase? hj
    have hn : s.members.length ≤ n := List.getElem?_eq_none_iff.mp hnone
    obtain ⟨r, time, ending, hmember, -⟩ := h.settled j (Nat.lt_of_lt_of_le hlt hn)
    rw [State.phase?_of_member hmember] at hj
    cases hj
    cases hdue

end Serial

/-- **In every state of a group with one permit it is the turn of one member.** -/
theorem InOrder.serial (h : InOrder plan t (.start requests 1 m) s) :
    ∃ n ≤ requests.length, Serial plan t (inTurn plan t (requests.take n) m) n s := by
  refine h.induct
    (motive := fun s => ∃ n ≤ requests.length,
      Serial plan t (inTurn plan t (requests.take n) m) n s) ?_ ?_ ?_
  · refine ⟨0, Nat.zero_le _, rfl, fun j hj => absurd hj (Nat.not_lt_zero j), ?_, rfl, ?_,
      fun _ => rfl⟩
    · intro j phase _ hphase
      rw [phase?_start hphase]
      rfl
    · intro r phase hn
      rw [phase?_start (State.phase?_of_member hn)]
      exact ⟨.idle, rfl, fun _ _ => rfl⟩
  · rintro s s' i hs ⟨n, hn, hserial⟩ hm hs'
    rcases hserial.move hs hm hs' with hsame | ⟨r, hr, hnext⟩
    · exact ⟨n, hn, hsame⟩
    · refine ⟨n + 1, (List.getElem?_eq_some_iff.mp hr).1, ?_⟩
      rw [inTurn_take_succ hr]
      exact hnext
  · rintro s due hs ⟨n, hn, hserial⟩ idle known -
    exact ⟨n, hn, hserial.tick hs idle known⟩

/-! ## 5. The end -/

/-- **A group with one permit ends as the loop does.** -/
theorem CompleteInOrder.dispatched_eq (h : CompleteInOrder plan t (.start requests 1 m) s) :
    s.dispatched = inTurn plan t requests m := by
  obtain ⟨n, hn, hserial⟩ := h.inOrder.serial
  have hlength := h.complete.reachable.length_eq
  obtain rfl : n = s.members.length := by
    by_contra hne
    obtain ⟨phase, hphase⟩ := exists_phase? (s := s) (i := n) (by omega)
    have hended := h.complete.finished Nat.zero_lt_one hphase
    rw [hserial.unended n phase (Nat.le_refl n) hphase] at hended
    cases hended
  rw [hlength, List.take_length] at hserial
  generalize inTurn plan t requests m = d at hserial
  have hevents := hserial.events
  rw [h.complete.reachable.share_eq_nil (Nat.le_of_eq hlength), List.map_nil, List.append_nil]
    at hevents
  have hmoment := hserial.atEnd (List.getElem?_eq_none (Nat.le_of_eq hlength))
  have hresults : s.dispatched.results = d.results := by
    refine List.ext_getElem? fun j => ?_
    by_cases hj : j < requests.length
    · obtain ⟨r, time, ending, hmember, hresult⟩ := hserial.settled j hj
      rw [hresult]
      exact getElem?_results hmember
    · have hloop : d.results[j]? = none := by
        rw [List.getElem?_eq_none_iff, hserial.length_eq]
        omega
      have hgroup : s.members[j]? = none := by
        rw [List.getElem?_eq_none_iff]
        omega
      show (s.members.mapIdx result)[j]? = d.results[j]?
      rw [hloop, List.getElem?_mapIdx, hgroup]
      rfl
  obtain ⟨results, moment, events⟩ := d
  obtain rfl : s.members.mapIdx result = results := hresults
  obtain rfl : s.moment = moment := hmoment
  obtain rfl : s.events = events := hevents
  rfl

/-- **Sequence.** For any plan, any transport, any requests and a wish of none or one, a group whose
    members ask for permits in input order comes to an end however their other steps interleave, and
    there it has come to just what the loop over its requests comes to: the results, the log and the
    moment with the state of the transport are the same. So it is with the run in turns. -/
theorem sequence (plan : RetryPlan) (t : Transport σ) (requests : List Request) (wish : UInt64)
    (m : Moment σ) (single : wish.toNat ≤ 1) :
    ComesToInOrder plan t (.start requests (max 1 wish.toNat) m) (fun s =>
      s.dispatched = inTurn plan t requests m) ∧
    dispatch? plan t requests wish m = some (inTurn plan t requests m) := by
  have hone : max 1 wish.toNat = 1 := Nat.max_eq_left single
  have possible : max 1 wish.toNat ≤ maxPermits := by
    rw [hone]
    decide
  have hdispatch : ∃ s, CompleteInOrder plan t (.start requests (max 1 wish.toNat) m) s ∧
      dispatch? plan t requests wish m = some s.dispatched := dispatch_inOrder possible
  rw [hone] at hdispatch ⊢
  obtain ⟨s, hs, hsome⟩ := hdispatch
  refine ⟨⟨no_endless_run, fun s h => h.dispatched_eq⟩, ?_⟩
  rw [hsome, hs.dispatched_eq]

/-- Two requests compete for the replies of one URL, and the first call crashes after a while. -/
theorem sequence_of_shared_url :
    let t := Script.transport (.ofTable [("http://a/", [⟨some 10, .crashed "lost"⟩])])
    let requests := [Request.get "http://a/", Request.get "http://a/"]
    let loop := inTurn (.ofSettings {}) t requests ⟨0, Script.Served.none⟩
    (0 : UInt64).toNat ≤ 1 ∧
    dispatch? (.ofSettings {}) t requests 0 ⟨0, Script.Served.none⟩ = some loop ∧
    loop.moment.now = 10 := by
  intro t requests loop
  have hloop := (sequence (.ofSettings {}) t requests 0 ⟨0, Script.Served.none⟩ (by decide)).2
  exact ⟨by decide, hloop, by decide +kernel⟩

end Courier.Group
