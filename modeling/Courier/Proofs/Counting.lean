import Courier.Proofs.Execution
import Courier.Proofs.Waits
import Mathlib.Logic.Function.Iterate

/-!
# Counting attempts in words

The loop of attempts counts them in a word of 32 bits, whose operations wrap. This file has two
loops: `RetryPlan.round` is one round of it as it is, with nothing known about the count, and
`Figures.round` is one round of a loop that counts in numbers without a bound and words its warnings
with them. Reading the words as numbers (`Loop.inFigures`) takes every place of the first to the
place of the second after as many rounds (`inFigures_rounds`).

What carries this is that the count is below the budget at the head of the loop
(`Loop.Below.round`), so that no operation of the round wraps (`RetryPlan.Exact`). The run of
attempts is the first loop up to its end (`rounds_eq_ended`).
-/

namespace Courier

/-! ## 1. Spans by their length -/

namespace Span

/-- The span of so many nanoseconds, or the longest where that would be longer. -/
def ofNanos (n : Nat) : Span :=
  if n < 18446744073709551616 * 1000000000 then
    { seconds := UInt64.ofNat (n / 1000000000)
      nanos := UInt32.ofNat (n % 1000000000)
      nanos_lt := by
        rw [UInt32.toNat_ofNat', Nat.mod_eq_of_lt (by omega)]
        omega }
  else longest

theorem toNanos_ofNanos (n : Nat) : (ofNanos n).toNanos = min n longest.toNanos := by
  unfold ofNanos
  rw [toNanos_longest]
  split
  · have hseconds : (UInt64.ofNat (n / 1000000000)).toNat = n / 1000000000 :=
      UInt64.toNat_ofNat_of_lt' (Nat.div_lt_of_lt_mul (by omega))
    have hnanos : (UInt32.ofNat (n % 1000000000)).toNat = n % 1000000000 :=
      UInt32.toNat_ofNat_of_lt' (Nat.lt_trans (Nat.mod_lt n (by decide)) (by decide))
    rw [toNanos, hseconds, hnanos]
    omega
  · rw [toNanos_longest]
    omega

end Span

namespace RetryPlan

/-! ## 2. The two loops -/

/-- Where a loop of attempts is. It counts in `ν` and keeps a record of `ε`. -/
inductive Loop (ν ε σ : Type)
  /-- At its head, with so many attempts made. -/
  | head (made : ν) (moment : Moment σ) (record : List ε)
  /-- At its end. -/
  | ended (ending : Ending) (moment : Moment σ) (record : List ε)

/-- One round of the loop. The count is any word, and adding to it may wrap. -/
def round {σ : Type} (plan : RetryPlan) (t : Transport σ) (r : Request) :
    Loop UInt32 Event σ → Loop UInt32 Event σ
  | .ended ending moment record => .ended ending moment record
  | .head made moment record =>
    let answer := t.reply r plan.timeout moment.state
    let now := moment.now + answer.1.latency
    let record := record ++ plan.callEvents r moment.now answer.1
    match plan.decide r (made + 1) answer.1.outcome with
    | .stop ending => .ended ending ⟨now, answer.2⟩ record
    | .again wait notice =>
      .head (made + 1) ⟨now + wait.restMillis, answer.2⟩
        (record ++ [.noticed notice, .waited now wait])

/-- Where the loop is after `n` rounds. -/
def rounds {σ : Type} (plan : RetryPlan) (t : Transport σ) (r : Request) (m : Moment σ) (n : Nat) :
    Loop UInt32 Event σ :=
  (plan.round t r)^[n] (.head 0 m [])

/-- Something that happened, as it is put down where there are no words to count with. -/
inductive Entry
  /-- A call was made, and this becomes of it. -/
  | called (call : Call) (outcome : Outcome)
  /-- Somebody began to wait before the next call. -/
  | waited (start : Nat) (length : Span)
  /-- This line was reported. -/
  | reported (line : String)

/-- How requests are attempted, in numbers. -/
structure Figures where
  /-- How many attempts there may be. -/
  budget : Nat
  /-- The wait after the first attempt, in nanoseconds. -/
  initial : Nat
  /-- The longest wait in nanoseconds, or 0 where there is none. -/
  cap : Nat
  /-- The time limit of each attempt. -/
  timeout : Option Span

namespace Figures

/-- The figures that settings ask for. -/
def ofSettings (s : Settings) : Figures where
  budget := max 1 s.maxRetries.toNat
  initial := s.retryBackoffMs.toNat * 1000000
  cap := s.maxBackoffMs.toNat * 1000000
  timeout := s.timeout

/-- The wait after attempt `k`, counted from 0. -/
def wait (p : Figures) (k : Nat) : Span :=
  let length := p.initial * 2 ^ min k 31
  .ofNanos (if p.cap = 0 then length else min length p.cap)

/-- The warning after attempt number `attempt`, counted from 1, where it met with a setback. -/
def warning (p : Figures) (r : Request) (attempt : Nat) (o : Outcome) : List Entry :=
  o.setback?.toList.map fun setback =>
    .reported ("WARN " ++ retryText r.method r.url setback attempt p.budget (p.wait (attempt - 1)))

/-- One round of the loop in numbers. -/
def round {σ : Type} (p : Figures) (t : Transport σ) (r : Request) :
    Loop Nat Entry σ → Loop Nat Entry σ
  | .ended ending moment record => .ended ending moment record
  | .head made moment record =>
    let answer := t.reply r p.timeout moment.state
    let now := moment.now + answer.1.latency
    let attempt := made + 1
    let record := record ++
      [.reported (Notice.sending r.method r.url).line,
        .called (r.call p.timeout moment.now answer.1.latency) answer.1.outcome]
    if answer.1.outcome.MeritsRetry ∧ attempt < p.budget then
      let wait := p.wait (attempt - 1)
      .head attempt ⟨now + wait.restMillis, answer.2⟩
        (record ++ p.warning r attempt answer.1.outcome ++ [.waited now wait])
    else .ended (answer.1.outcome.ending r) ⟨now, answer.2⟩ record

/-- Where the loop in numbers is after `n` rounds. -/
def rounds {σ : Type} (p : Figures) (t : Transport σ) (r : Request) (m : Moment σ) (n : Nat) :
    Loop Nat Entry σ :=
  (p.round t r)^[n] (.head 0 m [])

end Figures

/-! ## 3. Words as numbers -/

/-- An event as it is put down. -/
def entryOf : Event → Entry
  | .called call outcome => .called call outcome
  | .waited start length => .waited start length
  | .noticed notice => .reported notice.line

/-- A place of a loop with its words read as numbers. -/
def Loop.inFigures {σ : Type} : Loop UInt32 Event σ → Loop Nat Entry σ
  | .head made moment record => .head made.toNat moment (record.map entryOf)
  | .ended ending moment record => .ended ending moment (record.map entryOf)

/-- The figures of a plan. -/
def figures (plan : RetryPlan) : Figures where
  budget := plan.budget
  initial := plan.backoff.initial.toNanos
  cap := plan.backoff.cap.toNanos
  timeout := plan.timeout

theorem figures_ofSettings (s : Settings) : (ofSettings s).figures = .ofSettings s := by
  have hinitial : (ofSettings s).backoff.initial.toNanos = s.retryBackoffMs.toNat * 1000000 :=
    Span.toNanos_ofMillis s.retryBackoffMs
  have hcap : (ofSettings s).backoff.cap.toNanos = s.maxBackoffMs.toNat * 1000000 :=
    Span.toNanos_ofMillis s.maxBackoffMs
  rw [figures, budget_ofSettings, hinitial, hcap]
  rfl

variable {plan : RetryPlan}

theorem wait_figures (made : UInt32) :
    plan.figures.wait made.toNat = plan.waitAfter made.toNat := by
  refine Span.toNanos_inj ?_
  rw [waitAfter, UInt32.ofNat_toNat, Backoff.toNanos_delay_eq, Figures.wait, Span.toNanos_ofNanos,
    Backoff.limit, Backoff.doubled]
  show min (if plan.backoff.cap.toNanos = 0 then _ else _) _ = _
  split
  · rfl
  · rw [Nat.min_assoc, Nat.min_comm plan.figures.cap]
    rfl

theorem toNat_ofNat_of_lt_budget {n : Nat} (h : n < plan.budget) : (UInt32.ofNat n).toNat = n :=
  UInt32.toNat_ofNat_of_lt' (Nat.lt_trans h plan.backoff.maxAttempts.toNat_lt)

theorem ofNat_le_maxAttempts {n : Nat} (h : n < plan.budget) :
    UInt32.ofNat n ≤ plan.backoff.maxAttempts := by
  rw [UInt32.le_iff_toNat_le, toNat_ofNat_of_lt_budget h]
  exact Nat.le_of_lt h

/-- A warning is worded with the numbers that its words stand for. -/
theorem warning_figures {r : Request} {made : UInt32} {o : Outcome} {notice : Notice}
    (more : made.toNat + 1 < plan.budget) (h : plan.warning? r made.toNat o = some notice) :
    plan.figures.warning r (made.toNat + 1) o = [.reported notice.line] := by
  obtain ⟨setback, hsetback, rfl⟩ := Option.map_eq_some_iff.mp h
  rw [line_retrying (ofNat_le_maxAttempts more), toNat_ofNat_of_lt_budget more, Figures.warning,
    hsetback, Nat.add_sub_cancel, wait_figures]
  rfl

/-! ## 4. One round -/

section Round

variable {σ : Type} {t : Transport σ} {r : Request} {made : UInt32} {m : Moment σ}
  {reply : Reply} {state : σ}

/-- **A round that begins below the budget ends the loop, or comes back to its head with one attempt
    more.** -/
theorem round_head (record : List Event)
    (hreply : t.reply r plan.timeout m.state = (reply, state)) (below : made.toNat < plan.budget) :
    (¬ (reply.outcome.MeritsRetry ∧ made.toNat + 1 < plan.budget) ∧
      plan.round t r (.head made m record) =
        .ended (reply.outcome.ending r) ⟨m.now + reply.latency, state⟩
          (record ++ plan.callEvents r m.now reply)) ∨
    ((reply.outcome.MeritsRetry ∧ made.toNat + 1 < plan.budget) ∧
      ∃ notice, plan.warning? r made.toNat reply.outcome = some notice ∧
        plan.round t r (.head made m record) =
          .head (made + 1)
            ⟨m.now + reply.latency + (plan.waitAfter made.toNat).restMillis, state⟩
            (record ++ plan.callEvents r m.now reply ++
              [.noticed notice, .waited (m.now + reply.latency) (plan.waitAfter made.toNat)])) := by
  by_cases again : reply.outcome.MeritsRetry ∧ made.toNat + 1 < plan.budget
  · obtain ⟨notice, hwarn, hdec⟩ := decide_of_retry (r := r) again.1 again.2
    exact .inr ⟨again, notice, hwarn, by simp only [round, hreply, hdec]⟩
  · have last : ¬ reply.outcome.MeritsRetry ∨ made.toNat + 1 = plan.budget :=
      (not_and_or.mp again).imp_right fun _ => by omega
    exact .inl ⟨again, by simp only [round, hreply, decide_of_last below last]⟩

/-- The count is below the budget, unless the loop has come to its end. -/
def Loop.Below (plan : RetryPlan) : Loop UInt32 Event σ → Prop
  | .head made _ _ => made.toNat < plan.budget
  | .ended _ _ _ => True

/-- A round leaves it so. -/
theorem Loop.Below.round {place : Loop UInt32 Event σ} (below : place.Below plan) :
    (plan.round t r place).Below plan := by
  cases place with
  | ended ending moment record => trivial
  | head made m record =>
      rcases round_head record (Prod.eta (t.reply r plan.timeout m.state)).symm below with
        ⟨-, hround⟩ | ⟨⟨-, more⟩, notice, -, hround⟩
      · rw [hround]
        trivial
      · rw [hround]
        show (made + 1).toNat < plan.budget
        rw [toNat_succ_of_lt_budget below]
        exact more

/-- **Where the count is below the budget, a round in words is one in numbers.** -/
theorem inFigures_round {place : Loop UInt32 Event σ} (below : place.Below plan) :
    (plan.round t r place).inFigures = plan.figures.round t r place.inFigures := by
  cases place with
  | ended ending moment record => rfl
  | head made m record =>
      -- both loops get the same reply
      generalize hreply : t.reply r plan.timeout m.state = answer
      obtain ⟨reply, state⟩ := answer
      have hfigures : t.reply r plan.figures.timeout m.state = (reply, state) := hreply
      have hcall : (plan.callEvents r m.now reply).map entryOf =
          [.reported (Notice.sending r.method r.url).line,
            .called (r.call plan.figures.timeout m.now reply.latency) reply.outcome] := rfl
      have hbudget : plan.figures.budget = plan.budget := rfl
      rcases round_head record hreply below with
        ⟨last, hround⟩ | ⟨again, notice, hwarn, hround⟩
      · rw [hround]
        simp only [Loop.inFigures, Figures.round, hfigures, hbudget, if_neg last, List.map_append,
          hcall]
      · rw [hround]
        simp only [Loop.inFigures, Figures.round, hfigures, hbudget, if_pos again, List.map_append,
          hcall, toNat_succ_of_lt_budget below, Nat.add_sub_cancel, wait_figures,
          warning_figures again.2 hwarn, List.append_assoc]
        rfl

end Round

/-! ## 5. All rounds -/

section Rounds

variable {σ : Type} (plan : RetryPlan) (t : Transport σ) (r : Request) (m : Moment σ)

theorem rounds_succ (n : Nat) : plan.rounds t r m (n + 1) = plan.round t r (plan.rounds t r m n) :=
  Function.iterate_succ_apply' ..

theorem below_rounds (n : Nat) : (plan.rounds t r m n).Below plan := by
  induction n with
  | zero => exact plan.budget_pos
  | succ n ih =>
      rw [rounds_succ]
      exact ih.round

/-- **After any number of rounds, the loop in words is where the loop in numbers is.** -/
theorem inFigures_rounds (n : Nat) :
    (plan.rounds t r m n).inFigures = plan.figures.rounds t r m n := by
  induction n with
  | zero => rfl
  | succ n ih =>
      rw [rounds_succ, Figures.rounds, Function.iterate_succ_apply', ← Figures.rounds, ← ih]
      exact inFigures_round (plan.below_rounds t r m n)

variable {plan t r m} {last n : Nat}

/-- Up to the call that the run ends with, the loop comes back to its head. -/
theorem rounds_eq_head (hends : plan.Ends (t.replies r plan.timeout m.state) last)
    (hn : n ≤ last) :
    plan.rounds t r m n =
      .head (UInt32.ofNat n) (plan.momentOf t r m n)
        (plan.eventsBefore r (t.replies r plan.timeout m.state) m.now n) := by
  induction n with
  | zero => rfl
  | succ n ih =>
      have hbelow := hends.below
      have hword := toNat_ofNat_of_lt_budget (Nat.lt_trans hn hbelow)
      have hreply : t.reply r plan.timeout (plan.momentOf t r m n).state =
          (t.replies r plan.timeout m.state n, t.stateAfter r plan.timeout m.state (n + 1)) := rfl
      have more : (UInt32.ofNat n).toNat + 1 < plan.budget := by omega
      obtain ⟨-, notice, hwarn, hround⟩ := (round_head
        (plan.eventsBefore r (t.replies r plan.timeout m.state) m.now n)
        hreply (Nat.lt_of_succ_lt more)).resolve_left fun h => h.1 ⟨hends.retried n hn, more⟩
      rw [hword] at hwarn hround
      -- the clock has gone on by the reply to call number `n` and the wait after it
      have hmoment : plan.momentOf t r m (n + 1) =
          ⟨(plan.momentOf t r m n).now + (t.replies r plan.timeout m.state n).latency +
            (plan.waitAfter n).restMillis, t.stateAfter r plan.timeout m.state (n + 1)⟩ := by
        rw [momentOf, momentOf, offset, Nat.add_assoc m.now, Nat.add_assoc m.now]
      rw [rounds_succ, ih (Nat.le_of_succ_le hn), hround, hmoment, UInt32.ofNat_add,
        eventsBefore_succ, eventsThrough, gapPart, hwarn]
      simp only [List.append_assoc]
      rfl

/-- **The run of attempts is the loop up to its end**, which it comes to after that call. -/
theorem rounds_eq_ended (hends : plan.Ends (t.replies r plan.timeout m.state) last)
    (hn : last < n) :
    let run := plan.execute t r m
    plan.rounds t r m n = .ended run.ending run.moment run.events := by
  intro run
  induction hn with
  | refl =>
      obtain ⟨last', hends', hrun⟩ := plan.execute_eq t r m
      obtain rfl := hends.unique hends'
      have hrun : run = _ := hrun
      have hbelow := hends.below
      have hword := toNat_ofNat_of_lt_budget hbelow
      have hreply : t.reply r plan.timeout (plan.momentOf t r m last).state =
          (t.replies r plan.timeout m.state last,
            t.stateAfter r plan.timeout m.state (last + 1)) := rfl
      obtain ⟨-, hround⟩ := (round_head
        (plan.eventsBefore r (t.replies r plan.timeout m.state) m.now last)
        hreply (by rw [hword]; exact hbelow)).resolve_right fun h =>
          hends.final.elim (fun hfinal => hfinal h.1.1) fun hspent => by omega
      rw [rounds_succ, rounds_eq_head hends (Nat.le_refl last), hrun]
      exact hround
  | step _ ih =>
      rw [rounds_succ, ih]
      rfl

/-- A call that another follows met with a setback. -/
theorem Ends.setback?_eq {replies : Nat → Reply} {k : Nat} (h : plan.Ends replies last)
    (hk : k < last) :
    (replies k).outcome.setback? = some ((replies k).outcome.setback?.getD (.status .ok)) := by
  obtain ⟨setback, hsetback⟩ := (h.retried k hk).setback?
  rw [hsetback]
  rfl

/-- The count at the head of the loop is the number of rounds. -/
theorem toNat_of_rounds_eq_head {made : UInt32} {moment : Moment σ} {record : List Event}
    (h : plan.rounds t r m n = .head made moment record) : made.toNat = n := by
  obtain ⟨last, hends, -⟩ := plan.execute_eq t r m
  by_cases hn : n ≤ last
  · rw [rounds_eq_head hends hn] at h
    cases h
    exact toNat_ofNat_of_lt_budget (Nat.lt_of_le_of_lt hn hends.below)
  · rw [rounds_eq_ended hends (Nat.lt_of_not_le hn)] at h
    cases h

end Rounds

/-! ## 6. Nothing wraps -/

/-- What is left of a budget is exact unless more was taken. -/
theorem toNat_sub_add_toNat {attempt budget : UInt32} (h : attempt ≤ budget) :
    (budget - attempt).toNat + attempt.toNat = budget.toNat := by
  rw [UInt32.toNat_sub_of_le _ _ h]
  exact Nat.sub_add_cancel (UInt32.le_iff_toNat_le.mp h)

/-- No operation wraps in a round that begins with so many attempts made. -/
structure Exact (plan : RetryPlan) (made : UInt32) : Prop where
  /-- There are fewer than there may be. -/
  below : made < plan.backoff.maxAttempts
  /-- One more can be counted, -/
  added : (made + 1).toNat = made.toNat + 1
  /-- and one be taken off again for the wait. -/
  taken : (made + 1 - 1).toNat + 1 = (made + 1).toNat
  /-- They can be taken off the budget. -/
  left : (plan.backoff.maxAttempts - (made + 1)).toNat + (made + 1).toNat =
    plan.backoff.maxAttempts.toNat
  /-- The power of two for the wait is below the largest word, -/
  power : 2 ^ min (made + 1 - 1).toNat 31 < 4294967295
  /-- and it is the factor that the wait has. -/
  factor : (Backoff.factor (made + 1 - 1)).toNat = 2 ^ min (made + 1 - 1).toNat 31

theorem exact_of_lt {made : UInt32} (below : made < plan.backoff.maxAttempts) :
    plan.Exact made := by
  have hadded := toNat_add_one_of_lt below
  have hle : made + 1 ≤ plan.backoff.maxAttempts := by
    rw [UInt32.le_iff_toNat_le, hadded]
    exact below
  refine ⟨below, hadded, ?_, toNat_sub_add_toNat hle, ?_, Backoff.toNat_factor _⟩
  · rw [UInt32.add_sub_cancel, hadded]
  · exact Nat.lt_of_le_of_lt (Nat.pow_le_pow_right Nat.two_pos (Nat.min_le_right _ _)) (by decide)

/-- The loop of attempts of a request counts in words as it would in numbers. -/
structure Counted {σ : Type} (s : Settings) (t : Transport σ) (r : Request) (m : Moment σ) :
    Prop where
  /-- After any number of rounds it is where the loop in numbers is, with the same record. -/
  same : ∀ n, ((ofSettings s).rounds t r m n).inFigures = (Figures.ofSettings s).rounds t r m n
  /-- Whenever it is at its head, it has counted the rounds, and nothing wraps in the next. -/
  exact : ∀ n made moment record,
    (ofSettings s).rounds t r m n = .head made moment record →
      made.toNat = n ∧ (ofSettings s).Exact made
  /-- It is at its head before each of the calls, of which there are no more than the settings
      allow, and afterwards at its end, with what the run of attempts comes to. -/
  run : let run := (ofSettings s).execute t r m
    ∃ calls, 1 ≤ calls ∧ calls ≤ max 1 s.maxRetries.toNat ∧ calls = (callsOf run.events).length ∧
      (∀ n < calls, ∃ made moment record,
        (ofSettings s).rounds t r m n = .head made moment record) ∧
      ∀ n, calls ≤ n →
        (ofSettings s).rounds t r m n = .ended run.ending run.moment run.events
  /-- Each warning tells of one attempt left at least, and of as many as there are. -/
  warned : let budget := (ofSettings s).backoff.maxAttempts
    ∀ notice ∈ warningsOf ((ofSettings s).execute t r m).events, ∃ setback attempt wait,
      notice = .retrying r.method r.url setback attempt budget wait ∧
        notice.line = "WARN " ++
          retryText r.method r.url setback attempt.toNat budget.toNat wait ∧
        1 ≤ (budget - attempt).toNat ∧ (budget - attempt).toNat + attempt.toNat = budget.toNat

/-- **Counting in words.** For any number of retries that settings may ask for, 0 and the largest
    word among them, any transport and any request: the count of attempts never wraps, and the
    run of attempts is the same as with numbers that have no bound. -/
theorem counting {σ : Type} (s : Settings) (t : Transport σ) (r : Request) (m : Moment σ) :
    Counted s t r m := by
  obtain ⟨last, hends, hrun⟩ := (ofSettings s).execute_eq t r m
  have hbelow := hends.below
  refine ⟨fun n => ?_, fun n made moment record h => ?_, ?_, ?_⟩
  · rw [inFigures_rounds, figures_ofSettings]
  · have hhead := (ofSettings s).below_rounds t r m n
    rw [h] at hhead
    exact ⟨toNat_of_rounds_eq_head h, exact_of_lt hhead⟩
  · rw [budget_ofSettings] at hbelow
    refine ⟨last + 1, Nat.le_add_left 1 last, hbelow, ?_, fun n hn => ?_, fun n hn => ?_⟩
    · rw [hrun, callsOf_eventsThrough, List.length_map, List.length_range]
    · exact ⟨_, _, _, rounds_eq_head hends (Nat.le_of_lt_succ hn)⟩
    · exact rounds_eq_ended hends hn
  · intro budget notice hnotice
    have hsetback := fun k (hk : k < last) => hends.setback?_eq hk
    rw [hrun, warningsOf_eventsThrough _ _ _ _ hsetback] at hnotice
    obtain ⟨k, hk, rfl⟩ := List.mem_map.mp hnotice
    have hk : k + 1 < (ofSettings s).budget := by
      have := List.mem_range.mp hk
      omega
    have hle := ofNat_le_maxAttempts hk
    have hleft := toNat_sub_add_toNat hle
    have hmore : 1 ≤ ((ofSettings s).backoff.maxAttempts - UInt32.ofNat (k + 1)).toNat := by
      have hbudget : (ofSettings s).backoff.maxAttempts.toNat = (ofSettings s).budget := rfl
      rw [toNat_ofNat_of_lt_budget hk] at hleft
      omega
    exact ⟨_, _, _, rfl, line_retrying hle, hmore, hleft⟩

end RetryPlan

end Courier
