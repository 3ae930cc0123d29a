import Courier.Proofs.Attempts
import Courier.Proofs.Text.Wording

/-!
# What the events of a run tell

The events of a run of attempts, read in four ways: the calls, the answers to them, the waits and
the warnings. Each reading of `RetryPlan.eventsThrough` is a list with one entry for each call, or
for each call but the last (`answersOf_eventsThrough`, `waitsOf_eventsThrough`,
`warningsOf_eventsThrough`). The line of a warning tells the attempt and the budget
(`retryText_inj`).
-/

namespace Courier

/-! ## 1. Readings -/

/-- The call of an event, with what became of it. -/
def Event.answer? : Event → Option (Call × Outcome)
  | .called call outcome => some (call, outcome)
  | _ => none

/-- The calls among events, each with what became of it. -/
def answersOf (events : List Event) : List (Call × Outcome) := events.filterMap Event.answer?

/-- The notices among events that are warnings. -/
def warningsOf (events : List Event) : List Notice :=
  (noticesOf events).filter (·.level = .warn)

theorem callsOf_eq_map_answersOf (events : List Event) :
    callsOf events = (answersOf events).map Prod.fst := by
  rw [callsOf, answersOf, List.map_filterMap]
  congr 1
  funext e
  cases e <;> rfl

theorem answersOf_append (xs ys : List Event) :
    answersOf (xs ++ ys) = answersOf xs ++ answersOf ys := List.filterMap_append

theorem answersOf_noticed (notices : List Notice) : answersOf (notices.map .noticed) = [] := by
  rw [answersOf, List.filterMap_map, List.filterMap_eq_nil_iff]
  exact fun _ _ => rfl

theorem answersOf_append_noticed (es : List Event) (notices : List Notice) :
    answersOf (es ++ notices.map .noticed) = answersOf es := by
  rw [answersOf_append, answersOf_noticed, List.append_nil]

theorem callsOf_append_noticed (es : List Event) (notices : List Notice) :
    callsOf (es ++ notices.map .noticed) = callsOf es := by
  rw [callsOf_eq_map_answersOf, answersOf_append_noticed, callsOf_eq_map_answersOf]

theorem waitsOf_append (xs ys : List Event) : waitsOf (xs ++ ys) = waitsOf xs ++ waitsOf ys :=
  List.filterMap_append

theorem warningsOf_append (xs ys : List Event) :
    warningsOf (xs ++ ys) = warningsOf xs ++ warningsOf ys := by
  rw [warningsOf, noticesOf, List.filterMap_append, List.filter_append]
  rfl

namespace RetryPlan

variable (plan : RetryPlan) (r : Request) (replies : Nat → Reply) (start : Nat)

/-- Call number `k` of a run whose first call begins at `start`. -/
def callAt (k : Nat) : Call :=
  r.call plan.timeout (start + plan.offset replies k) (replies k).latency

/-! ## 2. Calls -/

@[simp] theorem answersOf_callPart (k : Nat) :
    answersOf (plan.callPart r replies start k) =
      [(plan.callAt r replies start k, (replies k).outcome)] := rfl

@[simp] theorem answersOf_gapPart (k : Nat) : answersOf (plan.gapPart r replies start k) = [] := by
  rw [gapPart, answersOf_append]
  cases plan.warning? r k (replies k).outcome <;> rfl

theorem answersOf_eventsBefore (k : Nat) :
    answersOf (plan.eventsBefore r replies start k) =
      (List.range k).map fun j => (plan.callAt r replies start j, (replies j).outcome) := by
  induction k with
  | zero => rfl
  | succ k ih =>
    rw [eventsBefore_succ, eventsThrough, answersOf_append, answersOf_append, answersOf_callPart,
      answersOf_gapPart, ih, List.range_succ, List.map_append, List.append_nil]
    rfl

/-- **Each call is made with the next offset, and its reply is the answer to it.** -/
theorem answersOf_eventsThrough (last : Nat) :
    answersOf (plan.eventsThrough r replies start last) =
      (List.range (last + 1)).map fun k =>
        (plan.callAt r replies start k, (replies k).outcome) := by
  rw [eventsThrough, answersOf_append, answersOf_eventsBefore, answersOf_callPart, List.range_succ,
    List.map_append]
  rfl

theorem callsOf_eventsThrough (last : Nat) :
    callsOf (plan.eventsThrough r replies start last) =
      (List.range (last + 1)).map (plan.callAt r replies start) := by
  rw [callsOf_eq_map_answersOf, answersOf_eventsThrough, List.map_map]
  rfl

/-- A call has its reply before a later call begins. -/
theorem callAt_finish_le {j k : Nat} (h : j < k) :
    (plan.callAt r replies start j).finish ≤ (plan.callAt r replies start k).start := by
  have := plan.offset_add_latency_le replies h
  show start + plan.offset replies j + (replies j).latency ≤ start + plan.offset replies k
  omega

/-! ## 3. Waits -/

@[simp] theorem waitsOf_callPart (k : Nat) : waitsOf (plan.callPart r replies start k) = [] := rfl

@[simp] theorem waitsOf_gapPart (k : Nat) :
    waitsOf (plan.gapPart r replies start k) = [plan.waitAfter k] := by
  rw [gapPart, waitsOf_append]
  cases plan.warning? r k (replies k).outcome <;> rfl

theorem waitsOf_eventsBefore (k : Nat) :
    waitsOf (plan.eventsBefore r replies start k) = (List.range k).map plan.waitAfter := by
  induction k with
  | zero => rfl
  | succ k ih =>
    rw [eventsBefore_succ, eventsThrough, waitsOf_append, waitsOf_append, waitsOf_callPart,
      waitsOf_gapPart, ih, List.range_succ, List.map_append, List.append_nil]
    rfl

/-- **There is one wait between any two calls, and none after the last.** -/
theorem waitsOf_eventsThrough (last : Nat) :
    waitsOf (plan.eventsThrough r replies start last) = (List.range last).map plan.waitAfter := by
  rw [eventsThrough, waitsOf_append, waitsOf_callPart, List.append_nil, waitsOf_eventsBefore]

/-! ## 4. Warnings -/

@[simp] theorem warningsOf_callPart (k : Nat) :
    warningsOf (plan.callPart r replies start k) = [] := rfl

theorem warningsOf_gapPart {k : Nat} {setback : Setback}
    (h : (replies k).outcome.setback? = some setback) :
    warningsOf (plan.gapPart r replies start k) =
      [.retrying r.method r.url setback (UInt32.ofNat (k + 1)) plan.backoff.maxAttempts
        (plan.waitAfter k)] := by
  rw [gapPart, warning?, h]
  rfl

/-- **There is one warning after each call but the last.** -/
theorem warningsOf_eventsThrough {last : Nat} {setbacks : Nat → Setback}
    (h : ∀ k < last, (replies k).outcome.setback? = some (setbacks k)) :
    warningsOf (plan.eventsThrough r replies start last) =
      (List.range last).map fun k =>
        .retrying r.method r.url (setbacks k) (UInt32.ofNat (k + 1)) plan.backoff.maxAttempts
          (plan.waitAfter k) := by
  rw [eventsThrough, warningsOf_append, warningsOf_callPart, List.append_nil]
  induction last with
  | zero => rfl
  | succ k ih =>
    rw [eventsBefore_succ, eventsThrough, warningsOf_append, warningsOf_append, warningsOf_callPart,
      warningsOf_gapPart plan r replies start (h k (Nat.lt_succ_self k)),
      ih fun j hj => h j (Nat.lt_succ_of_lt hj), List.range_succ, List.map_append, List.append_nil]
    rfl

end RetryPlan

/-- An outcome that is worth another attempt is a setback. -/
theorem Outcome.MeritsRetry.setback? {o : Outcome} (h : o.MeritsRetry) :
    ∃ setback, o.setback? = some setback := by
  cases o with
  | answered response => exact ⟨_, rfl⟩
  | failed fault => exact ⟨_, rfl⟩
  | crashed report => exact h.elim

/-! ## 5. The wording of warnings -/

/-- The wording of the warning after attempt number `attempt` of `budget`, counted from 1. -/
def retryText (method : Method) (url : String) (setback : Setback) (attempt budget : Nat)
    (wait : Span) : String :=
  let place := "(attempt " ++ Decimal.text attempt ++ "/" ++ Decimal.text budget ++ ")"
  let outlook := "retrying " ++ Decimal.text (budget - attempt) ++ " more times after " ++ wait.text
  match setback with
  | .status status =>
    method.text ++ " " ++ url ++ " returned " ++ status.text ++ " " ++ place ++ ", " ++ outlook
  | .fault fault =>
    method.text ++ " " ++ url ++ " failed " ++ place ++ ": " ++ fault.message ++ ", " ++ outlook

/-- The number of attempts left is exact: the count is within the budget. -/
theorem line_retrying {method : Method} {url : String} {setback : Setback}
    {attempt budget : UInt32} {wait : Span} (h : attempt ≤ budget) :
    (Notice.retrying method url setback attempt budget wait).line =
      "WARN " ++ retryText method url setback attempt.toNat budget.toNat wait := by
  have left : (budget - attempt).toNat = budget.toNat - attempt.toNat :=
    UInt32.toNat_sub_of_le budget attempt h
  have outlook : Notice.outlook attempt budget wait = "retrying " ++
      Decimal.text (budget.toNat - attempt.toNat) ++ " more times after " ++ wait.text := by
    rw [Notice.outlook, left]
  cases setback with
  | status status =>
    show "WARN" ++ " " ++ (_ ++ Notice.outlook attempt budget wait) = _
    rw [outlook]
    rfl
  | fault fault =>
    show "WARN" ++ " " ++ (_ ++ Notice.outlook attempt budget wait) = _
    rw [outlook]
    rfl

/-- **The wording tells the number of the attempt and the budget.** -/
theorem retryText_inj {method : Method} {url : String} {setback : Setback} {a b a' b' : Nat}
    {wait wait' : Span}
    (h : retryText method url setback a b wait = retryText method url setback a' b' wait') :
    a = a' ∧ b = b' := by
  have place : ∀ {u v : String},
      Decimal.text a ++ ("/" ++ (Decimal.text b ++ (")" ++ u))) =
        Decimal.text a' ++ ("/" ++ (Decimal.text b' ++ (")" ++ v))) → a = a' ∧ b = b' := by
    intro u v h
    obtain ⟨hattempt, hbehind⟩ := Decimal.text_append_inj rfl (by decide) h
    obtain ⟨hbudget, -⟩ := Decimal.text_append_inj rfl (by decide) hbehind
    exact ⟨hattempt, hbudget⟩
  unfold retryText at h
  -- what stands in front of the attempt's number is the same
  cases setback with
  | status status =>
    simp only [String.append_assoc, String.append_right_inj] at h
    exact place h
  | fault fault =>
    simp only [String.append_assoc, String.append_right_inj] at h
    exact place h

end Courier
