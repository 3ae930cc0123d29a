import Courier.Retry

/-!
# A group of requests under way

The requests of a group are its members. Each runs its own attempts, and all share one transport,
one clock and a number of permits. A member

1. asks for a permit and gets one if one is free, else it queues;
2. makes its calls and waits between them while it holds the permit;
3. gives the permit back when it has ended, by a result or by a crash. A permit given back goes to
   the first member in the queue, or is free if there is none.

`State.act` is the next step of one member. `Step` lets members act in any order, and lets time
pass only when nobody can act; so what holds in every reachable state holds however the steps of
the members interleave.
-/

namespace Courier

/-! ## 1. Members -/

/-- How far a member has come. -/
inductive Phase
  /-- It has not asked for a permit. -/
  | idle
  /-- It waits for a permit. -/
  | queued
  /-- It was handed a permit and has not made a call. -/
  | admitted
  /-- Its call, with `made` calls before it, is under way; the reply is due. -/
  | calling (made : UInt32) (due : Nat) (reply : Reply)
  /-- It rests between calls, with `made` calls behind it, until the next is due. -/
  | resting (made : UInt32) (due : Nat)
  /-- It has ended. -/
  | finished (time : Nat) (ending : Ending)

namespace Phase

/-- When a member acts next, if that is known. -/
def due? : Phase → Option Nat
  | .calling _ due _ => some due
  | .resting _ due => some due
  | _ => none

/-- Whether a member can act at a given time. -/
def isReady (now : Nat) : Phase → Bool
  | .idle | .admitted => true
  | .calling _ due _ | .resting _ due => due ≤ now
  | .queued | .finished .. => false

/-- Whether a member holds a permit. -/
def holdsPermit : Phase → Bool
  | .admitted | .calling .. | .resting .. => true
  | .idle | .queued | .finished .. => false

/-- Whether a member has ended. -/
def isFinished : Phase → Bool
  | .finished .. => true
  | _ => false

end Phase

/-- A request of a group and how far it has come. -/
structure Member where
  /-- The request. -/
  request : Request
  /-- How far it has come. -/
  phase : Phase := .idle

/-! ## 2. States -/

namespace Group

/-- A group under way. -/
structure State (σ : Type) where
  /-- The clock and the transport. -/
  moment : Moment σ
  /-- The members, in input order. -/
  members : List Member
  /-- The number of free permits. -/
  free : Nat
  /-- The members that wait for a permit, the one that asked first at the head. -/
  queue : List Nat
  /-- What happened so far, in order, each with the member it happened to. -/
  events : List (Nat × Event)

namespace State

variable {σ : Type}

/-- A group before its first step. -/
def start (requests : List Request) (permits : Nat) (m : Moment σ) : State σ where
  moment := m
  members := requests.map fun request => { request }
  free := permits
  queue := []
  events := []

/-- How far a member has come. -/
def phase? (s : State σ) (i : Nat) : Option Phase := (s.members[i]?).map Member.phase

/-- Puts a member into a phase. -/
def setPhase (s : State σ) (i : Nat) (phase : Phase) : State σ :=
  { s with members := s.members.modify i fun member => { member with phase } }

/-- Adds events of a member. -/
def record (s : State σ) (i : Nat) (events : List Event) : State σ :=
  { s with events := s.events ++ events.map fun e => (i, e) }

/-- A member makes a call. -/
def call (plan : RetryPlan) (t : Transport σ) (s : State σ) (i : Nat) (r : Request)
    (made : UInt32) : State σ :=
  let answer := t.reply r plan.timeout s.moment.state
  let reply := answer.1
  let s := s.record i (plan.callEvents r s.moment.now reply)
  let s := s.setPhase i (.calling made (s.moment.now + reply.latency) reply)
  { s with moment := { s.moment with state := answer.2 } }

/-- A permit is given back: it goes to the first member in the queue, or is free. -/
def release (s : State σ) : State σ :=
  match s.queue with
  | [] => { s with free := s.free + 1 }
  | j :: rest => { s.setPhase j .admitted with queue := rest }

/-- A member asks for a permit: with it, it makes its first call; without one, it queues. -/
def ask (plan : RetryPlan) (t : Transport σ) (s : State σ) (i : Nat) (r : Request) : State σ :=
  if 0 < s.free then call plan t { s with free := s.free - 1 } i r 0
  else { s.setPhase i .queued with queue := s.queue ++ [i] }

/-- The outcome of a member's call is there: the member ends, or rests before the next call. -/
def settle (plan : RetryPlan) (s : State σ) (i : Nat) (r : Request) (made : UInt32)
    (outcome : Outcome) : State σ :=
  match plan.decide r (made + 1) outcome with
  | .stop ending => (s.setPhase i (.finished s.moment.now ending)).release
  | .again wait notice =>
    (s.record i [.noticed notice, .waited s.moment.now wait]).setPhase i
      (.resting (made + 1) (s.moment.now + wait.restMillis))

/-- The next step of a member; nothing changes where it has none to take now. -/
def act (plan : RetryPlan) (t : Transport σ) (s : State σ) (i : Nat) : State σ :=
  match s.members[i]? with
  | none => s
  | some member =>
    match member.phase with
    | .idle => s.ask plan t i member.request
    | .admitted => s.call plan t i member.request 0
    | .calling made due reply =>
      if due ≤ s.moment.now then s.settle plan i member.request made reply.outcome else s
    | .resting made due =>
      if due ≤ s.moment.now then s.call plan t i member.request made else s
    | .queued | .finished .. => s

/-- Whether a member can act now. -/
def CanAct (s : State σ) (i : Nat) : Prop :=
  ∃ phase, s.phase? i = some phase ∧ phase.isReady s.moment.now = true

/-- The times at which members act next, as far as they are known. -/
def dues (s : State σ) : List Nat := s.members.filterMap fun member => member.phase.due?

/-- The state at a later time. -/
def atTime (s : State σ) (now : Nat) : State σ := { s with moment := { s.moment with now } }

end State

/-! ## 3. Steps -/

/-- One step of a group: a member that can act does so, or, when none can, time passes to the next
    moment at which one is due. -/
inductive Step {σ : Type} (plan : RetryPlan) (t : Transport σ) : State σ → State σ → Prop
  | act (s : State σ) (i : Nat) (h : s.CanAct i) : Step plan t s (s.act plan t i)
  | tick (s : State σ) (due : Nat) (idle : ∀ i, ¬ s.CanAct i) (known : due ∈ s.dues)
      (least : ∀ d ∈ s.dues, due ≤ d) : Step plan t s (s.atTime due)

/-- The states that a group can come to. -/
inductive Reachable {σ : Type} (plan : RetryPlan) (t : Transport σ) (s₀ : State σ) :
    State σ → Prop
  | start : Reachable plan t s₀ s₀
  | step (s s' : State σ) (before : Reachable plan t s₀ s) (h : Step plan t s s') :
      Reachable plan t s₀ s'

end Group

end Courier
