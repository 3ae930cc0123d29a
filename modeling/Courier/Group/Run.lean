import Courier.Group.State
import Courier.Text.Quoted

/-!
# Running a group

The run of a group that is fair: members ask for permits in input order, those who can act take
turns in the order in which they came to be able to, and a member goes on until it has to wait for
time or for a permit. Timers that ring at the same moment wake their members in the order in which
they were set. Time passes only when nobody can act.

A turn is no longer than `maxUnits`. To begin it takes one unit, and so does each wait in it that is
over at once, be it for a reply or between calls; a member that needs one more breaks off. It can
act again after the next pause, and the one that broke off last is the first to. There is a pause
after `turnsBetweenPauses` turns, and where nobody else can act.

The run is over when nobody can act, nobody has broken off and no timer is set. Each step ends a
phase of one member or its turn, makes a pause or rings a timer, and a member has no more than four
phases for each attempt and three besides; this bounds the number of steps.
-/

namespace Courier.Group

/-! ## 1. Turns -/

/-- The units of the longest turn. -/
def maxUnits : Nat := 128

/-- The most turns between two pauses. -/
def turnsBetweenPauses : Nat := 61

/-- A group under way, with the members whose turn comes and the timers that are set. -/
structure Schedule (σ : Type) where
  /-- The group. -/
  state : State σ
  /-- The members that can act, the next one at the head. -/
  ready : List Nat
  /-- The members that wait for a time, in the order in which their timers were set. -/
  timers : List (Nat × Nat) := []
  /-- The units that the turn of the next member has taken, none before it begins. -/
  spent : Nat := 0
  /-- The turns since the last pause. -/
  turns : Nat := 0
  /-- The members that broke off their turns since then, the last one at the head. -/
  brokenOff : List Nat := []

namespace Schedule

variable {σ : Type}

/-- A group before its first turn. -/
def start (requests : List Request) (permits : Nat) (m : Moment σ) : Schedule σ where
  state := .start requests permits m
  ready := List.range requests.length

/-- The units that the next step of a member takes. -/
def units (s : Schedule σ) (i : Nat) : Nat :=
  if s.spent = 0 then 1
  else
    match s.state.phase? i with
    | some (.resting ..) => 1
    | some (.calling _ _ reply) => if reply.wait.isSome then 1 else 0
    | _ => 0

/-- The turn of the next member ends, and `rest` can act. -/
def endTurn (s : Schedule σ) (rest : List Nat) : Schedule σ :=
  { s with ready := rest, spent := 0, turns := s.turns + 1 }

/-- The turn of the next member ends before that member wants it to. -/
def breakOff (s : Schedule σ) (i : Nat) (rest : List Nat) : Schedule σ :=
  { s.endTurn rest with brokenOff := i :: s.brokenOff }

/-- The member at the head goes on with its turn. It stays at the head while it need not wait; where
    it has to wait for time it sets a timer; when it has ended, the member that its permit goes to
    joins those who can act. It breaks off where it has no unit left, be it for a wait. -/
def turn (plan : RetryPlan) (t : Transport σ) (s : Schedule σ) (i : Nat) (rest : List Nat) :
    Schedule σ :=
  let spent := s.spent + s.units i
  if maxUnits < spent then s.breakOff i rest
  else
    let state := s.state.act plan t i
    let after := { s with state }
    match state.phase? i with
    | some (.calling _ due _) | some (.resting _ due) =>
      if due ≤ state.moment.now then { after with spent }
      else if spent = maxUnits then after.breakOff i rest
      else { after.endTurn rest with timers := s.timers ++ [(due, i)] }
    | some (.finished ..) => after.endTurn (rest ++ s.state.queue.take 1)
    | _ => after.endTurn rest

/-- The members that broke off can act again. -/
def pause (s : Schedule σ) : Schedule σ :=
  { s with ready := s.ready ++ s.brokenOff, brokenOff := [], turns := 0 }

/-- The time of the timer that rings first. -/
def nextRing? (timers : List (Nat × Nat)) : Option Nat := (timers.map (·.1)).min?

/-- Time passes to a given moment, and the timers set to it ring. -/
def ring (s : Schedule σ) (due : Nat) : Schedule σ where
  state := s.state.atTime due
  ready := (s.timers.filter (·.1 == due)).map (·.2)
  timers := s.timers.filter (·.1 != due)

/-- One step, unless the run is over. -/
def step? (plan : RetryPlan) (t : Transport σ) (s : Schedule σ) : Option (Schedule σ) :=
  match s.ready, s.brokenOff with
  | i :: rest, _ =>
    some (if s.spent = 0 ∧ turnsBetweenPauses ≤ s.turns then s.pause else s.turn plan t i rest)
  | [], _ :: _ => some s.pause
  | [], [] => (nextRing? s.timers).map s.ring

/-- Steps up to the end, at most `fuel` of them. -/
def run (plan : RetryPlan) (t : Transport σ) : (fuel : Nat) → Schedule σ → Schedule σ
  | 0, s => s
  | fuel + 1, s =>
    match s.step? plan t with
    | none => s
    | some s => run plan t fuel s

/-- A number of steps within which a group comes to its end. -/
def bound (plan : RetryPlan) (members : Nat) : Nat :=
  members * (12 * plan.backoff.maxAttempts.toNat + 12)

end Schedule

/-! ## 2. Results -/

/-- The report of a task that ended with a crash; which number the task had is left open. -/
def crashReport (report : String) : String :=
  "task N panicked with message " ++ Text.quoted report

/-- What the ending of a member comes to in the results. -/
def slot (i : Nat) : Ending → Except Failure Response
  | .settled result => result
  | .crashed report => .error (.taskFailed i (crashReport report))

/-- The result of a member; one that has not ended has failed. -/
def result (i : Nat) (member : Member) : Except Failure Response :=
  match member.phase with
  | .finished _ ending => slot i ending
  | _ => .error (.taskFailed i "the task has not ended")

/-- What running a group came to. -/
structure Dispatched (σ : Type) where
  /-- The results, in input order. -/
  results : List (Except Failure Response)
  /-- When the group ended, with the state of the transport then. -/
  moment : Moment σ
  /-- What happened, in order, each with the member it happened to. -/
  events : List (Nat × Event)

/-- Runs a group with a number of permits to its end. -/
def run {σ : Type} (plan : RetryPlan) (t : Transport σ) (requests : List Request) (permits : Nat)
    (m : Moment σ) : Dispatched σ :=
  let s := (Schedule.run plan t (Schedule.bound plan requests.length)
    (.start requests permits m)).state
  { results := s.members.mapIdx result, moment := s.moment, events := s.events }

/-- The largest number of permits there can be. -/
def maxPermits : Nat := 2305843009213693951

/-- The number of permits for a wish: one at least, and none at all where there cannot be so
    many. -/
def permits? (wish : UInt64) : Option Nat :=
  if max 1 wish.toNat ≤ maxPermits then some (max 1 wish.toNat) else none

/-- Runs a group with at most `wish` members side by side, or one where the wish is 0. There is no
    answer where the wish exceeds the largest number of permits. -/
def dispatch? {σ : Type} (plan : RetryPlan) (t : Transport σ) (requests : List Request)
    (wish : UInt64) (m : Moment σ) : Option (Dispatched σ) :=
  (permits? wish).map fun permits => run plan t requests permits m

end Courier.Group
