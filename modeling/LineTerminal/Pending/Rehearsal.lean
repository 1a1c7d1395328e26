import LineTerminal.Pending.Keeper

/-!
# Rehearsals of a tracker

A tracker on its own, on a clock that is set by hand, driven through a list of steps.  Every request
is made under a tag.
-/

namespace LineTerminal
namespace Rehearsal

/-- Who hears of expired requests. -/
inductive Listener where
  /-- Nobody. -/
  | nobody
  /-- Somebody who keeps count. -/
  | recording
  /-- Somebody who keeps count and then fails. -/
  | failing
deriving DecidableEq

/-- What happens in a rehearsal. -/
inductive Event (τ : Type) where
  /-- The listener has heard of an expired request. -/
  | expired (tag : String) (fate : Fate)
  /-- The sweeper pauses. -/
  | waited (interval : τ)
  /-- A notice. -/
  | logged (notice : Notice τ)

/-- A tracker with its clock and its listener. -/
structure Stage (τ : Type) where
  /-- The tracker. -/
  tracker : Tracker String τ
  /-- The reading of the clock. -/
  time : τ
  /-- Whether the clock cannot be read. -/
  clockBroken : Bool := false
  /-- The listener. -/
  listener : Listener
  /-- What has happened, in order. -/
  events : List (Event τ) := []

/-- One step of a rehearsal. -/
inductive Step (τ : Type) where
  | put (key : GroupKey) (tag : String)
  | resolve (key : GroupKey)
  | get (key : GroupKey)
  | contains (key : GroupKey)
  | expire
  | advance (seconds : τ)
  | clock (broken : Bool)
  | run (rounds : Nat) (advance interval : τ)
  /-- A step with a number that cannot be read. -/
  | illegible (e : Tree.NumberError)

/-- The answer to a step. -/
inductive Answer where
  | done
  | flag (b : Bool)
  | request (r : Option (String × Fate))
  | requests (rs : List (String × Fate))

variable {τ : Type}

/-- Notes an event. -/
def record (e : Event τ) : Act (Stage τ) Unit :=
  modify fun s => { s with events := s.events ++ [e] }

/-- The tag of a request and what has become of it by now. -/
def report (r : Request String τ) : Act (Stage τ) (String × Fate) := do
  return (r.subject, ((← get).tracker.fateOf? r).getD .pending)

/-- How the stage keeps its tracker. -/
def keeper (listener : Listener) : Keeper (Stage τ) String τ where
  tracker := Stage.tracker
  setTracker t s := { s with tracker := t }
  now := do
    let s ← get
    if s.clockBroken then throw (.outage .clock) else return s.time
  identifier _ := .number 0
  onExpired :=
    let hear (r : Request String τ) : Act (Stage τ) Unit := do
      let (tag, fate) ← report r
      record (.expired tag fate)
    match listener with
    | .nobody => none
    | .recording => some hear
    | .failing => some fun r => do
      hear r
      throw (.outage .callback)
  log notice := record (.logged notice)

variable [Add τ] [Sub τ] [LE τ] [DecidableLE τ]

/-- Carries out a step. -/
def perform (step : Step τ) : Act (Stage τ) Answer := do
  let k := keeper (← get).listener
  match step with
  | .put key tag => return .request (← (← k.put key tag).mapM report)
  | .resolve key => return .request (← (← k.resolve key).mapM report)
  | .get key => return .request (← ((← k.current).get? key).mapM report)
  | .contains key => return .flag ((← k.current).contains key)
  | .expire => return .requests (← (← k.expire).mapM report)
  | .advance seconds =>
    modify fun s => { s with time := s.time + seconds }
    return .done
  | .clock broken =>
    modify fun s => { s with clockBroken := broken }
    return .done
  | .run rounds advance interval =>
    let pause : Act (Stage τ) Unit := do
      record (.waited interval)
      modify fun s => { s with time := s.time + advance }
    k.rounds pause rounds
    return .done
  | .illegible e => throw (.illegible e)

/-- What a step comes to. -/
structure Outcome (τ : Type) where
  /-- The answer, or the fault that the step ended in. -/
  answer : Except Fault Answer
  /-- What happened during the step. -/
  events : List (Event τ)
  /-- The number of live requests after it. -/
  size : Nat
  /-- All requests made so far and what has become of them. -/
  history : List (String × Fate)

/-- Carries out steps one after the other.  A step that ends in a fault does not stop the next. -/
def performAll : List (Step τ) → Stage τ → List (Outcome τ)
  | [], _ => []
  | step :: rest, s =>
    let (answer, after) := (perform step).runIn { s with events := [] }
    { answer, events := after.events, size := after.tracker.size
      history := after.tracker.history.map fun (r, fate) => (r.subject, fate) }
      :: performAll rest after

/-- A rehearsal from the start. -/
def rehearse [OfNat τ 0] (timeToLive : τ) (listener : Listener) (steps : List (Step τ)) :
    Except Tracker.Error (List (Outcome τ)) := do
  let tracker ← Tracker.ofTimeToLive timeToLive
  return performAll steps { tracker, time := 0, listener }

end Rehearsal
end LineTerminal
