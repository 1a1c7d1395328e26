import LineTerminal.Act
import LineTerminal.Notice
import LineTerminal.Pending.Tracker

/-!
# Keeping a tracker

A keeper says how a state holds a tracker, how it reads the clock, and who hears of the requests
that expire.  The operations read the clock where its failure can be told from the outside: a new
request and a sweep read it first, a confirmation reads it after the request was taken out.
-/

namespace LineTerminal

/-- How a state of type `σ` keeps a tracker. -/
structure Keeper (σ ο τ : Type) where
  /-- The tracker. -/
  tracker : σ → Tracker ο τ
  /-- Replaces the tracker. -/
  setTracker : Tracker ο τ → σ → σ
  /-- Reads the clock. -/
  now : Act σ τ
  /-- The identifier by which notices call a request. -/
  identifier : ο → Value
  /-- Hears of an expired request. -/
  onExpired : Option (Request ο τ → Act σ Unit)
  /-- Takes a notice. -/
  log : Notice τ → Act σ Unit

namespace Keeper
variable {σ ο τ : Type} (k : Keeper σ ο τ)

/-- The tracker as it stands. -/
def current : Act σ (Tracker ο τ) := do
  return k.tracker (← get)

/-- Changes the tracker. -/
def update (f : Tracker ο τ → Tracker ο τ) : Act σ Unit :=
  modify fun s => k.setTracker (f (k.tracker s)) s

/-- Makes a request for a group.  The answer is the request that it supersedes. -/
def put (key : GroupKey) (subject : ο) : Act σ (Option (Request ο τ)) := do
  let now ← k.now
  let previous := (← k.current).get? key
  k.update fun t => t.put key subject now
  return previous

/-- Tells that a request has expired.  A failure to hear it is noted and goes no further. -/
def announce (r : Request ο τ) : Act σ Unit :=
  match k.onExpired with
  | none => pure ()
  | some hear => do
    k.log (.unconfirmed r.key (k.identifier r.subject) (← k.current).timeToLive)
    match ← (hear r).attempt with
    | .ok _ => pure ()
    | .error _ => k.log (.callbackFailed r.key)

/-- Tells of several requests in turn. -/
def announceAll : List (Request ο τ) → Act σ Unit
  | [] => pure ()
  | r :: rest => do
    k.announce r
    announceAll rest

variable [Sub τ] [LE τ] [DecidableLE τ]

/--
Confirms the group of a key.  The answer is the request for it, unless there is none or its time has
elapsed; in this case it expires.
-/
def resolve (key : GroupKey) : Act σ (Option (Request ο τ)) := do
  match (← k.current).get? key with
  | none => return none
  | some r =>
    k.update fun t => t.erase key
    let now ← k.now
    if (← k.current).Due now r then
      k.update fun t => t.settle r .expired
      k.announce r
      return none
    else
      k.update fun t => t.settle r .resolved
      return some r

/-- Lets all requests expire whose time has elapsed.  The answer lists them. -/
def expire : Act σ (List (Request ο τ)) := do
  let now ← k.now
  let due := (← k.current).due now
  k.update fun t => t.sweep now
  k.announceAll due
  return due

/-- One round of the sweeper: a sweep, whose failure is noted, and a pause. -/
def round (pause : Act σ Unit) : Act σ Unit := do
  match ← k.expire.attempt with
  | .ok _ => pure ()
  | .error _ => k.log .sweepFailed
  pause

/-- So many rounds of the sweeper. -/
def rounds (pause : Act σ Unit) : Nat → Act σ Unit
  | 0 => pure ()
  | n + 1 => do
    k.round pause
    rounds pause n

end Keeper
end LineTerminal
