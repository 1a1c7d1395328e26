import LineTerminal.Group

/-!
# Pending group requests

A tracker holds the requests for groups that have not been confirmed yet, at most one for each key,
in the order in which the keys first came in.  It also remembers what became of every request.  The
time can be of any type that has differences and an order.
-/

namespace LineTerminal

/-- What has become of a request. -/
inductive Fate where
  /-- The group has not been confirmed yet. -/
  | pending
  /-- The group was confirmed in time. -/
  | resolved
  /-- The group was not confirmed in time. -/
  | expired
  /-- Another request took the same key. -/
  | superseded
deriving DecidableEq

/-- The name of a fate. -/
def Fate.name : Fate → String
  | pending => "PENDING"
  | resolved => "RESOLVED"
  | expired => "EXPIRED"
  | superseded => "SUPERSEDED"

/-- A request for a group, made for `subject` at a point of time. -/
structure Request (ο τ : Type) where
  /-- The number of requests that were made before. -/
  serial : Nat
  /-- The key of the group. -/
  key : GroupKey
  /-- What the group is requested for. -/
  subject : ο
  /-- The reading of the clock when the request was made. -/
  createdAt : τ

/-- The requests of one pipeline. -/
structure Tracker (ο τ : Type) where
  /-- How long a request may stay unconfirmed. -/
  timeToLive : τ
  /-- The requests that can still be confirmed, in the order of their keys. -/
  live : List (Request ο τ) := []
  /-- All requests ever made, in order, and what became of them. -/
  history : List (Request ο τ × Fate) := []

namespace Tracker
variable {ο τ : Type}

/-- Why there is no tracker. -/
inductive Error where
  | timeToLive
deriving DecidableEq

/-- The text of an error. -/
def Error.message : Error → String
  | timeToLive => "pending group ttl must be positive"

/-- A tracker without requests.  The time to live has to be positive. -/
def ofTimeToLive [OfNat τ 0] [LE τ] [DecidableLE τ] (timeToLive : τ) :
    Except Error (Tracker ο τ) :=
  if timeToLive ≤ 0 then .error .timeToLive else .ok { timeToLive }

/-- The live request for a key. -/
def get? (t : Tracker ο τ) (key : GroupKey) : Option (Request ο τ) :=
  t.live.find? fun r => r.key = key

/-- Whether a key has a live request. -/
def contains (t : Tracker ο τ) (key : GroupKey) : Bool :=
  (t.get? key).isSome

/-- The number of live requests. -/
def size (t : Tracker ο τ) : Nat := t.live.length

/-- Puts a request at the place of the one with the same key, or at the end. -/
def place (r : Request ο τ) : List (Request ο τ) → List (Request ο τ)
  | [] => [r]
  | q :: rest => if q.key = r.key then r :: rest else q :: place r rest

/-- Notes what has become of a request. -/
def settle (t : Tracker ο τ) (r : Request ο τ) (fate : Fate) : Tracker ο τ :=
  { t with history := t.history.map fun (q, old) =>
      (q, if q.serial = r.serial then fate else old) }

/-- Makes a request.  A live request with the same key is superseded. -/
def put (t : Tracker ο τ) (key : GroupKey) (subject : ο) (now : τ) : Tracker ο τ :=
  let r : Request ο τ := ⟨t.history.length, key, subject, now⟩
  let settled := match t.get? key with
    | some previous => t.settle previous .superseded
    | none => t
  { settled with
    live := place r t.live
    history := settled.history ++ [(r, .pending)] }

/-- Takes the request for a key out of the live ones. -/
def erase (t : Tracker ο τ) (key : GroupKey) : Tracker ο τ :=
  { t with live := t.live.filter fun r => r.key ≠ key }

/-- What has become of a request. -/
def fateOf? (t : Tracker ο τ) (r : Request ο τ) : Option Fate :=
  (t.history.find? fun entry => entry.1.serial = r.serial).map (·.2)

variable [Sub τ] [LE τ] [DecidableLE τ]

/-- Whether the time of a request has elapsed. -/
def Due (t : Tracker ο τ) (now : τ) (r : Request ο τ) : Prop :=
  t.timeToLive ≤ now - r.createdAt

instance (t : Tracker ο τ) (now : τ) (r : Request ο τ) : Decidable (t.Due now r) :=
  inferInstanceAs (Decidable (t.timeToLive ≤ now - r.createdAt))

/-- The live requests whose time has elapsed. -/
def due (t : Tracker ο τ) (now : τ) : List (Request ο τ) :=
  t.live.filter fun r => t.Due now r

/-- Lets all requests expire whose time has elapsed. -/
def sweep (t : Tracker ο τ) (now : τ) : Tracker ο τ :=
  let swept := (t.due now).foldl (fun u r => u.settle r .expired) t
  { swept with live := t.live.filter fun r => ¬t.Due now r }

end Tracker
end LineTerminal
