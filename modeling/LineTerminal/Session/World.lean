import LineTerminal.Notice
import LineTerminal.Pending.Keeper
import LineTerminal.Rule
import LineTerminal.Session.Script

/-!
# The world of a session

The pipelines of a session share a flow rule service, a group service, a store of group records, a
clock and a registry.  Everything that can be seen of them is noted as an event.
-/

namespace LineTerminal
namespace Session

/-- A submitted objective, as it is called back. -/
structure Ticket where
  /-- The number of objectives that were submitted before. -/
  serial : Nat
  /-- The name of the objective in reports. -/
  tag : String
  /-- The reaction of its context. -/
  reaction : Reaction

/-- A next objective that waits for its group. -/
structure NextTicket where
  /-- The objective. -/
  ticket : Ticket
  /-- Its identifier. -/
  id : Value

/-- The pipeline of a device. -/
structure Pipeline where
  /-- The device. -/
  device : String
  /-- What it has been built with. -/
  settings : Settings
  /-- Its unconfirmed group requests. -/
  tracker : Tracker NextTicket Float := { timeToLive := settings.timeToLive }
  /-- Whether it listens to group events. -/
  listening : Bool := false
  /-- Whether it has a sweeper. -/
  sweeping : Bool := false
  /-- Whether its sweeper has been asked to end. -/
  stopping : Bool := false
  /-- How many sweepers it has had. -/
  launches : Nat := 0

namespace Pipeline

/-- What its rules have in common. -/
def layout (p : Pipeline) : Layout :=
  { device := p.device
    serviceTable := p.settings.serviceTable
    dropPriority := p.settings.dropPriority }

/-- Its space of group keys. -/
def keySpace (p : Pipeline) : KeySpace := ⟨p.settings.keySpace, p.settings.keySpace_ne_empty⟩

end Pipeline

/-- A batch that was handed to the flow rule service. -/
structure SentBatch where
  /-- The changes. -/
  batch : Batch
  /-- The objective that they serve. -/
  ticket : Ticket
  /-- Whether its outcome has been passed on. -/
  settled : Bool := false

/-- How an objective ends. -/
inductive Ending where
  | success
  | failure (code : ErrorCode)
deriving DecidableEq

/-- The answer to a step. -/
inductive Answer where
  /-- The step has no answer. -/
  | done
  /-- The sweeper does not run. -/
  | noSweeper
  /-- There is no such batch. -/
  | noBatch
  /-- The name of a pipeline, if it has one. -/
  | name (n : Option String)
  /-- A list of devices. -/
  | devices (ds : List String)
  /-- Requests by the tag of their objective. -/
  | requests (rs : List (String × Fate))
  /-- The rules of a batch, and the numbers of the batches that are equal to it. -/
  | batch (rules : List Rule) (equal : List Nat)
  /-- The octets of a record, if there is one. -/
  | data (d : Option Bytes)
  /-- The lines that describe a group, if there is a record. -/
  | lines (ls : Option (List String))
  /-- A pipeline. -/
  | pipeline (p : Pipeline)

/-- What can be seen of a session. -/
inductive Event where
  /-- A batch was handed to the flow rule service, as the one with this number. -/
  | batch (number : Nat) (b : Batch)
  /-- Something was asked of the group service. -/
  | group (request : GroupRequest) (device : String) (key : GroupKey) (buckets : List Treatment)
    (app : String)
  /-- The record of a group was handed to the store, which took it or failed. -/
  | store (id : Value) (key : GroupKey) (fails : Bool)
  /-- The context of an objective was called back. -/
  | ended (ticket : Ticket) (ending : Ending)
  /-- A step of a reaction has been carried out. -/
  | stepped (step : Step) (answer : Except Fault Answer)
  /-- A sweeper pauses for so many seconds. -/
  | waited (interval : Float)
  /-- A notice. -/
  | logged (notice : Notice Float)

/-- The state of a session. -/
structure World where
  /-- The reading of the clock. -/
  time : Float := 0
  /-- Whether the clock cannot be read. -/
  clockBroken : Bool := false
  /-- How the flow rule service behaves. -/
  flowMode : FlowMode := .succeed
  /-- How the group service behaves. -/
  groupMode : GroupMode := .hold
  /-- Whether the store takes no records. -/
  storeFails : Bool := false
  /-- Whether each sweeper runs in a thread of its own, or its rounds are made when asked for. -/
  threaded : Bool := false
  /-- The sweeper whose thread is at work, if one is: its pipeline, and its number there. -/
  sweeper : Option (Nat × Nat) := none
  /-- The batches that were handed to the flow rule service, in order. -/
  batches : List SentBatch := []
  /-- The installed groups by device and key. -/
  groups : List ((String × GroupKey) × Group) := []
  /-- The identifier of the next group that is added. -/
  nextGroupId : Int := 16
  /-- The pipelines that listen to group events, in order. -/
  listeners : List Nat := []
  /-- The stored records by the identifier of their next objective. -/
  records : List (Value × StoredRecord) := []
  /-- All pipelines ever built, in order. -/
  pipelines : List Pipeline := []
  /-- The names of pipelines. -/
  names : List (String × Nat) := []
  /-- The registered devices, in order. -/
  registry : List (String × Nat) := []
  /-- The number of objectives that were submitted. -/
  tickets : Nat := 0
  /-- The scripts that have been started: of which objective, and whether for its success. -/
  started : List (Nat × Bool) := []
  /-- What has happened, in order. -/
  events : List Event := []

/-- Puts an entry in the place of the one with the same key, or at the end. -/
def insertPair {κ α : Type} [DecidableEq κ] (key : κ) (a : α) : List (κ × α) → List (κ × α)
  | [] => [(key, a)]
  | entry :: rest =>
    if entry.1 = key then (key, a) :: rest else entry :: insertPair key a rest

/-- The entry under a key. -/
def lookupPair? {κ α : Type} [DecidableEq κ] (key : κ) (entries : List (κ × α)) : Option α :=
  (entries.find? fun entry => entry.1 = key).map (·.2)

/-- Removes the entries under a key. -/
def erasePair {κ α : Type} [DecidableEq κ] (key : κ) (entries : List (κ × α)) : List (κ × α) :=
  entries.filter fun entry => entry.1 ≠ key

/-- Notes an event. -/
def record (e : Event) : Act World Unit :=
  modify fun w => { w with events := w.events ++ [e] }

/-- Reports to the operator. -/
def log (n : Notice Float) : Act World Unit := record (.logged n)

/-- Reads the clock. -/
def readClock : Act World Float := do
  let w ← get
  if w.clockBroken then throw (.outage .clock) else return w.time

/-- The number of the pipeline with a name. -/
def named (name : String) : Act World Nat := do
  Act.orFault (.noPipeline name) (lookupPair? name (← get).names)

/-- A name of the pipeline with a number. -/
def nameOf? (w : World) (i : Nat) : Option String :=
  (w.names.find? fun entry => entry.2 = i).map (·.1)

/-- The pipeline with a number. -/
def pipeline (i : Nat) : Act World Pipeline := do
  Act.orFault (.noPipeline "") (← get).pipelines[i]?

/-- Changes the pipeline with a number. -/
def modifyPipeline (i : Nat) (f : Pipeline → Pipeline) : Act World Unit :=
  modify fun w => { w with pipelines := w.pipelines.modify i f }

/-- The octets of a stored record. -/
def dataOf (r : StoredRecord) : Act World (Option Bytes) :=
  Act.orFault .recordTooLong r.data

end Session
end LineTerminal
