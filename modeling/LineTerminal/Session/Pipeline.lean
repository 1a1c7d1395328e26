import LineTerminal.Rule.Translation
import LineTerminal.Session.Services

/-!
# Pipelines of a session

How pipelines are built, started and stopped, and what they do with objectives.
-/

namespace LineTerminal
namespace Session

/-! ### The life of a pipeline

A pipeline listens to group events from its construction until it is stopped, and again when it is
started.  It has a sweeper from a start until the next stop.  A stop waits for the sweeper to end.
A sweeper that runs in a thread of its own cannot wait for itself, so a stop fails that a reaction
makes in the middle of a round of this sweeper; the pipeline then goes on listening, and it keeps a
sweeper that makes no further rounds.
-/

/-- Listens to group events, unless the pipeline does so already. -/
def listen (i : Nat) : Act World Unit := do
  let p ← pipeline i
  if ¬p.listening then
    modify fun w => { w with listeners := w.listeners ++ [i] }
    modifyPipeline i fun p => { p with listening := true }

/-- One round of the sweeper of a pipeline. -/
def sweepRound (nested : Nested) (i : Nat) : Act World Unit := do
  let p ← pipeline i
  let outer := (← get).sweeper
  modify fun w => { w with sweeper := some (i, p.launches) }
  (keeper nested i).round (record (.waited p.settings.sweepInterval))
  modify fun w => { w with sweeper := outer }

/-- Starts a pipeline.  Its sweeper makes a first round at once, unless there is one already. -/
def start (nested : Nested) (i : Nat) : Act World Unit := do
  listen i
  let p ← pipeline i
  if ¬p.sweeping then
    modifyPipeline i fun p =>
      { p with sweeping := true, stopping := false, launches := p.launches + 1 }
    sweepRound nested i

/-- Whether a call is made from the thread of the sweeper that a pipeline has. -/
def World.InSweeperOf (w : World) (i : Nat) (p : Pipeline) : Prop :=
  p.sweeping = true ∧ w.threaded = true ∧ w.sweeper = some (i, p.launches)

instance (w : World) (i : Nat) (p : Pipeline) : Decidable (w.InSweeperOf i p) :=
  inferInstanceAs (Decidable (_ ∧ _))

/-- Waits for the end of the sweeper of a pipeline, which no sweeper can do for itself. -/
def awaitSweeper (i : Nat) (p : Pipeline) : Act World Unit := do
  if (← get).InSweeperOf i p then
    throw .waitsForItself

/--
Stops a pipeline, after its sweeper has ended.  A sweeper that is in the middle of a round cannot stop
its own pipeline: it is asked to end, but the call fails, and the pipeline goes on listening.
-/
def stop (i : Nat) : Act World Unit := do
  let p ← pipeline i
  modifyPipeline i fun p => { p with stopping := true }
  awaitSweeper i p
  modifyPipeline i fun p => { p with sweeping := false, listening := false }
  if p.listening then
    modify fun w => { w with listeners := w.listeners.erase i }

/-- Lets a running sweeper make one more round. -/
def tick (nested : Nested) (i : Nat) : Act World Answer := do
  let p ← pipeline i
  if p.sweeping ∧ ¬p.stopping then
    sweepRound nested i
    return .done
  else
    return .noSweeper

/-- Builds a pipeline that listens.  The answer is its number. -/
def construct (device : String) (settings : Settings) : Act World Nat := do
  let i := (← get).pipelines.length
  modify fun w => { w with pipelines := w.pipelines ++ [{ device, settings }] }
  listen i
  return i

/-- Builds a pipeline and starts it if asked to. -/
def build (nested : Nested) (device : String) (settings : Settings) (autostart : Bool) :
    Act World Nat := do
  let i ← construct device settings
  if autostart then
    start nested i
  return i

/-! ### Objectives at a pipeline

Filtering and forwarding objectives are compiled to a batch of rules.  A next objective becomes a
group request, which is pending before it is made.  A refusal changes nothing: it is noted, and the
context of the objective is told.
-/

/-- Refuses an objective. -/
def refuse (nested : Nested) (kind : ObjectiveKind) (p : Pipeline) (ticket : Ticket) (r : Refusal) :
    Act World Unit := do
  log (.refused kind p.device r)
  callBack nested ticket (.failure r.code)

/-- A filtering objective at a pipeline. -/
def filter (nested : Nested) (p : Pipeline) (ticket : Ticket) (o : FilteringObjective) :
    Act World Unit :=
  match o.compile p.layout with
  | .ok (change, rules) => submitBatch nested ticket (.ofRules change rules)
  | .error (.refused r) => refuse nested .filtering p ticket r
  | .error (.fault f) => throw f

/-- The group that the record of a next objective leads to. -/
def groupOf (w : World) (p : Pipeline) : Value → Except Rejection Value
  | .absent => .error (.refused .noNextId)
  | id =>
    match lookupPair? id w.records with
    | none => .error (.refused (.noGroupRecord id))
    | some record =>
      match record.data with
      | none => .error (.fault .recordTooLong)
      | some data =>
        match GroupRecord.decode (data.getD []) with
        | .error e => .error (.refused (.unreadableRecord id e))
        | .ok key =>
          match lookupPair? (p.device, key) w.groups with
          | none => .error (.refused (.groupNotInstalled key))
          | some group => .ok group.id

/-- The batch that an operation makes of rules.  Bucket operations change no rules. -/
def batchFor (rules : List Rule) : Option Operation → Except Fault Batch
  | some .add => .ok (.ofRules .add rules)
  | some .remove => .ok (.ofRules .remove rules)
  | some _ => .ok []
  | none => .error .noOperation

/-- A forwarding objective at a pipeline. -/
def forward (nested : Nested) (p : Pipeline) (ticket : Ticket) (o : ForwardingObjective) :
    Act World Unit := do
  match o.compile p.layout (groupOf (← get) p) with
  | .ok rules => do
    let batch ← (batchFor rules o.operation : Except Fault Batch)
    submitBatch nested ticket batch
  | .error (.refused r) => refuse nested .forwarding p ticket r
  | .error (.fault f) => throw f

/-- The key of a next objective, which has to be for broadcast to one member. -/
def keyOfNext (p : Pipeline) (o : NextObjective) : Except Refusal GroupKey :=
  if o.kind ≠ some .broadcast then .error .notBroadcast
  else if o.members.length ≠ 1 then .error .notSingleton
  else match p.keySpace.keyFor? o.id with
    | some key => .ok key
    | none => .error (.idOutOfRange o.id)

/-- A next objective at the pipeline with the number `i`. -/
def next (nested : Nested) (i : Nat) (p : Pipeline) (ticket : Ticket) (o : NextObjective) :
    Act World Unit :=
  match keyOfNext p o with
  | .error r => refuse nested .next p ticket r
  | .ok key => do
    discard ((keeper nested i).put key { ticket, id := o.id })
    match o.operation with
    | some .add => requestGroup nested .add p.device key o.members o.app
    | some .remove => requestGroup nested .remove p.device key [] o.app
    | some .addToExisting =>
      requestGroup nested (.addBuckets key) p.device key o.members o.app
    | some .removeFromExisting =>
      requestGroup nested (.removeBuckets key) p.device key o.members o.app
    | none => log .unknownOperation

/-- An objective of any kind at the pipeline with the number `i`. -/
def submit (nested : Nested) (i : Nat) (ticket : Ticket) (o : Objective) : Act World Unit := do
  let p ← pipeline i
  match o with
  | .filter o => filter nested p ticket o
  | .forward o => forward nested p ticket o
  | .next o => next nested i p ticket o

/-- The identifier of a group in hexadecimal. -/
def hexId : Value → Except Fault String
  | .number n => .ok (Numeral.hex 0 n)
  | .text _ => .error .textAsHex
  | .absent => .error .notNumeric

/-- One line for each bucket of the group that a record leads to. -/
def mappings (p : Pipeline) (record : StoredRecord) : Act World (List String) := do
  let data ← dataOf record
  match GroupRecord.decode (data.getD []) with
  | .error e => throw (.unreadableRecord e)
  | .ok key =>
    match ← group? p.device key with
    | none => return []
    | some group =>
      group.buckets.mapM fun bucket => do
        let id ← (hexId group.id : Except Fault String)
        return "0x" ++ id ++ " -> " ++ bucket.described

end Session
end LineTerminal
