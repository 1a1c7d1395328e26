import LineTerminal.Session.World

/-!
# Services of a session

What the flow rule service, the group service and the store are asked for and report, and how the
contexts of objectives are told.
-/

namespace LineTerminal
namespace Session

/-! ### Calling contexts back

Every operation of a session takes the way in which the steps of a reaction are carried out, since a
callback may start any step again.
-/

/-- How the steps of a reaction are carried out. -/
abbrev Nested := List Step → Act World Unit

/-- Notes that a script of an objective is started.  The answer is whether it is the first time. -/
def startScript (serial : Nat) (success : Bool) : Act World Bool := do
  let w ← get
  if (serial, success) ∈ w.started then
    return false
  else
    set { w with started := (serial, success) :: w.started }
    return true

/-- Tells the context of an objective how it ended. -/
def callBack (nested : Nested) (ticket : Ticket) (ending : Ending) : Act World Unit :=
  match ticket.reaction with
  | .silent => pure ()
  | .recording fails onSuccess onError => do
    record (.ended ticket ending)
    let first ← startScript ticket.serial (ending = .success)
    if first then
      nested (if ending = .success then onSuccess else onError)
    if fails then
      throw (.outage .context)

/-- A ticket for an objective that is submitted now. -/
def issue (tag : String) (reaction : Reaction) : Act World Ticket := do
  let w ← get
  set { w with tickets := w.tickets + 1 }
  return { serial := w.tickets, tag, reaction }

/-! ### Batches of flow rules

A batch is handed to the flow rule service as a whole.  The first outcome that the service reports
is passed on to the context of the objective; later ones are ignored.  A batch without changes is
not handed over: it has succeeded already.
-/

/-- Notes that the outcome of a batch is passed on.  The answer is the batch, on the first time. -/
def settleBatch? (number : Nat) : Act World (Option SentBatch) := do
  let w ← get
  match w.batches[number]? with
  | none => return none
  | some sent =>
    if sent.settled then
      return none
    else
      set { w with batches := w.batches.set number { sent with settled := true } }
      return some sent

/-- The flow rule service reports the outcome of a batch. -/
def completeBatch (nested : Nested) (number : Nat) (success : Bool) : Act World Unit := do
  match ← settleBatch? number with
  | none => pure ()
  | some sent =>
    if success then
      callBack nested sent.ticket .success
    else
      log (.batchFailed sent.batch.length)
      callBack nested sent.ticket (.failure .flowInstallationFailed)

/-- Hands a batch to the flow rule service. -/
def applyBatch (nested : Nested) (ticket : Ticket) (b : Batch) : Act World Unit := do
  let w ← get
  let number := w.batches.length
  let sent : SentBatch := { batch := b, ticket }
  set { w with batches := w.batches ++ [sent] }
  record (.batch number b)
  match w.flowMode with
  | .succeed => completeBatch nested number true
  | .fail => completeBatch nested number false
  | .hold => pure ()
  | .succeedThenFail =>
    completeBatch nested number true
    completeBatch nested number false
  | .failThenSucceed =>
    completeBatch nested number false
    completeBatch nested number true
  | .refuse => throw (.outage .flowRules)

/-- Submits the changes that an objective comes down to. -/
def submitBatch (nested : Nested) (ticket : Ticket) (b : Batch) : Act World Unit :=
  if b.isEmpty then callBack nested ticket .success else applyBatch nested ticket b

/-! ### Groups and their confirmation

A next objective is only known to be installed when the group service reports its group.  Until then
the request is pending.  An event confirms the request under the key of its group, whatever device
the group belongs to; the record of the group is stored before the success is reported.
-/

/-- The tracker of a pipeline. -/
def trackerOf (i : Nat) (w : World) : Tracker NextTicket Float :=
  match w.pipelines[i]? with
  | some p => p.tracker
  | none => { timeToLive := 1 }

/-- How a session keeps the tracker of a pipeline. -/
def keeper (nested : Nested) (i : Nat) : Keeper World NextTicket Float where
  tracker := trackerOf i
  setTracker t w := { w with pipelines := w.pipelines.modify i fun p => { p with tracker := t } }
  now := readClock
  identifier t := t.id
  onExpired := some fun r => callBack nested r.subject.ticket (.failure .groupInstallationFailed)
  log := log

/-- Stores the record of a confirmed group. -/
def storeRecord (id : Value) (key : GroupKey) : Act World Unit := do
  let fails := (← get).storeFails
  record (.store id key fails)
  if fails then
    throw (.outage .store)
  else
    modify fun w => { w with records := insertPair id (.group key) w.records }

/-- The pipeline with a number hears of a group event. -/
def hear (nested : Nested) (event : GroupEvent) (key : GroupKey) (i : Nat) : Act World Unit := do
  if event.Confirms then
    match ← (keeper nested i).resolve key with
    | none => pure ()
    | some r =>
      match ← (storeRecord r.subject.id key).attempt with
      | .ok _ => callBack nested r.subject.ticket .success
      | .error _ =>
        log (.storeFailed key r.subject.id)
        callBack nested r.subject.ticket (.failure .groupInstallationFailed)

/-- Several pipelines hear of a group event in turn, until one of them fails. -/
def hearAll (nested : Nested) (event : GroupEvent) (key : GroupKey) : List Nat → Act World Unit
  | [] => pure ()
  | i :: rest => do
    hear nested event key i
    hearAll nested event key rest

/-- The group service reports an event to all that listen when it begins to report. -/
def emit (nested : Nested) (event : GroupEvent) (key : GroupKey) : Act World Unit := do
  hearAll nested event key (← get).listeners

/-- The group of a device under a key. -/
def group? (device : String) (key : GroupKey) : Act World (Option Group) := do
  return lookupPair? (device, key) (← get).groups

/-- Asks something of the group service. -/
def requestGroup (nested : Nested) (request : GroupRequest) (device : String) (key : GroupKey)
    (buckets : List Treatment) (app : String) : Act World Unit := do
  record (.group request device key buckets app)
  let w ← get
  if w.groupMode = .refuse then
    throw (.outage .groups)
  if request = .add then
    let added : Group := { id := .number w.nextGroupId, buckets }
    set { w with
      groups := insertPair (device, key) added w.groups
      nextGroupId := w.nextGroupId + 1 }
    if w.groupMode = .sync then
      emit nested .added key

end Session
end LineTerminal
