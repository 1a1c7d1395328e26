import LineTerminal.Session.Pipeline

/-!
# Running a session

A step is carried out with a bound on the depth of reactions within reactions.  Since every script
is started at most once, the number of scripts in a session bounds their depth.
-/

namespace LineTerminal
namespace Session

/-- The key that a step names. -/
def keyOf : KeyRef → Act World GroupKey
  | .key k => pure k
  | .ofId name id => do
    let p ← pipeline (← named name)
    Act.orFault (.idOutOfRange id) (p.keySpace.keyFor? id)

/-- The settings of a draft. -/
def settingsOf (d : Draft) : Act World Settings :=
  match d.check with
  | .ok s => pure s
  | .error e => throw (.badDraft e)

/-- Builds a pipeline for each device of a list.  A device must not occur twice. -/
def buildAll (nested : Nested) (settings : Settings) (autostart : Bool) :
    List String → List (String × Nat) → Act World (List (String × Nat))
  | [], built => pure built
  | device :: rest, built => do
    let i ← build nested device settings autostart
    if built.any fun entry => entry.1 = device then
      throw (.alreadyRegistered device)
    buildAll nested settings autostart rest (built ++ [(device, i)])

/-- The pipeline of a registered device. -/
def registered (device : String) : Act World Nat := do
  match lookupPair? device (← get).registry with
  | some i => return i
  | none =>
    log (.notRegistered device)
    throw (.notRegistered device)

/-- Looks at a batch. -/
def inspectBatch (w : World) (number : Int) : Answer :=
  match if 0 ≤ number then w.batches[number.toNat]? else none with
  | none => .noBatch
  | some sent =>
    .batch sent.batch.rules <|
      (List.range w.batches.length).filter fun i =>
        match w.batches[i]? with
        | some other => other.batch = sent.batch
        | none => false

/-- The requests by the tag of their objective, and what has become of them. -/
def reportRequests (i : Nat) (rs : List (Request NextTicket Float)) :
    Act World (List (String × Fate)) := do
  let tracker := trackerOf i (← get)
  return rs.map fun r => (r.subject.ticket.tag, (tracker.fateOf? r).getD .pending)

/-- Carries out one step. -/
def perform (nested : Nested) : Step → Act World Answer
  | .build name device draft autostart => do
    let settings ← settingsOf draft
    let i ← build nested device settings autostart
    modify fun w => { w with names := insertPair name i w.names }
    return .done
  | .buildRegistry devices draft autostart => do
    let settings ← settingsOf draft
    let built ← buildAll nested settings autostart devices []
    modify fun w => { w with registry := built, names := built }
    return .done
  | .register device name => do
    let i ← named name
    if (lookupPair? device (← get).registry).isSome then
      throw (.alreadyRegistered device)
    modify fun w => { w with registry := w.registry ++ [(device, i)] }
    return .done
  | .unregister device => do
    let w ← get
    set { w with registry := erasePair device w.registry }
    return .name ((lookupPair? device w.registry).bind (nameOf? w))
  | .get device => do
    let w ← get
    return .name ((lookupPair? device w.registry).bind (nameOf? w))
  | .devices => return .devices ((← get).registry.map (·.1))
  | .handle _ none _ _ => throw .unknownRequest
  | .handle device (some o) tag reaction => do
    let ticket ← issue tag reaction
    submit nested (← registered device) ticket o
    return .done
  | .submit name o tag reaction => do
    let i ← named name
    let ticket ← issue tag reaction
    submit nested i ticket o
    return .done
  | .start name => do
    start nested (← named name)
    return .done
  | .stop name | .close name => do
    stop (← named name)
    return .done
  | .tick name => do tick nested (← named name)
  | .expire name => do
    let i ← named name
    let expired ← (keeper nested i).expire
    return .requests (← reportRequests i expired)
  | .advance seconds => do
    modify fun w => { w with time := w.time + seconds }
    return .done
  | .clock broken => do
    modify fun w => { w with clockBroken := broken }
    return .done
  | .emit event _ key => do
    emit nested event (← keyOf key)
    return .done
  | .complete number success => do
    if 0 ≤ number ∧ number < (← get).batches.length then
      completeBatch nested number.toNat success
      return .done
    else
      return .noBatch
  | .batch number => return inspectBatch (← get) number
  | .mode flow groups storeFails => do
    modify fun w => { w with
      flowMode := flow.getD w.flowMode
      groupMode := groups.getD w.groupMode
      storeFails := storeFails.getD w.storeFails }
    return .done
  | .putRecord id ref => do
    let stored ← match ref with
      | .raw data => pure (StoredRecord.raw data)
      | .group key => .group <$> keyOf key
    modify fun w => { w with records := insertPair id stored w.records }
    return .done
  | .getRecord id => do
    match lookupPair? id (← get).records with
    | none => return .data none
    | some stored => return .data (← dataOf stored)
  | .mappings name source => do
    let w ← get
    let stored := match source with
      | .raw data => some (StoredRecord.raw data)
      | .stored id => lookupPair? id w.records
    match stored with
    | none => return .lines none
    | some record =>
      let p ← pipeline (← named name)
      return .lines (some (← mappings p record))
  | .setGroup device key group => do
    let k ← keyOf key
    modify fun w => { w with groups := insertPair (device, k) group w.groups }
    return .done
  | .dropGroup device key => do
    let k ← keyOf key
    modify fun w => { w with groups := erasePair (device, k) w.groups }
    return .done
  | .info name => do return .pipeline (← pipeline (← named name))
  | .illegible _ e => throw (.illegible e)

/-- Carries out steps in turn and notes how each of them ended. -/
def performEach (nested : Nested) : List Step → Act World Unit
  | [] => pure ()
  | step :: rest => do
    let answer ← (perform nested step).attempt
    record (.stepped step answer)
    performEach nested rest

/-- Carries out the steps of a reaction, with reactions within it up to a depth. -/
def reactTo : Nat → Nested
  | 0 => fun _ => pure ()
  | depth + 1 => performEach (reactTo depth)

/-- What a step comes to. -/
structure Outcome where
  /-- The answer, or the fault that the step ended in. -/
  answer : Except Fault Answer
  /-- What happened during the step. -/
  events : List Event
  /-- The state after the step. -/
  after : World

/-- Carries out a step of the session itself. -/
def runStep (depth : Nat) (step : Step) (w : World) : Outcome :=
  let (answer, after) := (perform (reactTo depth) step).runIn w
  { answer, events := after.events.drop w.events.length, after }

/-- Carries out steps in turn.  A step that ends in a fault does not stop the next. -/
def runSteps (depth : Nat) : List Step → World → List Outcome
  | [], _ => []
  | step :: rest, w =>
    let outcome := runStep depth step w
    outcome :: runSteps depth rest outcome.after

/--
Runs a session from its start.  It may open with the pipeline `p` of a device already built; if that
fails there is no session.
-/
def run (opening : Option (String × Draft)) (steps : List Step) : Except Fault (List Outcome) := do
  let depth := scriptsOf steps + 1
  match opening with
  | none => return runSteps depth steps {}
  | some (device, draft) =>
    let opened := runStep depth (.build "p" device draft false) {}
    let _ ← opened.answer
    return runSteps depth steps opened.after

end Session
end LineTerminal
