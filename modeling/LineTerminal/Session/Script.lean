import LineTerminal.Document.Number
import LineTerminal.Group
import LineTerminal.Objective
import LineTerminal.Settings.Basic

/-!
# Scripts

A script is a list of steps that drive a session.  An objective is submitted together with the
reaction of its context, which may carry out further steps when it is called back.
-/

namespace LineTerminal
namespace Session

/-- How the flow rule service answers a batch. -/
inductive FlowMode where
  /-- It reports success. -/
  | succeed
  /-- It reports an error. -/
  | fail
  /-- It reports nothing. -/
  | hold
  /-- It reports success and then an error. -/
  | succeedThenFail
  /-- It reports an error and then success. -/
  | failThenSucceed
  /-- It does not take the batch. -/
  | refuse
deriving DecidableEq

/-- How the group service answers a request. -/
inductive GroupMode where
  /-- It reports nothing of its own. -/
  | hold
  /-- It reports an added group at once. -/
  | sync
  /-- It does not take the request. -/
  | refuse
deriving DecidableEq

/-- An objective of any kind. -/
inductive Objective where
  | filter (o : FilteringObjective)
  | forward (o : ForwardingObjective)
  | next (o : NextObjective)

/-- How a step names a group key. -/
inductive KeyRef where
  /-- The key itself. -/
  | key (k : GroupKey)
  /-- The key that a pipeline uses for a next objective. -/
  | ofId (name : String) (id : Value)

/-- How a step names a record to store. -/
inductive RecordRef where
  /-- Octets, or nothing. -/
  | raw (data : Option Bytes)
  /-- The record of a group. -/
  | group (key : KeyRef)

/-- How a step names a record to read. -/
inductive RecordSource where
  /-- Octets, or nothing. -/
  | raw (data : Option Bytes)
  /-- What is stored for a next objective. -/
  | stored (id : Value)

mutual

/-- How the context of an objective reacts when it is called back. -/
inductive Reaction where
  /-- There is no context. -/
  | silent
  /--
  The context records the call, carries out steps on the first call of each kind, and may then fail.
  -/
  | recording (fails : Bool) (onSuccess onError : List Step)

/-- One step of a session. -/
inductive Step where
  /-- Builds the pipeline of a device under a name. -/
  | build (name device : String) (draft : Draft) (autostart : Bool)
  /-- Builds a registry with a pipeline for each device of a list. -/
  | buildRegistry (devices : List String) (draft : Draft) (autostart : Bool)
  /-- Registers the named pipeline for a device. -/
  | register (device name : String)
  /-- Removes a device from the registry. -/
  | unregister (device : String)
  /-- Looks up the pipeline of a device. -/
  | get (device : String)
  /-- Lists the registered devices. -/
  | devices
  /-- Hands an objective to the pipeline of a device; `none` stands for an unknown request. -/
  | handle (device : String) (objective : Option Objective) (tag : String) (reaction : Reaction)
  /-- Hands an objective to the named pipeline. -/
  | submit (name : String) (objective : Objective) (tag : String) (reaction : Reaction)
  /-- Starts the sweeper of a pipeline. -/
  | start (name : String)
  /-- Stops a pipeline. -/
  | stop (name : String)
  /-- Closes a pipeline, which stops it. -/
  | close (name : String)
  /-- Lets the sweeper of a pipeline make one more round. -/
  | tick (name : String)
  /-- Sweeps a pipeline. -/
  | expire (name : String)
  /-- Sets the clock forward. -/
  | advance (seconds : Float)
  /-- Breaks or mends the clock. -/
  | clock (broken : Bool)
  /-- Lets the group service report an event. -/
  | emit (event : GroupEvent) (device : String) (key : KeyRef)
  /-- Reports the outcome of a batch. -/
  | complete (batch : Int) (success : Bool)
  /-- Looks at a batch. -/
  | batch (batch : Int)
  /-- Sets how the services behave. -/
  | mode (flow : Option FlowMode) (groups : Option GroupMode) (storeFails : Option Bool)
  /-- Stores a record for a next objective. -/
  | putRecord (id : Value) (record : RecordRef)
  /-- Reads the record of a next objective. -/
  | getRecord (id : Value)
  /-- Describes the group behind a record. -/
  | mappings (name : String) (record : RecordSource)
  /-- Installs a group. -/
  | setGroup (device : String) (key : KeyRef) (group : Group)
  /-- Removes a group. -/
  | dropGroup (device : String) (key : KeyRef)
  /-- Tells what a pipeline has been built with. -/
  | info (name : String)
  /-- A step with a number that cannot be read. -/
  | illegible (action : String) (e : Tree.NumberError)

end

mutual

/-- The number of scripts in a reaction. -/
def Reaction.scripts : Reaction → Nat
  | .silent => 0
  | .recording _ onSuccess onError => 2 + scriptsOf onSuccess + scriptsOf onError

/-- The number of scripts in the reactions of a step. -/
def Step.scripts : Step → Nat
  | .handle _ _ _ reaction => reaction.scripts
  | .submit _ _ _ reaction => reaction.scripts
  | _ => 0

/-- The number of scripts in the reactions of a list of steps. -/
def scriptsOf : List Step → Nat
  | [] => 0
  | step :: rest => step.scripts + scriptsOf rest

end

end Session
end LineTerminal
