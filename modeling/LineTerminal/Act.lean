import LineTerminal.Document.Number
import LineTerminal.Network
import LineTerminal.Refusal
import LineTerminal.Settings.Basic

/-!
# Acts and faults

What is done in a session changes its state and may end in a fault.
-/

namespace LineTerminal

/-! ### Faults

A refusal is an answer to the application that sent the objective.  A fault is not: the objective
cannot be judged at all, or one of the services that the pipeline relies on has failed.
-/

/-- A failure of something outside the pipeline. -/
inductive Outage where
  /-- The flow rule service did not take a batch. -/
  | flowRules
  /-- The group service did not take a request. -/
  | groups
  /-- The store of group records did not take a record. -/
  | store
  /-- The clock could not be read. -/
  | clock
  /-- The context of an objective failed when it was called. -/
  | context
  /-- An expiry callback failed. -/
  | callback
deriving DecidableEq

/-- The text of an outage. -/
def Outage.message : Outage → String
  | flowRules => "flow rules down"
  | groups => "groups down"
  | store => "store down"
  | clock => "clock broken"
  | context => "context boom"
  | callback => "boom"

/-- Why a call ends without an answer. -/
inductive Fault where
  /-- An operand that has to be a number is not one. -/
  | notNumeric
  /-- A text stands where a number is to be written in hexadecimal. -/
  | textAsHex
  /-- A forwarding objective comes with an unknown operation. -/
  | noOperation
  /-- The destination is no address block. -/
  | unreadableNetwork (e : Network.Unreadable)
  /-- The key of a group is too long for a record. -/
  | recordTooLong
  /-- A stored record cannot be read. -/
  | unreadableRecord (e : GroupRecord.Error)
  /-- An identifier has no key. -/
  | idOutOfRange (id : Value)
  /-- A value is out of range. -/
  | badDraft (e : Draft.Error)
  /-- A device has a pipeline already. -/
  | alreadyRegistered (device : String)
  /-- A device has no pipeline. -/
  | notRegistered (device : String)
  /-- There is no pipeline of that name. -/
  | noPipeline (name : String)
  /-- A request is of no known kind. -/
  | unknownRequest
  /-- A number in a step cannot be read. -/
  | illegible (e : Tree.NumberError)
  /-- A sweeper is asked to wait for the end of its own thread. -/
  | waitsForItself
  /-- A service has failed. -/
  | outage (o : Outage)
deriving DecidableEq

/-- The text of a fault, where it has one. -/
def Fault.message? : Fault → Option String
  | unreadableNetwork e => some e.message
  | unreadableRecord e => some e.message
  | idOutOfRange id => some (KeySpace.Error.idOutOfRange id).message
  | badDraft e => some e.message
  | alreadyRegistered device => some ("pipeliner for device '" ++ device ++ "' already registered")
  | notRegistered device => some ("no pipeliner registered for device '" ++ device ++ "'")
  | noPipeline name => some name
  | waitsForItself => some "cannot join current thread"
  | outage o => some o.message
  | notNumeric | textAsHex | noOperation | recordTooLong | unknownRequest | illegible _ => none

/-! ### Acts

An act changes a state and may end in a fault.  What it did before the fault stays done.
-/

/-- A change of a state of type `σ` that yields a value of type `α` or ends in a fault. -/
abbrev Act (σ α : Type) := ExceptT Fault (StateM σ) α

namespace Act
variable {σ α : Type}

/-- Carries out an act in a state: how it ends, and the state it leaves. -/
def runIn (act : Act σ α) (s : σ) : Except Fault α × σ := act.run.run s

/-- Carries out an act and tells how it ended. -/
def attempt (act : Act σ α) : Act σ (Except Fault α) :=
  ExceptT.mk do
    let outcome ← act.run
    return .ok outcome

/-- Ends in a fault unless there is a value. -/
def orFault (f : Fault) : Option α → Act σ α
  | some a => pure a
  | none => throw f

end Act

end LineTerminal
