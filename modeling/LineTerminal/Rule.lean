import LineTerminal.Act
import LineTerminal.Selector
import LineTerminal.Treatment

/-!
# Flow rules and batches

A rule sits in one table of one device.  A batch lists changes of rules that take effect together.
-/

namespace LineTerminal

/-- A flow rule of a device. -/
structure Rule where
  /-- The device that holds the rule. -/
  device : String
  /-- The application that asked for it. -/
  app : String
  /-- The table it sits in. -/
  table : Int
  /-- Rules of higher priority win. -/
  priority : Int
  /-- The packets it applies to. -/
  selector : Selector
  /-- What is done with them. -/
  treatment : Treatment
  /-- A permanent rule stays until it is removed. -/
  permanent : Bool := true
deriving DecidableEq

/-- The two changes that a rule can undergo. -/
inductive Change where
  | add
  | remove
deriving DecidableEq

/-- The changes of one batch, in order. -/
abbrev Batch := List (Change × Rule)

/-- The rules that a batch speaks of. -/
def Batch.rules (b : Batch) : List Rule := b.map (·.2)

/-- The batch that makes one change to every rule of a list. -/
def Batch.ofRules (change : Change) (rules : List Rule) : Batch :=
  rules.map fun r => (change, r)

/-! ### The layout of the rules of a device

The pipeline of a device has two stages that rules are written for.  Table 0 classifies packets and
handles the customer tag; the service-tag table pushes the service tag on packets from the
subscriber, and hands over packets to the subscriber.  An objective comes down to the rules of one
batch, or is refused, or ends in a fault.
-/

/-- Why an objective comes down to no rules. -/
inductive Rejection where
  /-- The objective is refused. -/
  | refused (r : Refusal)
  /-- The objective cannot be judged. -/
  | fault (f : Fault)
deriving DecidableEq

/-- What the rules of a device have in common. -/
structure Layout where
  /-- The device. -/
  device : String
  /-- The table of the service-tag stage. -/
  serviceTable : Int := 1
  /-- The priority of the rule that drops untagged traffic beside a wildcard rule. -/
  dropPriority : Int := 500

namespace Layout

/-- The instruction that leads to the service-tag stage. -/
def toService (l : Layout) : Instruction :=
  .transition (.number l.serviceTable)

/-- A rule of table 0. -/
def classifying (l : Layout) (app : String) (priority : Int) (selector : Selector)
    (treatment : Treatment) : Rule :=
  { device := l.device, app, table := 0, priority, selector, treatment }

/-- A rule of the service-tag stage. -/
def serving (l : Layout) (app : String) (priority : Int) (selector : Selector)
    (treatment : Treatment) : Rule :=
  { device := l.device, app, table := l.serviceTable, priority, selector, treatment }

end Layout

/-- The value of an option, or a refusal. -/
def orRefuse {α : Type} (r : Refusal) : Option α → Except Rejection α
  | some a => .ok a
  | none => .error (.refused r)

/-- Refuses unless a condition holds. -/
def require (condition : Prop) [Decidable condition] (r : Refusal) : Except Rejection Unit :=
  if condition then .ok () else .error (.refused r)

end LineTerminal
