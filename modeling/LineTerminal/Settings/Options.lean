import LineTerminal.Settings.Basic

/-!
# Settings in the options of a controller

A controller keeps options for everything that it runs.  A pipeline declares one for each of its
settings, and its settings are made of the values that the controller has for them.  How options are
kept, set and read is up to a library, which is a parameter.
-/

namespace LineTerminal

/-! ### What a pipeline declares -/

/-- What an option holds. -/
inductive OptionKind where
  /-- A whole number that is not below a least one. -/
  | count (least : Int)
  /-- A floating-point number. -/
  | duration
  /-- A text. -/
  | text
deriving DecidableEq

/-- The values of a kind. -/
def OptionKind.Value : OptionKind → Type
  | count _ => Int
  | duration => Float
  | text => String

/-- The declaration of an option. -/
structure OptionSpec where
  /-- Its name. -/
  name : String
  /-- What it holds. -/
  kind : OptionKind
  /-- What it holds until it is set. -/
  default : kind.Value

namespace OptionSpec

/-- The table of the service-tag stage. -/
def serviceTable : OptionSpec :=
  { name := "olt_qq_table", kind := .count 0, default := Draft.serviceTable {} }

/-- The priority of the rule that drops untagged traffic. -/
def dropPriority : OptionSpec :=
  { name := "olt_no_action_priority", kind := .count 0, default := Draft.dropPriority {} }

/-- The seconds that a group request may stay unconfirmed. -/
def timeToLive : OptionSpec :=
  { name := "olt_pending_group_ttl", kind := .duration, default := Draft.timeToLive {} }

/-- The seconds between two sweeps. -/
def sweepInterval : OptionSpec :=
  { name := "olt_eviction_interval", kind := .duration, default := Draft.sweepInterval {} }

/-- The name of the space of group keys. -/
def keySpace : OptionSpec :=
  { name := "olt_group_key_namespace", kind := .text, default := Draft.keySpace {} }

/-- The options of a pipeline. -/
def pipeline : List OptionSpec :=
  [serviceTable, dropPriority, timeToLive, sweepInterval, keySpace]

end OptionSpec

/-! ### What a library does -/

/-- A value that is set for an option. -/
structure Override where
  /-- The option. -/
  option : OptionSpec
  /-- The value. -/
  value : option.kind.Value

/-- A library that keeps options in controllers. -/
structure OptionLibrary (κ ε : Type) where
  /-- A controller without the options of a pipeline. -/
  fresh : κ
  /-- Declares options to a controller. -/
  register : List OptionSpec → κ → κ
  /-- Sets an option of a controller. -/
  set : Override → κ → Except ε κ
  /-- Reads an option of a controller, which can be set to nothing. -/
  read : (o : OptionSpec) → κ → Except ε (Option o.kind.Value)
  /-- Whether an error is about the value itself, which an option of its kind can hold. -/
  aboutValue : ε → Prop

/-! ### What is made of the values -/

/-- What can be wrong with the options of a controller. -/
inductive OptionError (ε : Type) where
  /-- The library reports an error. -/
  | library (e : ε)
  /-- An option that has to be a number is set to nothing. -/
  | missing
  /-- A value is out of range. -/
  | draft (e : Draft.Error)

section
variable {κ ε : Type}

/-- The values that a controller has for a pipeline. -/
def OptionLibrary.proposal (l : OptionLibrary κ ε) (c : κ) : Except ε Proposal := do
  let serviceTable ← l.read .serviceTable c
  let dropPriority ← l.read .dropPriority c
  let timeToLive ← l.read .timeToLive c
  let sweepInterval ← l.read .sweepInterval c
  let keySpace ← l.read .keySpace c
  return { serviceTable, dropPriority, timeToLive, sweepInterval, keySpace }

/-- A number that has to be there, and must not be out of range. -/
def needed {α : Type} (value : Option α) (out : α → Prop) [DecidablePred out]
    (e : Draft.Error) : Except (OptionError ε) α :=
  match value with
  | none => throw .missing
  | some a => if out a then throw (.draft e) else return a

/--
The settings of a proposal that leaves nothing open.  Its values are checked in turn, so one that is
missing is reported after others that are out of range.  A missing name counts as an empty one.
-/
def Proposal.settings (p : Proposal) : Except (OptionError ε) Settings := do
  let serviceTable ← needed p.serviceTable (· < 0) .serviceTable
  let dropPriority ← needed p.dropPriority (· < 0) .dropPriority
  let timeToLive ← needed p.timeToLive (· ≤ 0) .timeToLive
  let sweepInterval ← needed p.sweepInterval (· ≤ 0) .sweepInterval
  let keySpace := p.keySpace.getD ""
  let draft : Draft := { serviceTable, dropPriority, timeToLive, sweepInterval, keySpace }
  draft.check.mapError .draft

/-- The settings in the options of a controller. -/
def Settings.ofController (l : OptionLibrary κ ε) (c : κ) : Except (OptionError ε) Settings := do
  let p ← (l.proposal c).mapError .library
  p.settings

/-- Sets several options of a controller in turn. -/
def OptionLibrary.setAll (l : OptionLibrary κ ε) (values : List Override) (c : κ) : Except ε κ :=
  values.foldlM (fun c v => l.set v c) c

/-- The settings in a new controller for which some values are set. -/
def Settings.ofOverrides (l : OptionLibrary κ ε) (values : List Override) :
    Except (OptionError ε) Settings := do
  let c ← (l.setAll values (l.register OptionSpec.pipeline l.fresh)).mapError .library
  ofController l c

end

end LineTerminal
