/-!
# Settings

What can be chosen for the pipeline of a device.  A proposal holds some of the values, a draft holds
all of them, and settings hold values that are in range.
-/

namespace LineTerminal

/-- The values that are proposed for a pipeline. -/
structure Draft where
  /-- The table of the service-tag stage. -/
  serviceTable : Int := 1
  /-- The priority of the rule that drops untagged traffic beside a wildcard rule. -/
  dropPriority : Int := 500
  /-- The seconds that a group request may stay unconfirmed. -/
  timeToLive : Float := 20
  /-- The seconds between two sweeps of unconfirmed requests. -/
  sweepInterval : Float := 1
  /-- The name of the space of group keys. -/
  keySpace : String := "olt-pipeline"

/-- Some of the values for a pipeline. -/
structure Proposal where
  /-- The table of the service-tag stage. -/
  serviceTable : Option Int := none
  /-- The priority of the rule that drops untagged traffic beside a wildcard rule. -/
  dropPriority : Option Int := none
  /-- The seconds that a group request may stay unconfirmed. -/
  timeToLive : Option Float := none
  /-- The seconds between two sweeps of unconfirmed requests. -/
  sweepInterval : Option Float := none
  /-- The name of the space of group keys. -/
  keySpace : Option String := none

/-- The draft of a proposal: what is left open has its default. -/
def Proposal.draft (p : Proposal) : Draft :=
  let default : Draft := {}
  { serviceTable := p.serviceTable.getD default.serviceTable
    dropPriority := p.dropPriority.getD default.dropPriority
    timeToLive := p.timeToLive.getD default.timeToLive
    sweepInterval := p.sweepInterval.getD default.sweepInterval
    keySpace := p.keySpace.getD default.keySpace }

/-- Values that are in range. -/
structure Settings extends Draft where
  /-- Tables are counted from zero. -/
  serviceTable_nonneg : 0 ≤ serviceTable
  /-- Priorities are counted from zero. -/
  dropPriority_nonneg : 0 ≤ dropPriority
  /-- No request is born dead. -/
  timeToLive_pos : ¬timeToLive ≤ 0
  /-- Time passes between sweeps. -/
  sweepInterval_pos : ¬sweepInterval ≤ 0
  /-- Keys begin with a name. -/
  keySpace_ne_empty : keySpace ≠ ""

/-- Which value of a draft is out of range. -/
inductive Draft.Error where
  | serviceTable
  | dropPriority
  | timeToLive
  | sweepInterval
  | keySpace
deriving DecidableEq

/-- The text of an error. -/
def Draft.Error.message : Draft.Error → String
  | serviceTable => "qq_table must not be negative"
  | dropPriority => "no_action_priority must not be negative"
  | timeToLive => "pending_group_ttl must be positive"
  | sweepInterval => "eviction_interval must be positive"
  | keySpace => "group_key_namespace must not be empty"

/-- The settings of a draft.  Of several values out of range the first is reported. -/
def Draft.check (d : Draft) : Except Draft.Error Settings :=
  if h₁ : 0 ≤ d.serviceTable then
    if h₂ : 0 ≤ d.dropPriority then
      if h₃ : d.timeToLive ≤ 0 then .error .timeToLive
      else if h₄ : d.sweepInterval ≤ 0 then .error .sweepInterval
      else if h₅ : d.keySpace ≠ "" then .ok { d with
        serviceTable_nonneg := h₁
        dropPriority_nonneg := h₂
        timeToLive_pos := h₃
        sweepInterval_pos := h₄
        keySpace_ne_empty := h₅ }
      else .error .keySpace
    else .error .dropPriority
  else .error .serviceTable

/-- The settings of a draft have its values, and settings pass the check themselves. -/
theorem Draft.check_eq_ok_iff {d : Draft} {s : Settings} : d.check = .ok s ↔ s.toDraft = d := by
  constructor
  · intro accepted
    unfold check at accepted
    repeat' split at accepted
    all_goals cases accepted
    rfl
  · rintro rfl
    simp only [check, s.serviceTable_nonneg, s.dropPriority_nonneg, s.timeToLive_pos,
      s.sweepInterval_pos, s.keySpace_ne_empty, ne_eq, not_false_eq_true, dif_pos, dif_neg]

end LineTerminal
