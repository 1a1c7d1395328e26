import LineTerminal.Binary64
import LineTerminal.Refusal

/-!
# Notices

What the pipeline reports to its operator.
-/

namespace LineTerminal

/-- The kinds of objectives. -/
inductive ObjectiveKind where
  | filtering
  | forwarding
  | next
deriving DecidableEq

/-- The name of a kind of objectives. -/
def ObjectiveKind.name : ObjectiveKind → String
  | filtering => "filtering"
  | forwarding => "forwarding"
  | next => "next"

/-- How grave a notice is. -/
inductive Severity where
  | warning
  | error
deriving DecidableEq

/-- The name of a severity. -/
def Severity.name : Severity → String
  | warning => "WARNING"
  | error => "ERROR"

/-- A notice to the operator, where durations are of type `τ`. -/
inductive Notice (τ : Type) where
  /-- An objective has been refused. -/
  | refused (kind : ObjectiveKind) (device : String) (r : Refusal)
  /-- A next objective comes with an unknown operation. -/
  | unknownOperation
  /-- A batch of so many rules has failed. -/
  | batchFailed (rules : Nat)
  /-- A group has not been confirmed in time. -/
  | unconfirmed (key : GroupKey) (id : Value) (timeToLive : τ)
  /-- The callback that reports an expiry has failed. -/
  | callbackFailed (key : GroupKey)
  /-- A sweep has failed. -/
  | sweepFailed
  /-- The record of a confirmed group could not be stored. -/
  | storeFailed (key : GroupKey) (id : Value)
  /-- A request names a device without a pipeline. -/
  | notRegistered (device : String)

namespace Notice

/-- How grave the notice is. -/
def severity {τ : Type} : Notice τ → Severity
  | callbackFailed _ | sweepFailed | storeFailed _ _ => .error
  | _ => .warning

/-- The text of the notice. -/
def message : Notice Float → String
  | refused kind device r =>
    "Rejected " ++ kind.name ++ " objective on " ++ device ++ ": " ++ r.reason
  | unknownOperation => "Unknown next objective operation: None"
  | batchFailed rules => "flow rule batch of " ++ Numeral.decimal rules ++ " rules failed"
  | unconfirmed key id timeToLive =>
    "group " ++ key.text ++ " for next objective " ++ id.plain ++ " was not confirmed within "
      ++ Binary64.text timeToLive ++ "s"
  | callbackFailed key => "expiry callback failed for group " ++ key.text
  | sweepFailed => "pending group eviction failed"
  | storeFailed key id => "failed to store group " ++ key.text ++ " for next objective " ++ id.plain
  | notRegistered device => "no pipeliner registered for device " ++ device

end Notice
end LineTerminal
