import LineTerminal.Selector
import LineTerminal.Treatment

/-!
# Objectives

What an application asks of a line terminal, without saying in which tables and rules: to trap
packets, to forward traffic, or to replicate it to a set of members.
-/

namespace LineTerminal

/-- The failures that are reported for an objective. -/
inductive ErrorCode where
  | badParameters
  | unsupported
  | groupMissing
  | groupInstallationFailed
  | flowInstallationFailed
deriving DecidableEq

/-- The name of a failure. -/
def ErrorCode.name : ErrorCode → String
  | badParameters => "BADPARAMS"
  | unsupported => "UNSUPPORTED"
  | groupMissing => "GROUPMISSING"
  | groupInstallationFailed => "GROUPINSTALLATIONFAILED"
  | flowInstallationFailed => "FLOWINSTALLATIONFAILED"

/-- What is to be done with an objective. -/
inductive Operation where
  | add
  | remove
  | addToExisting
  | removeFromExisting
deriving DecidableEq

/-- Whether a filter lets packets in or keeps them out. -/
inductive FilterMode where
  | permit
  | deny
deriving DecidableEq

/-- How the members of a next objective share the traffic. -/
inductive NextKind where
  | hashed
  | broadcast
  | simple
  | failover
deriving DecidableEq

/-- Traps the packets of a port to the controller. -/
structure FilteringObjective where
  /-- The port criterion. -/
  key : Option Criterion
  /-- Further criteria; of several on one field the first counts. -/
  conditions : List Criterion
  /-- Whether to install or to remove the trap; `none` is not known. -/
  mode : Option FilterMode
  /-- The priority of the rule. -/
  priority : Int
  /-- The application that asks. -/
  app : String
  /-- What is to be done with the packets. -/
  trap : Option Treatment

/-- Forwards traffic between a subscriber and the network. -/
structure ForwardingObjective where
  /-- The traffic. -/
  selector : Selector
  /-- What is to be done with it. -/
  treatment : Treatment
  /-- The priority of the rules. -/
  priority : Int
  /-- The application that asks. -/
  app : String
  /-- What to do with the rules; `none` is not known. -/
  operation : Option Operation
  /-- The next objective that multicast traffic goes to. -/
  nextId : Value

/-- Replicates traffic to the members of a group. -/
structure NextObjective where
  /-- The identifier by which forwarding objectives refer to it. -/
  id : Value
  /-- The kind of replication; `none` is not known. -/
  kind : Option NextKind
  /-- What is done with the copy for each member. -/
  members : List Treatment
  /-- The application that asks. -/
  app : String
  /-- What to do with the group; `none` is not known. -/
  operation : Option Operation

end LineTerminal
