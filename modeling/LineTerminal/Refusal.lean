import LineTerminal.Group
import LineTerminal.Objective
import LineTerminal.Treatment

/-!
# Refusals

Every reason for which an objective is refused, with the failure that is reported for it and the
text that explains it.
-/

namespace LineTerminal

/-- The two directions between a subscriber and the network. -/
inductive Direction where
  | fromSubscriber
  | toSubscriber
deriving DecidableEq

/-- The name of a direction. -/
def Direction.name : Direction → String
  | fromSubscriber => "upstream"
  | toSubscriber => "downstream"

/-- Why an objective is refused. -/
inductive Refusal where
  /-- The trap of a filter has no immediate output. -/
  | noTrapOutput
  /-- The trap of a filter does not lead to the controller. -/
  | trapNotToController
  /-- The key of a filter is no input port. -/
  | keyNotPort
  /-- A filter has no ether type. -/
  | noEtherType
  /-- A filter has an ether type other than EAPOL, LLDP and IPv4. -/
  | etherTypeUnsupported (type : Int)
  /-- An IPv4 filter is neither for IGMP nor for UDP. -/
  | protocolUnsupported
  /-- A UDP filter is not for DHCP. -/
  | portsUnsupported
  /-- It is not known whether a filter permits or denies. -/
  | noFilterMode
  /-- A multicast objective does not name a next objective. -/
  | noNextId
  /-- Nothing is stored for the next objective. -/
  | noGroupRecord (id : Value)
  /-- What is stored for the next objective is no record. -/
  | unreadableRecord (id : Value) (cause : GroupRecord.Error)
  /-- The device has no group under the stored key. -/
  | groupNotInstalled (key : GroupKey)
  /-- A criterion or the output is missing. -/
  | underspecified
  /-- From the subscriber, not just two tags are pushed and set; to it, popped and set just one. -/
  | tagPairs (direction : Direction)
  /-- An objective of the direction has no output. -/
  | noOutput (direction : Direction)
  /-- An objective from the subscriber has no input port. -/
  | noInPort
  /-- There are layer-2 instructions but neither push nor pop. -/
  | unknownVlanOperation
  /-- A next objective is not for broadcast. -/
  | notBroadcast
  /-- A next objective does not have exactly one member. -/
  | notSingleton
  /-- The identifier of a next objective has no key. -/
  | idOutOfRange (id : Value)
deriving DecidableEq

namespace Refusal

/-- The failure that is reported. -/
def code : Refusal → ErrorCode
  | trapNotToController | etherTypeUnsupported _ | protocolUnsupported | portsUnsupported
  | noFilterMode | unknownVlanOperation => .unsupported
  | noGroupRecord _ | unreadableRecord _ _ | groupNotInstalled _ => .groupMissing
  | _ => .badParameters

/-- The explanation. -/
def reason : Refusal → String
  | noTrapOutput => "filter has no output in its meta treatment"
  | trapNotToController => "OLT can only filter packets to the controller"
  | keyNotPort => "filter key must be an input port"
  | noEtherType => "filter has no ethernet type condition"
  | etherTypeUnsupported type =>
    "ethernet type 0x" ++ Numeral.hex 4 type
      ++ " is not supported, only EAPOL, LLDP and IPv4 (IGMP, DHCP)"
  | protocolUnsupported => "OLT can only filter IGMP and DHCP"
  | portsUnsupported => "OLT can only filter DHCP, wrong UDP ports"
  | noFilterMode => "unknown filter type None"
  | noNextId => "multicast objective does not have a next id"
  | noGroupRecord id => "no group for next id " ++ id.plain
  | unreadableRecord id cause =>
    "unreadable group record for next id " ++ id.plain ++ ": " ++ cause.message
  | groupNotInstalled key => "group " ++ key.text ++ " is not installed"
  | underspecified => "forwarding objective is underspecified"
  | tagPairs .fromSubscriber => "upstream forwarding needs an inner and an outer vlan push/set pair"
  | tagPairs .toSubscriber => "downstream forwarding needs exactly one vlan pop/set pair"
  | noOutput direction => "OLT " ++ direction.name ++ " rule has no output"
  | noInPort => "upstream forwarding has no input port"
  | unknownVlanOperation => "unknown OLT operation"
  | notBroadcast => "OLT only supports broadcast groups"
  | notSingleton => "OLT only supports singleton broadcast groups"
  | idOutOfRange id => (KeySpace.Error.idOutOfRange id).message

/-- The failure and the explanation. -/
def message (r : Refusal) : String := r.code.name ++ ": " ++ r.reason

end Refusal
end LineTerminal
