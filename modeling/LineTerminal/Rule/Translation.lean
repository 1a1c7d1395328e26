import LineTerminal.Rule
import LineTerminal.Value

/-!
# Rules for objectives

What a filtering objective comes down to, and a forwarding objective in either direction.
-/

namespace LineTerminal

/-! ### Filtering objectives

A filter traps the packets of one port to the controller.  Port authentication, link discovery, IGMP
and DHCP can be trapped.  The rule matches the port and the recognised conditions and nothing else.
-/

namespace FilteringObjective

/-- The output of the trap, which has to lead to the controller. -/
def trapOutput (o : FilteringObjective) : Except Rejection Instruction := do
  let output ← orRefuse .noTrapOutput (o.trap.bind Treatment.immediateOutput?)
  require (output.value = .number WellKnown.controllerPort) .trapNotToController
  return output

/-- The key, which has to be an input port. -/
def portKey (o : FilteringObjective) : Except Rejection Criterion :=
  match o.key with
  | some key => if key.field = .inPort then .ok key else .error (.refused .keyNotPort)
  | none => .error (.refused .keyNotPort)

/-- The refusal of an ether type.  Only a number can be written into it. -/
def etherTypeRejection : Value → Rejection
  | .number type => .refused (.etherTypeUnsupported type)
  | .text _ => .fault .textAsHex
  | .absent => .fault .notNumeric

/-- The criteria beside the port that an IPv4 filter matches: IGMP, or UDP between DHCP ports. -/
def ipv4Criteria (o : FilteringObjective) : Except Rejection (List Criterion) := do
  let protocol ← orRefuse .protocolUnsupported (Criterion.find? o.conditions .ipProtocol)
  if protocol.value = .number WellKnown.protocolIgmp then
    return [protocol]
  else if protocol.value = .number WellKnown.protocolUdp then
    let source ← orRefuse .portsUnsupported (Criterion.find? o.conditions .udpSource)
    let destination ← orRefuse .portsUnsupported (Criterion.find? o.conditions .udpDestination)
    require (source.value = .number WellKnown.dhcpClientPort
      ∧ destination.value = .number WellKnown.dhcpServerPort) .portsUnsupported
    return [protocol, source, destination]
  else
    throw (.refused .protocolUnsupported)

/-- The packets that the filter traps. -/
def trapSelector (o : FilteringObjective) : Except Rejection Selector := do
  let key ← o.portKey
  let etherType ← orRefuse .noEtherType (Criterion.find? o.conditions .etherType)
  if etherType.value = .number WellKnown.etherEapol
      ∨ etherType.value = .number WellKnown.etherLldp then
    return .ofList [key, etherType]
  else if etherType.value = .number WellKnown.etherIpv4 then
    return .ofList (key :: etherType :: (← o.ipv4Criteria))
  else
    throw (etherTypeRejection etherType.value)

/-- A permitting filter installs its trap, a denying one removes it. -/
def change (o : FilteringObjective) : Except Rejection Change :=
  match o.mode with
  | some .permit => .ok .add
  | some .deny => .ok .remove
  | none => .error (.refused .noFilterMode)

/-- The change and the rules that a filter comes down to on a device. -/
def compile (o : FilteringObjective) (l : Layout) : Except Rejection (Change × List Rule) := do
  let output ← o.trapOutput
  let selector ← o.trapSelector
  let change ← o.change
  return (change, [l.classifying o.app o.priority selector (.ofOptions [some output])])

end FilteringObjective

namespace ForwardingObjective

/-! ### Traffic from the subscriber

A subscriber's packets leave with two tags.  Table 0 gives them their customer tag: it is pushed on
untagged packets and replaced on tagged ones.  The service-tag stage matches the customer tag and
adds the service tag.  A subscriber may also send any tag, which is then kept.
-/

/-- The two stages when the customer tag is fixed. -/
def fromSubscriberFixed (o : ForwardingObjective) (l : Layout) (output : Instruction)
    (inPort : Criterion) (inner outer : Instruction × Instruction) : List Rule :=
  let push := if o.selector.matchesUntagged then some inner.1 else none
  [ l.classifying o.app o.priority o.selector
      (.ofOptions [push, some inner.2, some l.toService]),
    l.serving o.app o.priority (.ofList [inPort, .vlan inner.2.value])
      (.ofOptions [some outer.1, some outer.2, o.treatment.meter?, o.treatment.transition?]
        (some output)) ]

/-- The two stages when any customer tag is kept, and the rule that drops untagged packets. -/
def fromSubscriberAny (o : ForwardingObjective) (l : Layout) (output : Instruction)
    (inPort : Criterion) (outerSet : Instruction) : List Rule :=
  [ l.classifying o.app o.priority o.selector (.ofOptions [some l.toService]),
    l.classifying o.app l.dropPriority (.ofList [inPort]) .empty,
    l.serving o.app o.priority o.selector
      (.ofOptions [some (.pushVlan (.number WellKnown.etherServiceVlan)), some outerSet,
        o.treatment.meter?, o.treatment.transition?] (some output)) ]

/-- The rules for traffic from the subscriber. -/
def fromSubscriber (o : ForwardingObjective) (l : Layout) : Except Rejection (List Rule) :=
  match Instruction.vlanPairs .push o.treatment.all with
  | [inner, outer] => do
    let output ← orRefuse (.noOutput .fromSubscriber) o.treatment.output?
    let inPort ← orRefuse .noInPort (o.selector.get? .inPort)
    if o.selector.matchesAnyVlan then
      return o.fromSubscriberAny l output inPort outer.2
    else
      return o.fromSubscriberFixed l output inPort inner outer
  | _ => .error (.refused (.tagPairs .fromSubscriber))

/-! ### Traffic to the subscriber

A packet from the network arrives with its two tags, and with metadata that name the client and the
port.  Table 0 matches all of them and pops the service tag; the service-tag stage matches the
customer tag, pops or replaces it, and sends the packet to the client.  When the client takes any
tag, the customer tag is left alone and the pop of the service tag is deferred.
-/

/-- The service-tag stage and table 0 when the customer tag is fixed. -/
def toSubscriberFixed (o : ForwardingObjective) (l : Layout) (output : Instruction)
    (outerSelector : Selector) (inPort : Criterion) (innerVlan : Value)
    (pair : Instruction × Instruction) : List Rule :=
  let retag := if pair.2.value = .number WellKnown.vlanNone then none else some pair.2
  [ l.serving o.app o.priority (.ofList [inPort, .vlan innerVlan])
      (.ofOptions [some pair.1, retag, o.treatment.meter?, o.treatment.transition?]
        (some output)),
    l.classifying o.app o.priority outerSelector (.ofOptions [some pair.1, some l.toService]) ]

/-- The service-tag stage and table 0 when the client takes any customer tag. -/
def toSubscriberAny (o : ForwardingObjective) (l : Layout) (output : Instruction)
    (outerSelector : Selector) (inPort : Criterion) : List Rule :=
  [ l.serving o.app o.priority (.ofList [inPort, .vlan (.number WellKnown.vlanAny)])
      (.ofOptions [o.treatment.meter?, o.treatment.transition?] (some output)),
    l.classifying o.app o.priority outerSelector
      (.ofOptions [some l.toService] (some .popVlan)) ]

/-- The rules for traffic to the subscriber. -/
def toSubscriber (o : ForwardingObjective) (l : Layout) : Except Rejection (List Rule) := do
  let output ← orRefuse (.noOutput .toSubscriber) o.treatment.output?
  let outerVlan ← orRefuse .underspecified (o.selector.get? .vlan)
  let innerVlan ← orRefuse .underspecified (o.selector.get? .innerVlan)
  let inPort ← orRefuse .underspecified (o.selector.get? .inPort)
  let some word := Metadata.pack? innerVlan.value output.value
    | throw (.fault .notNumeric)
  let outerSelector := .ofList [inPort, outerVlan, .metadata (.number word)]
  if innerVlan.value = .number WellKnown.vlanAny then
    return o.toSubscriberAny l output outerSelector inPort
  else
    match Instruction.vlanPairs .pop o.treatment.all with
    | [pair] => return o.toSubscriberFixed l output outerSelector inPort innerVlan.value pair
    | _ => throw (.refused (.tagPairs .toSubscriber))

/-! ### Traffic whose tags are kept

Traffic without VLAN operations is matched in table 0 by its port, its outer tag and, as metadata,
its inner tag.  Multicast traffic is handed to a group there.
-/

/-- The rule for traffic that passes with both its tags. -/
def passthrough (o : ForwardingObjective) (l : Layout) : Except Rejection (List Rule) := do
  let output ← orRefuse .underspecified o.treatment.output?
  let inPort ← orRefuse .underspecified (o.selector.get? .inPort)
  let outerVlan ← orRefuse .underspecified (o.selector.get? .vlan)
  let innerVlan ← orRefuse .underspecified (o.selector.get? .innerVlan)
  return [l.classifying o.app o.priority
    (.ofList [inPort, outerVlan, .metadata innerVlan.value]) (.ofOptions [some output])]

/-- The rule for multicast traffic, which goes to a group. -/
def multicast (o : ForwardingObjective) (l : Layout) (group : Value) : List Rule :=
  [l.classifying o.app o.priority o.selector (.ofOptions [some (.group group)])]

/-! ### Forwarding objectives

Multicast traffic goes to its group.  Of other traffic the first push or pop of a tag tells the
direction; traffic without layer-2 instructions passes with its tags.
-/

/-- The rules for traffic that is not multicast. -/
def unicast (o : ForwardingObjective) (l : Layout) : Except Rejection (List Rule) :=
  match o.treatment.pushOrPop? with
  | some .push => o.fromSubscriber l
  | some _ => o.toSubscriber l
  | none =>
    if o.treatment.all.any (·.action = .layer2) then
      .error (.refused .unknownVlanOperation)
    else
      o.passthrough l

/--
The rules of a forwarding objective on a device.  The group of a multicast objective is looked up
with `groupOf`.
-/
def compile (o : ForwardingObjective) (l : Layout)
    (groupOf : Value → Except Rejection Value) : Except Rejection (List Rule) := do
  match o.selector.isMulticast with
  | .error e => throw (.fault (.unreadableNetwork e))
  | .ok true => return o.multicast l (← groupOf o.nextId)
  | .ok false => o.unicast l

end ForwardingObjective
end LineTerminal
