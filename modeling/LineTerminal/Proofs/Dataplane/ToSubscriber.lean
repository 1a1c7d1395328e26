import LineTerminal.Proofs.Dataplane.Packet
import LineTerminal.Proofs.Translation

/-!
# What becomes of packets to the subscriber

The rules for traffic to the subscriber are run on packets until they leave.  The
service tag is popped once in either form: at once in table 0 when the customer
tag is fixed, and as the packet leaves when the client takes any customer tag.
-/

namespace LineTerminal
namespace ForwardingObjective

/-- The criteria and the output of an objective to the subscriber, as numbers. -/
structure Asks (o : ForwardingObjective) (port outer inner sink : Int) (output : Instruction) :
    Prop where
  /-- The port that packets come in on. -/
  inPort : o.selector.get? .inPort = some (.inPort (.number port))
  /-- The service tag. -/
  outerVlan : o.selector.get? .vlan = some (.vlan (.number outer))
  /-- The customer tag. -/
  innerVlan : o.selector.get? .innerVlan = some (.innerVlan (.number inner))
  /-- The first output. -/
  first : o.treatment.output? = some output
  /-- The port of the first output. -/
  sink : output.value = .number sink

namespace Asks
variable {o : ForwardingObjective} {l : Layout} {port outer inner sink : Int}
  {output : Instruction}

/-- What table 0 matches: the port, the service tag, and the client in the
metadata. -/
def selector (port outer inner sink : Int) : Selector :=
  .ofList [.inPort (.number port), .vlan (.number outer),
    .metadata (.number (Metadata.pack inner sink))]

/-- Table 0 lets in packets with the right port, service tag and metadata. -/
theorem matchedBy_selector (p : Packet) :
    p.matchedBy (selector port outer inner sink) =
      (decide (p.inPort = port) && (decide (p.metadata = Metadata.pack inner sink) &&
        p.hasVlan outer)) := by
  have listed : (selector port outer inner sink).toList =
      [.inPort (.number port), .metadata (.number (Metadata.pack inner sink)),
        .vlan (.number outer)] := rfl
  simp [Packet.matchedBy, listed]

/-- What an accepted objective comes down to, whether or not the client takes any tag. -/
theorem rules_eq
    {rules : List Rule}
    (asks : Asks o port outer inner sink output)
    (accepted : o.toSubscriber l = .ok rules) :
    inner = WellKnown.vlanAny ∧
        rules = o.toSubscriberAny l output (selector port outer inner sink)
          (.inPort (.number port)) ∨
      inner ≠ WellKnown.vlanAny ∧
        ∃ pair, Instruction.vlanPairs .pop o.treatment.all = [pair] ∧
          rules = o.toSubscriberFixed l output (selector port outer inner sink)
            (.inPort (.number port)) (.number inner) pair := by
  obtain ⟨output', outerVlan, innerVlan, inPort, word, sends, outerFound, innerFound, portFound,
    packed, rest⟩ := toSubscriber_eq_ok_iff.1 accepted
  cases sends.symm.trans asks.first
  cases outerFound.symm.trans asks.outerVlan
  cases innerFound.symm.trans asks.innerVlan
  cases portFound.symm.trans asks.inPort
  have made : Metadata.pack? (.number inner) output.value = some (Metadata.pack inner sink) := by
    rw [asks.sink]
    rfl
  cases packed.symm.trans made
  rcases rest with ⟨any, rules_eq⟩ | ⟨fixed, pair, pairs, rules_eq⟩
  · exact .inl ⟨Value.number.inj any, rules_eq⟩
  · exact .inr ⟨fun any => fixed (congrArg Value.number any), pair, pairs, rules_eq⟩

/-- What an accepted objective comes down to when the client takes any tag. -/
theorem rules_any
    {rules : List Rule}
    (asks : Asks o port outer inner sink output)
    (accepted : o.toSubscriber l = .ok rules)
    (any : inner = WellKnown.vlanAny) :
    rules =
      o.toSubscriberAny l output (selector port outer inner sink) (.inPort (.number port)) := by
  rcases asks.rules_eq accepted with ⟨-, rules_eq⟩ | ⟨fixed, -⟩
  · exact rules_eq
  · exact absurd any fixed

/-- What an accepted objective comes down to when the customer tag is fixed. -/
theorem rules_fixed
    {rules : List Rule}
    (asks : Asks o port outer inner sink output)
    (accepted : o.toSubscriber l = .ok rules)
    (fixed : inner ≠ WellKnown.vlanAny) :
    ∃ pair, Instruction.vlanPairs .pop o.treatment.all = [pair] ∧
      rules = o.toSubscriberFixed l output (selector port outer inner sink)
        (.inPort (.number port)) (.number inner) pair := by
  rcases asks.rules_eq accepted with ⟨any, -⟩ | ⟨-, found⟩
  · exact absurd any fixed
  · exact found

end Asks

section Stages
variable (o : ForwardingObjective) (l : Layout) (output : Instruction) (outerSelector : Selector)
  (inPort : Criterion)

/-- With a fixed customer tag there is one rule for each stage. -/
theorem twoStages_toSubscriberFixed
    (innerVlan : Value)
    (pair : Instruction × Instruction)
    (apart : l.serviceTable ≠ 0) :
    Dataplane.TwoStages
      (o.toSubscriberFixed l output outerSelector inPort innerVlan pair) l.serviceTable
      (l.classifying o.app o.priority outerSelector
        (.ofOptions [some pair.1, some l.toService]))
      (l.serving o.app o.priority (.ofList [inPort, .vlan innerVlan])
        (.ofOptions
          ([some pair.1,
              if pair.2.value = .number WellKnown.vlanNone then none else some pair.2] ++
            [o.treatment.meter?, o.treatment.transition?])
          (some output))) where
  both := .swap _ _ _
  classifies := rfl
  serves := rfl
  apart := apart

/-- When the client takes any customer tag, there is one rule for each stage, too. -/
theorem twoStages_toSubscriberAny (apart : l.serviceTable ≠ 0) :
    Dataplane.TwoStages (o.toSubscriberAny l output outerSelector inPort) l.serviceTable
      (l.classifying o.app o.priority outerSelector
        (.ofOptions [some l.toService] (some .popVlan)))
      (l.serving o.app o.priority (.ofList [inPort, .vlan (.number WellKnown.vlanAny)])
        (.ofOptions ([] ++ [o.treatment.meter?, o.treatment.transition?]) (some output))) where
  both := .swap _ _ _
  classifies := rfl
  serves := rfl
  apart := apart

end Stages
end ForwardingObjective

namespace Instruction

/-- An operation that is paired once occurs once, and so does a setting. -/
theorem vlanOps_of_vlanPairs_one
    {op : VlanOp}
    {instructions : List Instruction}
    {pair : Instruction × Instruction}
    (pairs : vlanPairs op instructions = [pair]) :
    vlanOps op instructions = [pair.1] ∧ vlanOps .setId instructions = [pair.2] :=
  vlanOps_of_vlanPairs pairs (List.cons_ne_nil _ _)

/-- The operations of a kind are of that kind. -/
theorem isVlan_of_mem_vlanOps
    {op : VlanOp}
    {instructions : List Instruction}
    {i : Instruction}
    (member : i ∈ vlanOps op instructions) :
    i.IsVlan op := by
  simpa using (List.mem_filter.1 member).2

end Instruction

namespace Dataplane
open ForwardingObjective
variable {o : ForwardingObjective} {l : Layout} {port word : Int} {output : Instruction}
  {outerSelector : Selector} {outer inner : Tag} {rest : List Tag}

/-- The first output of a treatment is an output. -/
theorem action_of_output?
    {t : Treatment}
    (found : t.output? = some output) :
    output.action = .output := by
  simpa using List.find?_some found

/-- A packet that leaves with nothing but an output deferred is sent to it. -/
theorem leave_output
    {f : Flight}
    (outputs : output.action = .output)
    (only : f.deferred = [output]) :
    f.leave = some { f with deferred := [], sent := f.sent ++ [(output, f.packet.tags)] } := by
  rw [Flight.leave, only, Flight.applyAll_cons, Flight.apply_output _ outputs]
  rfl

/-- With a fixed customer tag the service tag is popped first.  The packet then leaves
with the tags that the pop and the setting of the objective make of the others. -/
theorem deliver_toSubscriberFixed
    {pair : Instruction × Instruction}
    {left : List Tag}
    (apart : l.serviceTable ≠ 0)
    (found : o.treatment.output? = some output)
    (pops : pair.1.IsVlan .pop)
    (plain : 0 ≤ inner.vid ∧ inner.vid ≤ 4095)
    (matched : Packet.matchedBy ⟨port, outer :: inner :: rest, word⟩ outerSelector = true)
    (begun : Flight.applyAll { packet := ⟨port, inner :: rest, word⟩ }
      ([some pair.1, if pair.2.value = .number WellKnown.vlanNone then none
        else some pair.2].filterMap id) = some { packet := ⟨port, left, word⟩ }) :
    deliver (o.toSubscriberFixed l output outerSelector (.inPort (.number port))
        (.number inner.vid) pair) l.serviceTable ⟨port, outer :: inner :: rest, word⟩ =
      some { packet := ⟨port, left, word⟩
             next := o.treatment.transition?.map (·.value)
             sent := [(output, left)] } := by
  have stages := twoStages_toSubscriberFixed o l output outerSelector (.inPort (.number port))
    (.number inner.vid) pair apart
  have classified :
      Flight.treat { packet := ⟨port, outer :: inner :: rest, word⟩ }
          (.ofOptions [some pair.1, some l.toService]) =
        some { packet := ⟨port, inner :: rest, word⟩, next := some (.number l.serviceTable) } := by
    change (do
      let treated ← Flight.applyAll { packet := ⟨port, outer :: inner :: rest, word⟩ }
        [pair.1, l.toService]
      some { treated with deferred := treated.deferred ++ [] }) = _
    rw [Flight.applyAll_cons, Flight.apply_pop pops rfl]
    rfl
  have served : Packet.matchedBy ⟨port, inner :: rest, word⟩
      (.ofList [.inPort (.number port), .vlan (.number inner.vid)]) = true := by
    simp [Packet.matchedBy_inPort_vlan, Packet.hasVlan_plain _ plain.1 plain.2]
  rw [stages.deliver_eq_leave matched classified rfl served (Flight.treat_profile begun rfl)]
  exact leave_output (action_of_output? found) rfl

/-- When the client takes any customer tag, only the service tag is popped, as the
packet leaves. -/
theorem deliver_toSubscriberAny
    (apart : l.serviceTable ≠ 0)
    (found : o.treatment.output? = some output)
    (matched : Packet.matchedBy ⟨port, outer :: rest, word⟩ outerSelector = true) :
    deliver (o.toSubscriberAny l output outerSelector (.inPort (.number port))) l.serviceTable
        ⟨port, outer :: rest, word⟩ =
      some { packet := ⟨port, rest, word⟩
             next := o.treatment.transition?.map (·.value)
             sent := [(output, rest)] } := by
  have stages := twoStages_toSubscriberAny o l output outerSelector (.inPort (.number port)) apart
  have served : Packet.matchedBy ⟨port, outer :: rest, word⟩
      (.ofList [.inPort (.number port), .vlan (.number WellKnown.vlanAny)]) = true := by
    simp [Packet.matchedBy_inPort_vlan]
  rw [stages.deliver_eq_leave matched rfl rfl served (Flight.treat_profile rfl rfl)]
  change (Flight.applyAll
    { packet := ⟨port, rest, word⟩, next := o.treatment.transition?.map (·.value) } [output]) = _
  rw [Flight.applyAll_cons, Flight.apply_output _ (action_of_output? found)]
  rfl

/-- A packet that table 0 does not match is not delivered. -/
theorem deliver_eq_none
    {rules : List Rule}
    {port outerVid innerVid sink : Int}
    {p : Packet}
    (asks : o.Asks port outerVid innerVid sink output)
    (accepted : o.toSubscriber l = .ok rules)
    (apart : l.serviceTable ≠ 0)
    (missed : p.matchedBy (Asks.selector port outerVid innerVid sink) = false) :
    deliver rules l.serviceTable p = none := by
  by_cases any : innerVid = WellKnown.vlanAny
  · rw [asks.rules_any accepted any]
    exact (twoStages_toSubscriberAny o l output _ _ apart).deliver_eq_none missed
  · obtain ⟨pair, -, rfl⟩ := asks.rules_fixed accepted any
    exact (twoStages_toSubscriberFixed o l output _ _ _ pair apart).deliver_eq_none missed

/--
Traffic to the subscriber.  When the customer tag is fixed and not set anew, a packet
with the service tag, the customer tag and the metadata of the client leaves without
these two tags; when it is set anew, the identifier of the next tag is.  When the
client takes any customer tag, the packet leaves without the service tag.  Each goes
to the first output of the objective.  A packet without the port, the service tag or the
metadata of the client is not matched in table 0, and not delivered.
-/
theorem deliver_toSubscriber
    (o : ForwardingObjective)
    (l : Layout)
    {rules : List Rule}
    {port outerVid innerVid sink : Int}
    {output : Instruction}
    (accepted : o.toSubscriber l = .ok rules)
    (asks : o.Asks port outerVid innerVid sink output)
    (outerRange : 0 ≤ outerVid ∧ outerVid ≤ 4095)
    (apart : l.serviceTable ≠ 0) :
    (∀ target, 0 ≤ innerVid ∧ innerVid ≤ 4095 →
      Instruction.vlanOps .setId o.treatment.all = [.setVlan (.number target)] →
        (target = WellKnown.vlanNone → ∀ outerType innerType rest,
          deliver rules l.serviceTable
              ⟨port, ⟨outerType, outerVid⟩ :: ⟨innerType, innerVid⟩ :: rest,
                Metadata.pack innerVid sink⟩ =
            some { packet := ⟨port, rest, Metadata.pack innerVid sink⟩
                   next := o.treatment.transition?.map (·.value)
                   sent := [(output, rest)] }) ∧
        (target ≠ WellKnown.vlanNone → ∀ outerType innerType (tag : Tag) rest,
          deliver rules l.serviceTable
              ⟨port, ⟨outerType, outerVid⟩ :: ⟨innerType, innerVid⟩ :: tag :: rest,
                Metadata.pack innerVid sink⟩ =
            some { packet := ⟨port, ⟨tag.etherType, target⟩ :: rest, Metadata.pack innerVid sink⟩
                   next := o.treatment.transition?.map (·.value)
                   sent := [(output, ⟨tag.etherType, target⟩ :: rest)] })) ∧
    (innerVid = WellKnown.vlanAny → ∀ outerType rest,
      deliver rules l.serviceTable
          ⟨port, ⟨outerType, outerVid⟩ :: rest, Metadata.pack innerVid sink⟩ =
        some { packet := ⟨port, rest, Metadata.pack innerVid sink⟩
               next := o.treatment.transition?.map (·.value)
               sent := [(output, rest)] }) ∧
    ∀ p : Packet,
      (p.inPort ≠ port ∨ p.metadata ≠ Metadata.pack innerVid sink ∨ p.hasVlan outerVid = false) →
        deliver rules l.serviceTable p = none := by
  have matched (outerType : Int) (rest : List Tag) :
      Packet.matchedBy ⟨port, ⟨outerType, outerVid⟩ :: rest, Metadata.pack innerVid sink⟩
        (Asks.selector port outerVid innerVid sink) = true := by
    simp [Asks.matchedBy_selector, Packet.hasVlan_plain _ outerRange.1 outerRange.2]
  refine ⟨?_, ?_, ?_⟩
  · intro target plain sets
    have fixed : innerVid ≠ WellKnown.vlanAny := by
      unfold WellKnown.vlanAny
      omega
    obtain ⟨⟨pop, set⟩, pairs, rfl⟩ := asks.rules_fixed accepted fixed
    obtain ⟨popped, setOnce⟩ := Instruction.vlanOps_of_vlanPairs_one pairs
    have pops : pop.IsVlan .pop :=
      Instruction.isVlan_of_mem_vlanOps (by rw [popped]; exact List.mem_singleton_self pop)
    obtain rfl : Instruction.setVlan (.number target) = set := by
      simpa [setOnce, eq_comm] using sets
    refine ⟨?_, ?_⟩
    · rintro rfl outerType innerType rest
      refine deliver_toSubscriberFixed apart asks.first pops plain (matched _ _) ?_
      change Flight.applyAll _ [pop] = _
      rw [Flight.applyAll_cons, Flight.apply_pop pops rfl]
      rfl
    · intro given outerType innerType tag rest
      refine deliver_toSubscriberFixed apart asks.first pops plain (matched _ _) ?_
      rw [if_neg (by simpa [Instruction.setVlan] using given)]
      change Flight.applyAll _ [pop, .setVlan (.number target)] = _
      rw [Flight.applyAll_cons, Flight.apply_pop pops rfl]
      rfl
  · intro any outerType rest
    rw [asks.rules_any accepted any]
    exact deliver_toSubscriberAny apart asks.first (matched _ _)
  · intro p missed
    refine deliver_eq_none asks accepted apart ?_
    rw [Asks.matchedBy_selector]
    rcases missed with elsewhere | otherClient | otherTag
    · simp [elsewhere]
    · simp [otherClient]
    · simp [otherTag]

/-- An objective for an untagged client. -/
def untaggedClient : ForwardingObjective where
  selector := .ofList [.inPort (.number 65536), .vlan (.number 200), .innerVlan (.number 100)]
  treatment :=
    { immediate := [.transition (.number 64), .popVlan]
      deferred := [.output (.number 3), .setVlan (.number WellKnown.vlanNone)] }
  priority := 1000
  app := "app"
  operation := some .add
  nextId := .absent

theorem deliver_toSubscriber_untaggedClient :
    ∃ rules, untaggedClient.toSubscriber { device := "olt" } = .ok rules ∧
      deliver rules 1
          ⟨65536, [⟨WellKnown.etherServiceVlan, 200⟩, ⟨WellKnown.etherVlan, 100⟩],
            Metadata.pack 100 3⟩ =
        some { packet := ⟨65536, [], Metadata.pack 100 3⟩
               next := some (.number 64)
               sent := [(.output (.number 3), [])] } := by
  refine ⟨_, rfl, ?_⟩
  have asks : untaggedClient.Asks 65536 200 100 3 (.output (.number 3)) :=
    ⟨rfl, rfl, rfl, rfl, rfl⟩
  obtain ⟨fixed, -⟩ :=
    deliver_toSubscriber untaggedClient { device := "olt" } rfl asks (by decide) (by decide)
  exact (fixed WellKnown.vlanNone (by decide) rfl).1 rfl _ _ []

end Dataplane
end LineTerminal
