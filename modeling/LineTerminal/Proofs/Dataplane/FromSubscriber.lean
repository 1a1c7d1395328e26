import LineTerminal.Proofs.Dataplane.Packet
import LineTerminal.Proofs.Translation

/-!
# What becomes of packets from the subscriber

The rules for traffic from the subscriber are run on packets.  Whatever the order
in which an objective lists its instructions, a packet leaves the service stage
with the customer tag below the service tag, and with the first output of the
objective as its only deferred instruction.
-/

namespace LineTerminal

namespace Selector

/-- Which VLAN a selector of a port and a VLAN asks for. -/
theorem matchesVlan_of_toList
    {s : Selector}
    {port : Value}
    {vid : Int}
    (listed : s.toList = [.inPort port, .vlan (.number vid)])
    (other : Int) :
    s.matchesVlan (.number other) = decide (vid = other) := by
  have found : s.get? .vlan = some (.vlan (.number vid)) := by
    change Criterion.find? s.toList .vlan = _
    rw [listed]
    rfl
  simp [matchesVlan, found, Criterion.vlan]

end Selector

namespace Instruction

/-- Two operations and two settings are paired in their order. -/
theorem vlanPairs_two
    {op : VlanOp}
    {instructions : List Instruction}
    {first second firstSet secondSet : Instruction}
    (ops : vlanOps op instructions = [first, second])
    (sets : vlanOps .setId instructions = [firstSet, secondSet]) :
    vlanPairs op instructions = [(first, firstSet), (second, secondSet)] := by
  simp [vlanPairs, ops, sets]

end Instruction

namespace ForwardingObjective

/-- What an accepted objective with a fixed customer tag comes down to. -/
theorem fromSubscriber_eq_fixed
    {o : ForwardingObjective}
    {l : Layout}
    {rules : List Rule}
    {inner outer : Instruction × Instruction}
    (accepted : o.fromSubscriber l = .ok rules)
    (pairs : Instruction.vlanPairs .push o.treatment.all = [inner, outer])
    (fixed : o.selector.matchesAnyVlan = false) :
    ∃ output inPort, o.treatment.output? = some output ∧
      o.selector.get? .inPort = some inPort ∧
      rules = o.fromSubscriberFixed l output inPort inner outer := by
  obtain ⟨inner', outer', output, inPort, pairs', sends, port, rules_eq⟩ :=
    fromSubscriber_eq_ok_iff.1 accepted
  cases pairs.symm.trans pairs'
  rw [if_neg (Bool.eq_false_iff.1 fixed)] at rules_eq
  exact ⟨output, inPort, sends, port, rules_eq⟩

variable (o : ForwardingObjective) (l : Layout) (output : Instruction)
  (inner outer : Instruction × Instruction)

/-- What table 0 does with the customer tag. -/
def customerTreatment : Treatment :=
  .ofOptions [if o.selector.matchesUntagged then some inner.1 else none, some inner.2,
    some l.toService]

/-- What the service table adds. -/
def serviceTreatment : Treatment :=
  .ofOptions [some outer.1, some outer.2, o.treatment.meter?, o.treatment.transition?]
    (some output)

/-- With a fixed customer tag there is one rule for each stage. -/
theorem twoStages_fromSubscriberFixed
    (inPort : Criterion)
    (apart : l.serviceTable ≠ 0) :
    Dataplane.TwoStages (o.fromSubscriberFixed l output inPort inner outer) l.serviceTable
      (l.classifying o.app o.priority o.selector (o.customerTreatment l inner))
      (l.serving o.app o.priority (.ofList [inPort, .vlan inner.2.value])
        (o.serviceTreatment output outer)) where
  both := .refl _
  classifies := rfl
  serves := rfl
  apart := apart

variable {o l output}

/-- An untagged packet gets the customer tag. -/
theorem treat_customer_untagged
    {etherType vid port word : Int}
    (untagged : o.selector.matchesUntagged = true) :
    Flight.treat { packet := ⟨port, [], word⟩ }
        (o.customerTreatment l (.pushVlan (.number etherType), .setVlan (.number vid))) =
      some { packet := ⟨port, [⟨etherType, vid⟩], word⟩, next := some (.number l.serviceTable) } := by
  simp only [customerTreatment, untagged, if_pos]
  rfl

/-- On a tagged packet the identifier of the tag is replaced. -/
theorem treat_customer_tagged
    {push : Instruction}
    {vid port word : Int}
    {tag : Tag}
    {rest : List Tag}
    (tagged : o.selector.matchesUntagged = false) :
    Flight.treat { packet := ⟨port, tag :: rest, word⟩ }
        (o.customerTreatment l (push, .setVlan (.number vid))) =
      some { packet := ⟨port, { tag with vid } :: rest, word⟩
             next := some (.number l.serviceTable) } := by
  simp only [customerTreatment, tagged, Bool.false_eq_true, if_false]
  rfl

/-- The service table pushes and sets the service tag, and defers the output. -/
theorem treat_service
    (f : Flight)
    {etherType vid : Int}
    (fresh : f.next = none) :
    f.treat (o.serviceTreatment output (.pushVlan (.number etherType), .setVlan (.number vid))) =
      some { f.withTags (⟨etherType, vid⟩ :: f.packet.tags) with
        deferred := f.deferred ++ [output]
        next := o.treatment.transition?.map (·.value) } := by
  have tagged : f.applyAll
      ([some (.pushVlan (.number etherType)), some (.setVlan (.number vid))].filterMap id) =
        some (f.withTags (⟨etherType, vid⟩ :: f.packet.tags)) := rfl
  exact Flight.treat_profile tagged fresh

end ForwardingObjective

namespace Dataplane

/--
Traffic from the subscriber with a fixed customer tag.  An untagged packet leaves
the service stage with the first pair of the objective as its customer tag and the
second as its service tag; on a tagged one the customer tag is replaced.  What the
selector does not match goes nowhere.
-/
theorem traverse_fromSubscriber
    (o : ForwardingObjective)
    (l : Layout)
    {rules : List Rule}
    {port vid inner outer customer service : Int}
    (accepted : o.fromSubscriber l = .ok rules)
    (selector : o.selector.toList = [.inPort (.number port), .vlan (.number vid)])
    (fixed : vid = WellKnown.vlanNone ∨ 0 ≤ vid ∧ vid ≤ 4095)
    (pushes : Instruction.vlanOps .push o.treatment.all =
      [.pushVlan (.number inner), .pushVlan (.number outer)])
    (sets : Instruction.vlanOps .setId o.treatment.all =
      [.setVlan (.number customer), .setVlan (.number service)])
    (customerRange : 0 ≤ customer ∧ customer ≤ 4095)
    (apart : l.serviceTable ≠ 0) :
    ∃ output, o.treatment.output? = some output ∧
      (vid = WellKnown.vlanNone → ∀ word,
        traverse rules l.serviceTable ⟨port, [], word⟩ =
          some { packet := ⟨port, [⟨outer, service⟩, ⟨inner, customer⟩], word⟩
                 deferred := [output]
                 next := o.treatment.transition?.map (·.value) }) ∧
      (vid ≠ WellKnown.vlanNone → ∀ etherType rest word,
        traverse rules l.serviceTable ⟨port, ⟨etherType, vid⟩ :: rest, word⟩ =
          some { packet := ⟨port, ⟨outer, service⟩ :: ⟨etherType, customer⟩ :: rest, word⟩
                 deferred := [output]
                 next := o.treatment.transition?.map (·.value) }) ∧
      ∀ p : Packet, (p.inPort ≠ port ∨ p.hasVlan vid = false) →
        traverse rules l.serviceTable p = none := by
  have pairs := Instruction.vlanPairs_two pushes sets
  have any : o.selector.matchesAnyVlan = false := by
    rw [Selector.matchesAnyVlan, Selector.matchesVlan_of_toList selector]
    refine decide_eq_false fun equal => ?_
    simp only [equal, WellKnown.vlanNone, WellKnown.vlanAny] at fixed
    omega
  have none : o.selector.matchesUntagged = decide (vid = WellKnown.vlanNone) := by
    rw [Selector.matchesUntagged, Selector.matchesVlan_of_toList selector]
  obtain ⟨output, inPort, found, located, rfl⟩ :=
    ForwardingObjective.fromSubscriber_eq_fixed accepted pairs any
  have portEq : inPort = .inPort (.number port) := by
    change Criterion.find? o.selector.toList .inPort = _ at located
    rw [selector] at located
    exact (Option.some.inj located).symm
  subst portEq
  have stages := ForwardingObjective.twoStages_fromSubscriberFixed o l output
    (.pushVlan (.number inner), .setVlan (.number customer))
    (.pushVlan (.number outer), .setVlan (.number service)) (.inPort (.number port)) apart
  have matches_iff := Packet.matchedBy_of_toList selector
  have served (tag : Tag) (rest : List Tag) (word : Int) (carried : tag.vid = customer) :
      Packet.matchedBy ⟨port, tag :: rest, word⟩
        (.ofList [.inPort (.number port), .vlan (.number customer)]) = true := by
    simp [Packet.matchedBy_inPort_vlan, Packet.hasVlan_plain _ customerRange.1 customerRange.2,
      carried]
  refine ⟨output, found, ?_, ?_, ?_⟩
  · rintro rfl word
    rw [stages.traverse_eq_treat (by simp [Layout.classifying, matches_iff])
      (ForwardingObjective.treat_customer_untagged (by simpa using none)) rfl
      (served _ _ _ rfl)]
    exact ForwardingObjective.treat_service _ rfl
  · intro tagged etherType rest word
    have plain := fixed.resolve_left tagged
    rw [stages.traverse_eq_treat
      (by simp [Layout.classifying, matches_iff, Packet.hasVlan_plain _ plain.1 plain.2])
      (ForwardingObjective.treat_customer_tagged (by simpa [tagged] using none)) rfl
      (served _ _ _ rfl)]
    exact ForwardingObjective.treat_service _ rfl
  · intro p missed
    refine stages.traverse_eq_none ?_
    rcases missed with elsewhere | otherwise
    · simp [Layout.classifying, matches_iff, elsewhere]
    · simp [Layout.classifying, matches_iff, otherwise]

/-- An objective for an untagged client whose pushes, settings and output stand in
no order. -/
def scattered : ForwardingObjective where
  selector := .ofList [.inPort (.number 1), .vlan (.number WellKnown.vlanNone)]
  treatment :=
    { immediate := [.setVlan (.number 100), .pushVlan (.number WellKnown.etherVlan),
        .meter (.number 7), .pushVlan (.number WellKnown.etherServiceVlan)]
      deferred := [.output (.number 4), .transition (.number 64), .setVlan (.number 200)] }
  priority := 1000
  app := "app"
  operation := some .add
  nextId := .absent

theorem traverse_fromSubscriber_scattered :
    ∃ rules, scattered.fromSubscriber { device := "olt" } = .ok rules ∧
      traverse rules 1 ⟨1, [], 0⟩ =
        some { packet := ⟨1, [⟨WellKnown.etherServiceVlan, 200⟩, ⟨WellKnown.etherVlan, 100⟩], 0⟩
               deferred := [.output (.number 4)]
               next := some (.number 64) } := by
  refine ⟨_, rfl, ?_⟩
  obtain ⟨output, found, untagged, -⟩ :=
    traverse_fromSubscriber scattered { device := "olt" } rfl rfl (.inl rfl) rfl rfl
      (by decide) (by decide)
  obtain rfl : Instruction.output (.number 4) = output := Option.some.inj found
  exact untagged rfl 0

end Dataplane
end LineTerminal
