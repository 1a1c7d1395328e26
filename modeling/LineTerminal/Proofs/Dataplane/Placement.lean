import LineTerminal.Proofs.Dataplane.AnyTag
import LineTerminal.Proofs.Dataplane.FlowTable
import LineTerminal.Proofs.Dataplane.ToSubscriber
import LineTerminal.Proofs.Session.Verdict

/-!
# Where the rules of a batch are placed

The rules for traffic from or to a subscriber are spread over table 0 and the service
table, and those of table 0 lead on to the service table.  Settings take any number that
is not negative for the service table, also 0.  Only if it is not 0, the rules of table 0
lead forward, and the rules of every batch have different places.
-/

namespace LineTerminal

/-- The transitions of a rule lead to tables after its own. -/
def Rule.LeadsOn (r : Rule) : Prop :=
  ∀ i ∈ r.treatment.all, i.action = .table → ∃ n, i.value = .number n ∧ r.table < n

namespace Instruction

/-- A pair consists of an operation and a setting. -/
theorem isVlan_of_mem_vlanPairs
    {op : VlanOp}
    {instructions : List Instruction}
    {first second : Instruction}
    (member : (first, second) ∈ vlanPairs op instructions) :
    first.IsVlan op ∧ second.IsVlan .setId := by
  simp only [vlanPairs] at member
  split at member
  · obtain ⟨operation, setting⟩ := List.of_mem_zip member
    exact ⟨isVlan_of_mem_vlanOps operation, isVlan_of_mem_vlanOps setting⟩
  · cases member

/-- Operations on tags lead nowhere. -/
theorem IsVlan.action_ne_table
    {i : Instruction}
    {op : VlanOp}
    (operation : i.IsVlan op) :
    i.action ≠ .table := by
  rw [operation.1]
  exact nofun

end Instruction

namespace Selector

/-- A selector of any tag is more than one of a port. -/
theorem ne_ofList_inPort
    {s : Selector}
    {port : Criterion}
    (any : s.matchesAnyVlan = true)
    (onPort : port.field = .inPort) :
    s ≠ .ofList [port] := by
  rintro rfl
  obtain ⟨field, value⟩ := port
  subst onPort
  cases any

/-- A selector of metadata is not one of a port and a VLAN alone. -/
theorem ofList_metadata_ne
    {port outer port' : Criterion}
    {word vid : Value}
    (onPort : port.field = .inPort)
    (onOuter : outer.field = .vlan)
    (onPort' : port'.field = .inPort) :
    ofList [port, outer, .metadata word] ≠ ofList [port', .vlan vid] := by
  obtain ⟨field, value⟩ := port
  obtain ⟨outerField, outerValue⟩ := outer
  obtain ⟨field', value'⟩ := port'
  subst onPort onOuter onPort'
  intro same
  have listed : [Criterion.inPort value, .metadata word, .vlan outerValue] =
      [.inPort value', .vlan vid] :=
    congrArg toList same
  cases congrArg List.length listed

end Selector

namespace ForwardingObjective
variable {o : ForwardingObjective} {l : Layout} {rules : List Rule}

/-- The rules of an accepted objective from the subscriber. -/
theorem fromSubscriber_eq_ok
    (accepted : o.fromSubscriber l = .ok rules) :
    ∃ output inPort inner outer,
      o.selector.get? .inPort = some inPort ∧
      Instruction.vlanPairs .push o.treatment.all = [inner, outer] ∧
      (o.selector.matchesAnyVlan = true ∧ rules = o.fromSubscriberAny l output inPort outer.2 ∨
        o.selector.matchesAnyVlan = false ∧
          rules = o.fromSubscriberFixed l output inPort inner outer) := by
  obtain ⟨inner, outer, output, inPort, pairs, -, port, rfl⟩ :=
    fromSubscriber_eq_ok_iff.1 accepted
  refine ⟨output, inPort, inner, outer, port, pairs, ?_⟩
  split
  · next any => exact .inl ⟨any, rfl⟩
  · next fixed => exact .inr ⟨Bool.eq_false_iff.2 fixed, rfl⟩

/-- The rules of an accepted objective to the subscriber. -/
theorem toSubscriber_eq_ok
    (accepted : o.toSubscriber l = .ok rules) :
    ∃ output inPort outerVlan word,
      inPort.field = .inPort ∧ outerVlan.field = .vlan ∧
      (rules = o.toSubscriberAny l output (.ofList [inPort, outerVlan, .metadata word]) inPort ∨
        ∃ vid pair, pair ∈ Instruction.vlanPairs .pop o.treatment.all ∧
          rules = o.toSubscriberFixed l output (.ofList [inPort, outerVlan, .metadata word])
            inPort vid pair) := by
  obtain ⟨output, outerVlan, innerVlan, inPort, word, -, outer, -, port, -, rest⟩ :=
    toSubscriber_eq_ok_iff.1 accepted
  refine ⟨output, inPort, outerVlan, .number word, Selector.field_of_get? port,
    Selector.field_of_get? outer, ?_⟩
  rcases rest with ⟨-, rules_eq⟩ | ⟨-, pair, pairs, rules_eq⟩
  · exact .inl rules_eq
  · exact .inr ⟨innerVlan.value, pair, by simp [pairs], rules_eq⟩

/--
Two rules from the subscriber would have one place if they were in one table: the client
takes any tag, or the tag that it is given is the one that it has.
-/
def Merges (o : ForwardingObjective) : Prop :=
  o.selector.matchesAnyVlan = true ∨
    ∃ inPort inner outer, o.selector.get? .inPort = some inPort ∧
      Instruction.vlanPairs .push o.treatment.all = [inner, outer] ∧
      o.selector = .ofList [inPort, .vlan inner.2.value]

/-- With a fixed tag, the places differ by the table or by the selector. -/
theorem nodup_slots_fromSubscriberFixed
    (output : Instruction)
    {inPort : Criterion}
    {inner outer : Instruction × Instruction}
    (nonneg : 0 ≤ l.serviceTable)
    (port : o.selector.get? .inPort = some inPort)
    (pairs : Instruction.vlanPairs .push o.treatment.all = [inner, outer])
    (fixed : o.selector.matchesAnyVlan = false) :
    ((o.fromSubscriberFixed l output inPort inner outer).map Rule.slot).Nodup ↔
      0 < l.serviceTable ∨ ¬o.Merges := by
  have merges : o.Merges ↔ o.selector = .ofList [inPort, .vlan inner.2.value] := by
    simp [Merges, fixed, port, pairs]
  have same : ((o.fromSubscriberFixed l output inPort inner outer).map Rule.slot).Nodup ↔
      ¬(0 = l.serviceTable ∧ o.selector = .ofList [inPort, .vlan inner.2.value]) := by
    simp [fromSubscriberFixed, Layout.classifying, Layout.serving, Rule.slot]
  rw [same, merges, not_and_or]
  have apart : 0 ≠ l.serviceTable ↔ 0 < l.serviceTable := by omega
  exact or_congr_left apart

/-- With any tag, the first and the last rule differ by the table alone. -/
theorem nodup_slots_fromSubscriberAny
    (output outerSet : Instruction)
    {inPort : Criterion}
    (nonneg : 0 ≤ l.serviceTable)
    (onPort : inPort.field = .inPort)
    (any : o.selector.matchesAnyVlan = true) :
    ((o.fromSubscriberAny l output inPort outerSet).map Rule.slot).Nodup ↔
      0 < l.serviceTable ∨ ¬o.Merges := by
  have merges : o.Merges := .inl any
  have different := Selector.ne_ofList_inPort any onPort
  have same : ((o.fromSubscriberAny l output inPort outerSet).map Rule.slot).Nodup ↔
      0 ≠ l.serviceTable := by
    simp [fromSubscriberAny, Layout.classifying, Layout.serving, Rule.slot, different,
      different.symm]
  simp only [same, merges, not_true_eq_false, or_false]
  omega

/-- Rules lead forward if the service table is after table 0, given that one of them leads
there, and that none of table 0 leads elsewhere. -/
theorem forall_leadsOn_iff
    (leads : ∃ r ∈ rules, r.table = 0 ∧ l.toService ∈ r.treatment.all)
    (only : 0 < l.serviceTable → ∀ r ∈ rules, r.table = 0 →
      ∀ i ∈ r.treatment.all, i.action = .table → i = l.toService) :
    (∀ r ∈ rules, r.table = 0 → r.LeadsOn) ↔ 0 < l.serviceTable := by
  constructor
  · intro forward
    obtain ⟨r, member, zero, listed⟩ := leads
    obtain ⟨n, target, later⟩ := forward r member zero _ listed rfl
    cases target
    rwa [zero] at later
  · intro positive r member zero i listed jumps
    obtain rfl := only positive r member zero i listed jumps
    exact ⟨l.serviceTable, rfl, by rwa [zero]⟩

/-- With a fixed tag, packets from the subscriber lead forward to the service table. -/
theorem leadsOn_fromSubscriberFixed
    (output : Instruction)
    (inPort : Criterion)
    {inner outer : Instruction × Instruction}
    (pairs : Instruction.vlanPairs .push o.treatment.all = [inner, outer]) :
    (∀ r ∈ o.fromSubscriberFixed l output inPort inner outer, r.table = 0 → r.LeadsOn) ↔
      0 < l.serviceTable := by
  obtain ⟨push, set⟩ : inner.1.IsVlan .push ∧ inner.2.IsVlan .setId :=
    Instruction.isVlan_of_mem_vlanPairs (by rw [pairs]; exact List.mem_cons_self)
  refine forall_leadsOn_iff ⟨_, List.mem_cons_self, rfl, ?_⟩ ?_
  · simp [Layout.classifying, Treatment.ofOptions, Treatment.all]
  · intro positive r member zero i listed jumps
    rcases List.mem_pair.1 member with rfl | rfl
    · simp only [Layout.classifying, Treatment.ofOptions, Treatment.all, Option.toList_none,
        List.append_nil, List.mem_filterMap, List.mem_cons, List.not_mem_nil, or_false, id_eq]
        at listed
      obtain ⟨entry, pushes | sets | leads, rfl⟩ := listed
      · split at pushes
        · cases pushes
          exact absurd jumps push.action_ne_table
        · cases pushes
      · cases sets
        exact absurd jumps set.action_ne_table
      · exact Option.some.inj leads
    · exact absurd zero (Int.ne_of_gt positive)

/-- With any tag, packets from the subscriber lead forward to the service table, too. -/
theorem leadsOn_fromSubscriberAny
    (output outerSet : Instruction)
    (inPort : Criterion) :
    (∀ r ∈ o.fromSubscriberAny l output inPort outerSet, r.table = 0 → r.LeadsOn) ↔
      0 < l.serviceTable := by
  refine forall_leadsOn_iff ⟨_, List.mem_cons_self, rfl, List.mem_singleton_self _⟩ ?_
  intro positive r member zero i listed jumps
  simp only [fromSubscriberAny, List.mem_cons, List.not_mem_nil, or_false] at member
  rcases member with rfl | rfl | rfl
  · exact List.mem_singleton.1 listed
  · cases listed
  · exact absurd zero (Int.ne_of_gt positive)

/-- Two rules with different selectors have different places. -/
theorem nodup_slots_pair
    {serving classifying : Rule}
    (different : serving.selector ≠ classifying.selector) :
    ([serving, classifying].map Rule.slot).Nodup := by
  simp [Rule.slot, different]

/-- Two rules, of which that of table 0 works on a tag and leads to the service table. -/
theorem leadsOn_pair
    {serving classifying : Rule}
    {i : Instruction}
    {op : VlanOp}
    (serves : serving.table = l.serviceTable)
    (classifies : classifying.table = 0)
    (pops : i.IsVlan op)
    (treats : classifying.treatment.all.Perm [i, l.toService]) :
    (∀ r ∈ [serving, classifying], r.table = 0 → r.LeadsOn) ↔ 0 < l.serviceTable := by
  refine forall_leadsOn_iff
    ⟨classifying, by simp, classifies, treats.mem_iff.2 (by simp)⟩ ?_
  intro positive r member zero j listed jumps
  rcases List.mem_pair.1 member with rfl | rfl
  · exact absurd (serves.symm.trans zero) (Int.ne_of_gt positive)
  · rcases List.mem_pair.1 (treats.mem_iff.1 listed) with rfl | rfl
    · exact absurd jumps pops.action_ne_table
    · rfl

end ForwardingObjective

namespace Session
open ForwardingObjective

/--
The batches of a pipeline for traffic from and to a subscriber.  The rules of table 0 lead
forward exactly when the service table is not table 0.  Then all rules have different
places.  Otherwise, too, those to the subscriber do, and those from the subscriber unless
two of them differ by the table alone.
-/
theorem placed_apart_iff
    (p : Pipeline)
    (o : ForwardingObjective)
    {rules : List Rule} :
    (o.fromSubscriber p.layout = .ok rules →
      ((rules.map Rule.slot).Nodup ↔ 0 < p.settings.serviceTable ∨ ¬o.Merges) ∧
      ((∀ r ∈ rules, r.table = 0 → r.LeadsOn) ↔ 0 < p.settings.serviceTable)) ∧
    (o.toSubscriber p.layout = .ok rules →
      (rules.map Rule.slot).Nodup ∧
      ((∀ r ∈ rules, r.table = 0 → r.LeadsOn) ↔ 0 < p.settings.serviceTable)) := by
  have nonneg : 0 ≤ p.layout.serviceTable := p.settings.serviceTable_nonneg
  constructor
  · intro accepted
    obtain ⟨output, inPort, inner, outer, port, pairs, ⟨any, rfl⟩ | ⟨fixed, rfl⟩⟩ :=
      fromSubscriber_eq_ok accepted
    · exact ⟨nodup_slots_fromSubscriberAny output outer.2 nonneg (Selector.field_of_get? port) any,
        leadsOn_fromSubscriberAny output outer.2 inPort⟩
    · exact ⟨nodup_slots_fromSubscriberFixed output nonneg port pairs fixed,
        leadsOn_fromSubscriberFixed output inPort pairs⟩
  · intro accepted
    obtain ⟨output, inPort, outerVlan, word, onPort, onOuter, rfl | ⟨vid, pair, paired, rfl⟩⟩ :=
      toSubscriber_eq_ok accepted
    · rw [toSubscriberAny]
      refine ⟨nodup_slots_pair (Selector.ofList_metadata_ne onPort onOuter onPort).symm, ?_⟩
      have pops : Instruction.popVlan.IsVlan .pop := ⟨rfl, rfl⟩
      exact leadsOn_pair (l := p.layout) rfl rfl pops (.swap _ _ _)
    · rw [toSubscriberFixed]
      refine ⟨nodup_slots_pair (Selector.ofList_metadata_ne onPort onOuter onPort).symm, ?_⟩
      obtain ⟨pops, -⟩ := Instruction.isVlan_of_mem_vlanPairs paired
      exact leadsOn_pair (l := p.layout) rfl rfl pops (.refl _)

theorem placed_apart_iff_keepsTags :
    ∃ rules, (Dataplane.keepsTags 1000).fromSubscriber
        (Pipeline.layout { device := "olt", settings := usualSettings }) = .ok rules ∧
      rules.length = 3 ∧ (rules.map Rule.slot).Nodup ∧ ∀ r ∈ rules, r.table = 0 → r.LeadsOn := by
  refine ⟨_, rfl, rfl, ?_⟩
  obtain ⟨distinct, forward⟩ :=
    (placed_apart_iff { device := "olt", settings := usualSettings }
      (Dataplane.keepsTags 1000)).1 rfl
  exact ⟨distinct.2 (.inl (by decide)), forward.2 (by decide)⟩

/--
A draft with table 0 as the service table passes its check.  Then two rules for a client that
keeps its tags share their place, and the first of them leads to its own table.
-/
theorem tableZero_merges :
    ∃ settings, ({ serviceTable := 0 } : Draft).check = .ok settings ∧
      ∃ rules, (Dataplane.keepsTags 1000).fromSubscriber
          (Pipeline.layout { device := "olt", settings }) = .ok rules ∧
        ¬(rules.map Rule.slot).Nodup ∧
        ∃ r ∈ rules, r.table = 0 ∧ ∃ i ∈ r.treatment.all,
          i.action = .table ∧ i.value = .number 0 := by
  have accepted : ({ serviceTable := 0 } : Draft).check =
      .ok { usualSettings with serviceTable := 0, serviceTable_nonneg := Int.le_refl 0 } :=
    Draft.check_eq_ok_iff.2 rfl
  refine ⟨_, accepted, _, rfl, by decide, _, List.mem_cons_self, rfl, _,
    List.mem_singleton_self _, rfl, rfl⟩

end Session
end LineTerminal
