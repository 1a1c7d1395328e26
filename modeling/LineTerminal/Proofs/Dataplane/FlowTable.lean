import LineTerminal.Proofs.Selector
import LineTerminal.Proofs.Translation
import LineTerminal.Session.Pipeline
import Mathlib.Data.List.Nodup

/-!
# What batches leave in the tables of a device

A device keeps one treatment for each table, priority and selector.  Adding a rule puts
its treatment there, whatever was there before, and removing it leaves nothing.  Each
client of a device has two rules.  In table 0 they are told apart by the service tag and
the metadata, but in the service table only by the port and the customer tag.  Two
clients may share their place there, and then the rules of both go with those of one.
-/

namespace LineTerminal

/-- Where a device keeps a treatment. -/
structure Slot where
  /-- The table. -/
  table : Int
  /-- The priority in the table. -/
  priority : Int
  /-- The packets that the treatment is for. -/
  selector : Selector
deriving DecidableEq

/-- The place of a rule. -/
def Rule.slot (r : Rule) : Slot := ⟨r.table, r.priority, r.selector⟩

/-- The treatments that a device keeps. -/
abbrev FlowTable := Slot → Option Treatment

namespace FlowTable

/-- Makes one change. -/
def change (t : FlowTable) (c : Change × Rule) : FlowTable :=
  Function.update t c.2.slot <|
    match c.1 with
    | .add => some c.2.treatment
    | .remove => none

/-- Makes the changes of a batch, in order. -/
def run (t : FlowTable) (b : Batch) : FlowTable :=
  b.foldl change t

/-- A device that keeps nothing. -/
def empty : FlowTable := fun _ => none

/-- The treatment of a rule is where it belongs. -/
def Holds (t : FlowTable) (r : Rule) : Prop :=
  t r.slot = some r.treatment

variable {t : FlowTable}

/-- A change leaves other places alone. -/
theorem change_of_ne
    {c : Change × Rule}
    {s : Slot}
    (elsewhere : s ≠ c.2.slot) :
    t.change c s = t s :=
  Function.update_of_ne elsewhere _ _

@[simp] theorem change_add_self (r : Rule) : t.change (.add, r) r.slot = some r.treatment :=
  Function.update_self _ _ _

@[simp] theorem change_remove_self (r : Rule) : t.change (.remove, r) r.slot = none :=
  Function.update_self _ _ _

/-- A batch leaves the places alone that none of its rules has. -/
theorem run_of_forall_ne
    {b : Batch}
    {s : Slot}
    (elsewhere : ∀ c ∈ b, s ≠ c.2.slot) :
    t.run b s = t s := by
  induction b generalizing t with
  | nil => rfl
  | cons c rest ih =>
      obtain ⟨other, others⟩ := List.forall_mem_cons.1 elsewhere
      exact (ih others).trans (change_of_ne other)

/-- Rules in different places are all there when they have been added. -/
theorem holds_run_add
    {rules : List Rule}
    {r : Rule}
    (distinct : (rules.map Rule.slot).Nodup)
    (member : r ∈ rules) :
    (t.run (.ofRules .add rules)).Holds r := by
  induction rules generalizing t with
  | nil => cases member
  | cons first rest ih =>
      obtain ⟨fresh, distinct⟩ := List.nodup_cons.1 distinct
      rcases List.mem_cons.1 member with rfl | later
      · -- No later rule has the place of this one.
        have kept : ∀ c ∈ Batch.ofRules .add rest, r.slot ≠ c.2.slot := by
          intro c listed same
          obtain ⟨x, present, rfl⟩ := List.mem_map.1 listed
          exact fresh (List.mem_map.2 ⟨x, present, same.symm⟩)
        exact (run_of_forall_ne kept).trans (change_add_self r)
      · exact ih distinct later

/-- Removing rules empties their places. -/
theorem run_remove (rules : List Rule) (s : Slot) :
    t.run (.ofRules .remove rules) s = if s ∈ rules.map Rule.slot then none else t s := by
  induction rules generalizing t with
  | nil => rfl
  | cons first rest ih =>
      change (t.change (.remove, first)).run (.ofRules .remove rest) s = _
      rw [ih]
      by_cases here : s = first.slot
      · subst here
        simp
      · simp [here, change_of_ne (t := t) (c := (.remove, first)) here]

/-- What remains of rules when others, which were there before, are removed. -/
theorem run_add_remove
    {others rules : List Rule}
    {r : Rule}
    (distinct : (rules.map Rule.slot).Nodup)
    (member : r ∈ rules) :
    (t.run (.ofRules .add rules)).run (.ofRules .remove others) r.slot =
      if r.slot ∈ others.map Rule.slot then none else some r.treatment := by
  rw [run_remove, holds_run_add distinct member]

end FlowTable

namespace Selector

/-- A port and a VLAN are both kept. -/
theorem ofList_inPort_vlan_inj
    {port port' : Criterion}
    {vid vid' : Value}
    (onPort : port.field = .inPort)
    (onPort' : port'.field = .inPort) :
    ofList [port, .vlan vid] = ofList [port', .vlan vid'] ↔ port = port' ∧ vid = vid' := by
  obtain ⟨field, value⟩ := port
  obtain ⟨field', value'⟩ := port'
  subst onPort onPort'
  constructor
  · intro same
    have criteria : [Criterion.inPort value, .vlan vid] = [.inPort value', .vlan vid'] :=
      congrArg toList same
    simpa [Criterion.inPort, Criterion.vlan] using criteria
  · rintro ⟨same, rfl⟩
    rw [same]

end Selector

namespace ForwardingObjective
variable {o a b : ForwardingObjective} {l : Layout} {rules : List Rule}

/-- What tells the rules of an accepted objective to the subscriber apart from others. -/
theorem toSubscriber_slots
    (accepted : o.toSubscriber l = .ok rules) :
    ∃ inPort innerVlan serving classifying,
      o.selector.get? .inPort = some inPort ∧
      o.selector.get? .innerVlan = some innerVlan ∧
      rules = [serving, classifying] ∧
      serving.slot =
        ⟨l.serviceTable, o.priority, .ofList [inPort, .vlan innerVlan.value]⟩ ∧
      classifying.table = 0 := by
  obtain ⟨output, outerVlan, innerVlan, inPort, word, -, -, inner, port, -,
    ⟨any, rfl⟩ | ⟨-, pair, -, rfl⟩⟩ := toSubscriber_eq_ok_iff.1 accepted
  · refine ⟨inPort, innerVlan, _, _, port, inner, rfl, ?_, rfl⟩
    rw [any]
    rfl
  · exact ⟨inPort, innerVlan, _, _, port, inner, rfl, rfl, rfl⟩

/-- Two objectives to the subscriber have one place in the service table. -/
def SharesService (a b : ForwardingObjective) : Prop :=
  a.priority = b.priority ∧ a.selector.get? .inPort = b.selector.get? .inPort ∧
    a.selector.get? .innerVlan = b.selector.get? .innerVlan

instance : DecidableRel SharesService := fun _ _ => inferInstanceAs (Decidable (_ ∧ _ ∧ _))

/-- Two accepted objectives have one place in the service table if priority, port and
customer tag agree. -/
theorem slot_eq_iff_sharesService
    {inPort inPort' innerVlan innerVlan' : Criterion}
    (port : a.selector.get? .inPort = some inPort)
    (port' : b.selector.get? .inPort = some inPort')
    (inner : a.selector.get? .innerVlan = some innerVlan)
    (inner' : b.selector.get? .innerVlan = some innerVlan') :
    (⟨l.serviceTable, b.priority, .ofList [inPort', .vlan innerVlan'.value]⟩ : Slot) =
        ⟨l.serviceTable, a.priority, .ofList [inPort, .vlan innerVlan.value]⟩ ↔
      a.SharesService b := by
  have onPort := Selector.field_of_get? port
  have onPort' := Selector.field_of_get? port'
  have onInner : innerVlan.field = innerVlan'.field :=
    (Selector.field_of_get? inner).trans (Selector.field_of_get? inner').symm
  have value_iff : innerVlan'.value = innerVlan.value ↔ innerVlan = innerVlan' := by
    obtain ⟨field, value⟩ := innerVlan
    obtain ⟨field', value'⟩ := innerVlan'
    rw [Criterion.mk.injEq]
    exact ⟨fun same => ⟨onInner, same.symm⟩, fun same => same.2.symm⟩
  rw [SharesService, port, port', inner, inner', Slot.mk.injEq,
    Selector.ofList_inPort_vlan_inj onPort' onPort, value_iff]
  simp only [Option.some.injEq, true_and]
  exact and_congr eq_comm (and_congr_left' eq_comm)

end ForwardingObjective

namespace FlowTable
open ForwardingObjective Session

/--
Two clients of one device are installed and the first is removed, in three batches.
Whatever the tables held before, the rule of the second client in table 0 is still there
if it matches other packets than that of the first.  Its rule in the service table is
there as well, unless the two have one place in that table: this is left empty.
-/
theorem left_of_removed
    (l : Layout)
    {leaving staying : ForwardingObjective}
    {rules others : List Rule}
    {first second third : Batch}
    (left : leaving.toSubscriber l = .ok others)
    (stays : staying.toSubscriber l = .ok rules)
    (apart : 1 ≤ l.serviceTable)
    (differ : ∀ x ∈ others, ∀ r ∈ rules, x.table = 0 → r.table = 0 → x.selector ≠ r.selector)
    (added : batchFor others (some .add) = .ok first)
    (addedNext : batchFor rules (some .add) = .ok second)
    (removed : batchFor others (some .remove) = .ok third)
    (t : FlowTable) :
    ∃ serving classifying, rules = [serving, classifying] ∧
      serving.table = l.serviceTable ∧ classifying.table = 0 ∧
      (((t.run first).run second).run third).Holds classifying ∧
      ((t.run first).run second).run third serving.slot =
        if leaving.SharesService staying then none else some serving.treatment := by
  obtain ⟨inPort, innerVlan, serving, classifying, port, inner, rfl, servingSlot, zero⟩ :=
    toSubscriber_slots left
  obtain ⟨inPort', innerVlan', serving', classifying', port', inner', rfl, servingSlot', zero'⟩ :=
    toSubscriber_slots stays
  cases added
  cases addedNext
  cases removed
  have served : serving.table = l.serviceTable := congrArg Slot.table servingSlot
  have served' : serving'.table = l.serviceTable := congrArg Slot.table servingSlot'
  have stagesDiffer {r x : Rule} (service : r.table = l.serviceTable) (first : x.table = 0) :
      r.slot ≠ x.slot := by
    intro same
    have tables : r.table = x.table := congrArg Slot.table same
    omega
  have classifyingDiffer : classifying'.slot ≠ classifying.slot := fun same =>
    differ classifying (by simp) classifying' (by simp) zero zero'
      (congrArg Slot.selector same).symm
  have distinct : ([serving', classifying'].map Rule.slot).Nodup := by
    simp [stagesDiffer served' zero']
  refine ⟨serving', classifying', rfl, served', zero', ?_, ?_⟩
  · rw [Holds, run_add_remove distinct (by simp)]
    simp [(stagesDiffer served zero').symm, classifyingDiffer]
  · rw [run_add_remove distinct (by simp)]
    simp only [List.map_cons, List.map_nil, List.mem_cons, List.not_mem_nil, or_false,
      stagesDiffer served' zero]
    rw [servingSlot, servingSlot']
    simp only [slot_eq_iff_sharesService port port' inner inner']

/-- An objective for a client with the given tags. -/
def client (serviceTag customerTag : Int) : ForwardingObjective where
  selector := .ofList
    [.inPort (.number 65536), .vlan (.number serviceTag), .innerVlan (.number customerTag)]
  treatment :=
    { immediate := [.popVlan, .setVlan (.number WellKnown.vlanNone), .output (.number 3)] }
  priority := 1000
  app := "app"
  operation := some .add
  nextId := .absent

theorem left_of_removed_otherCustomer :
    ∃ others rules, (client 200 100).toSubscriber { device := "olt" } = .ok others ∧
      (client 201 101).toSubscriber { device := "olt" } = .ok rules ∧
      ∀ r ∈ rules, (((empty.run (.ofRules .add others)).run (.ofRules .add rules)).run
        (.ofRules .remove others)).Holds r := by
  refine ⟨_, _, rfl, rfl, ?_⟩
  obtain ⟨serving, classifying, same, -, -, classifies, serves⟩ :=
    left_of_removed { device := "olt" }
      (show (client 200 100).toSubscriber _ = .ok _ from rfl)
      (show (client 201 101).toSubscriber _ = .ok _ from rfl)
      (by decide) (by decide) rfl rfl rfl empty
  rw [if_neg (by decide)] at serves
  intro r member
  rw [same, List.mem_pair] at member
  rcases member with rfl | rfl
  · exact serves
  · exact classifies

/-- Of two clients with one customer tag under different service tags, the second loses
its rule in the service table. -/
theorem sharedCustomer_lost :
    ∃ others rules, (client 200 100).toSubscriber { device := "olt" } = .ok others ∧
      (client 201 100).toSubscriber { device := "olt" } = .ok rules ∧
      (∀ x ∈ others, ∀ r ∈ rules, x.table = 0 → r.table = 0 → x.selector ≠ r.selector) ∧
      ∃ r ∈ rules, ¬(((empty.run (.ofRules .add others)).run (.ofRules .add rules)).run
        (.ofRules .remove others)).Holds r := by
  refine ⟨_, _, rfl, rfl, by decide, _, List.mem_cons_self, ?_⟩
  rw [Holds, run_remove]
  exact nofun

end FlowTable
end LineTerminal
