import LineTerminal.Proofs.Precedence
import LineTerminal.Rule.Translation

/-!
# What objectives come down to

An objective comes down to rules, is refused, or ends in a fault.  There is always a rule when it
comes down to rules.  A filter whose ether type is a number ends in no fault.  A forwarding objective
ends in one for three reasons: its destination cannot be read, its group cannot be looked up, or the
operands that are packed into metadata are not numbers.
-/

namespace LineTerminal

section
variable {α β : Type}

theorem bind_eq_ok_iff {x : Except Rejection α} {rest : α → Except Rejection β} {b : β} :
    (x >>= rest) = .ok b ↔ ∃ a, x = .ok a ∧ rest a = .ok b := by
  cases x with
  | ok a => simp [bind, Except.bind]
  | error e => simp [bind, Except.bind]

/-- A fault is that of the first part, or that of the rest. -/
theorem bind_eq_fault_iff {x : Except Rejection α} {rest : α → Except Rejection β} {f : Fault} :
    (x >>= rest) = .error (.fault f) ↔
      x = .error (.fault f) ∨ ∃ a, x = .ok a ∧ rest a = .error (.fault f) := by
  cases x with
  | ok a => simp [bind, Except.bind]
  | error e => simp [bind, Except.bind]

theorem orRefuse_eq_ok_iff {r : Refusal} {o : Option α} {a : α} :
    orRefuse r o = .ok a ↔ o = some a := by
  cases o <;> simp [orRefuse]

theorem orRefuse_ne_fault (r : Refusal) (o : Option α) (f : Fault) :
    orRefuse r o ≠ .error (.fault f) := by
  cases o <;> simp [orRefuse]

theorem require_ne_fault (condition : Prop) [Decidable condition] (r : Refusal) (f : Fault) :
    require condition r ≠ .error (.fault f) := by
  unfold require
  split <;> simp

end

/-! ### Filters -/

namespace FilteringObjective
variable {o : FilteringObjective}
variable {l : Layout}

/-- A filter comes down to one rule at least. -/
theorem compile_ne_nil
    {change : Change}
    {rules : List Rule}
    (compiled : o.compile l = .ok (change, rules)) :
    rules ≠ [] := by
  simp only [compile, bind_eq_ok_iff] at compiled
  obtain ⟨output, -, selector, -, change, -, rules_eq⟩ := compiled
  cases rules_eq
  exact List.cons_ne_nil _ _

theorem ipv4Criteria_ne_fault (f : Fault) : o.ipv4Criteria ≠ .error (.fault f) := by
  unfold ipv4Criteria
  simp only [ne_eq, bind_eq_fault_iff, orRefuse_ne_fault, false_or, not_exists, not_and]
  intro protocol _
  split
  · exact nofun
  · split
    · simp only [bind_eq_fault_iff, orRefuse_ne_fault, require_ne_fault, false_or, not_exists,
        not_and]
      exact fun _ _ _ _ _ _ => nofun
    · exact nofun

theorem trapSelector_ne_fault
    (numeric : ∀ c ∈ o.conditions, c.field = .etherType → ∃ n, c.value = .number n)
    (f : Fault) :
    o.trapSelector ≠ .error (.fault f) := by
  have port : o.portKey ≠ .error (.fault f) := by
    unfold portKey
    split
    · split <;> exact nofun
    · exact nofun
  unfold trapSelector
  simp only [ne_eq, bind_eq_fault_iff, port, orRefuse_eq_ok_iff, orRefuse_ne_fault, false_or,
    not_exists, not_and]
  intro key _ etherType found
  split
  · exact nofun
  · split
    · simp only [bind_eq_fault_iff, ipv4Criteria_ne_fault, false_or, not_exists, not_and]
      exact fun _ _ => nofun
    · obtain ⟨n, value_eq⟩ := numeric etherType (List.mem_of_find?_eq_some found)
        (of_decide_eq_true (List.find?_eq_some_iff_append.mp found).1)
      rw [value_eq]
      exact nofun

/-- A filter whose ether type is a number can be judged. -/
theorem compile_ne_fault
    (numeric : ∀ c ∈ o.conditions, c.field = .etherType → ∃ n, c.value = .number n)
    (f : Fault) :
    o.compile l ≠ .error (.fault f) := by
  have output : o.trapOutput ≠ .error (.fault f) := by
    unfold trapOutput
    simp only [ne_eq, bind_eq_fault_iff, orRefuse_ne_fault, require_ne_fault, false_or, not_exists,
      not_and]
    exact fun _ _ _ _ => nofun
  have change : o.change ≠ .error (.fault f) := by
    unfold change
    split <;> exact nofun
  unfold compile
  simp only [ne_eq, bind_eq_fault_iff, output, trapSelector_ne_fault numeric, change, false_or,
    not_exists, not_and]
  exact fun _ _ _ _ _ _ => nofun

end FilteringObjective

/-! ### Forwarding objectives -/

namespace ForwardingObjective
variable {o : ForwardingObjective}
variable {l : Layout}
variable {groupOf : Value → Except Rejection Value}

/-- What an objective from the subscriber comes down to, and when. -/
theorem fromSubscriber_eq_ok_iff {rules : List Rule} :
    o.fromSubscriber l = .ok rules ↔
      ∃ inner outer output inPort,
        Instruction.vlanPairs .push o.treatment.all = [inner, outer] ∧
        o.treatment.output? = some output ∧ o.selector.get? .inPort = some inPort ∧
        rules = if o.selector.matchesAnyVlan then o.fromSubscriberAny l output inPort outer.2
          else o.fromSubscriberFixed l output inPort inner outer := by
  unfold fromSubscriber
  split
  · next inner outer pairs =>
    simp only [bind_eq_ok_iff, orRefuse_eq_ok_iff, pairs]
    constructor
    · rintro ⟨output, sends, inPort, port, accepted⟩
      refine ⟨inner, outer, output, inPort, rfl, sends, port, ?_⟩
      split at accepted
      · next any => rw [if_pos any, Except.ok.inj accepted]
      · next fixed => rw [if_neg fixed, Except.ok.inj accepted]
    · rintro ⟨inner', outer', output, inPort, same, sends, port, rfl⟩
      cases same
      refine ⟨output, sends, inPort, port, ?_⟩
      split <;> rfl
  · next other =>
    refine ⟨nofun, ?_⟩
    rintro ⟨inner, outer, -, -, pairs, -⟩
    exact absurd pairs (other inner outer)

/-- What an objective to the subscriber comes down to, and when. -/
theorem toSubscriber_eq_ok_iff {rules : List Rule} :
    o.toSubscriber l = .ok rules ↔
      ∃ output outerVlan innerVlan inPort word,
        o.treatment.output? = some output ∧ o.selector.get? .vlan = some outerVlan ∧
        o.selector.get? .innerVlan = some innerVlan ∧ o.selector.get? .inPort = some inPort ∧
        Metadata.pack? innerVlan.value output.value = some word ∧
        (innerVlan.value = .number WellKnown.vlanAny ∧
            rules = o.toSubscriberAny l output
              (.ofList [inPort, outerVlan, .metadata (.number word)]) inPort ∨
          innerVlan.value ≠ .number WellKnown.vlanAny ∧
            ∃ pair, Instruction.vlanPairs .pop o.treatment.all = [pair] ∧
              rules = o.toSubscriberFixed l output
                (.ofList [inPort, outerVlan, .metadata (.number word)]) inPort innerVlan.value
                pair) := by
  unfold toSubscriber
  simp only [bind_eq_ok_iff, orRefuse_eq_ok_iff]
  constructor
  · rintro ⟨output, sends, outerVlan, outer, innerVlan, inner, inPort, port, accepted⟩
    split at accepted
    · next word packed =>
      refine ⟨output, outerVlan, innerVlan, inPort, word, sends, outer, inner, port, packed, ?_⟩
      split at accepted
      · next any => exact .inl ⟨any, (Except.ok.inj accepted).symm⟩
      · next fixed =>
        split at accepted
        · next pair pairs => exact .inr ⟨fixed, pair, pairs, (Except.ok.inj accepted).symm⟩
        · cases accepted
    · cases accepted
  · rintro ⟨output, outerVlan, innerVlan, inPort, word, sends, outer, inner, port, packed, rest⟩
    refine ⟨output, sends, outerVlan, outer, innerVlan, inner, inPort, port, ?_⟩
    rw [packed]
    dsimp only
    rcases rest with ⟨any, rfl⟩ | ⟨fixed, pair, pairs, rfl⟩
    · rw [if_pos any]
      rfl
    · rw [if_neg fixed, pairs]
      rfl

theorem fromSubscriber_ne_fault (f : Fault) : o.fromSubscriber l ≠ .error (.fault f) := by
  unfold fromSubscriber
  split
  · simp only [ne_eq, bind_eq_fault_iff, orRefuse_ne_fault, false_or, not_exists, not_and]
    intro output _ inPort _
    split <;> exact nofun
  · exact nofun

theorem passthrough_ne_fault (f : Fault) : o.passthrough l ≠ .error (.fault f) := by
  unfold passthrough
  simp only [ne_eq, bind_eq_fault_iff, orRefuse_ne_fault, false_or, not_exists, not_and]
  exact fun _ _ _ _ _ _ _ _ => nofun

/-- The metadata cannot be made up that an objective to the subscriber needs. -/
def Unpacked (o : ForwardingObjective) : Prop :=
  ∃ output outerVlan innerVlan inPort, o.treatment.output? = some output ∧
    o.selector.get? .vlan = some outerVlan ∧ o.selector.get? .innerVlan = some innerVlan ∧
    o.selector.get? .inPort = some inPort ∧ Metadata.pack? innerVlan.value output.value = none

theorem toSubscriber_eq_fault_iff {f : Fault} :
    o.toSubscriber l = .error (.fault f) ↔ f = .notNumeric ∧ o.Unpacked := by
  unfold toSubscriber Unpacked
  simp only [bind_eq_fault_iff, orRefuse_eq_ok_iff, orRefuse_ne_fault, false_or]
  constructor
  · rintro ⟨output, sends, outerVlan, outer, innerVlan, inner, inPort, port, failed⟩
    cases packed : Metadata.pack? innerVlan.value output.value with
    | none =>
        rw [packed] at failed
        cases failed
        exact ⟨rfl, output, outerVlan, innerVlan, inPort, sends, outer, inner, port, packed⟩
    | some word =>
        rw [packed] at failed
        dsimp only at failed
        split at failed
        · cases failed
        · split at failed <;> cases failed
  · rintro ⟨rfl, output, outerVlan, innerVlan, inPort, sends, outer, inner, port, packed⟩
    refine ⟨output, sends, outerVlan, outer, innerVlan, inner, inPort, port, ?_⟩
    rw [packed]
    rfl

theorem unicast_eq_fault_iff {f : Fault} :
    o.unicast l = .error (.fault f) ↔
      f = .notNumeric ∧ (∃ op, o.treatment.pushOrPop? = some op ∧ op ≠ .push) ∧ o.Unpacked := by
  unfold unicast
  split
  · next push => simp [push, fromSubscriber_ne_fault]
  · next op other turn =>
    have turned : ∃ op, o.treatment.pushOrPop? = some op ∧ op ≠ .push := ⟨op, turn, other⟩
    rw [toSubscriber_eq_fault_iff]
    simp only [turned, true_and]
  · next straight =>
    split
    · simp [straight]
    · simp [straight, passthrough_ne_fault]

/-- The three reasons for which a forwarding objective ends in a fault. -/
theorem compile_eq_fault_iff {f : Fault} :
    o.compile l groupOf = .error (.fault f) ↔
      (∃ e, o.selector.isMulticast = .error e ∧ f = .unreadableNetwork e) ∨
      (o.selector.isMulticast = .ok true ∧ groupOf o.nextId = .error (.fault f)) ∨
      (o.selector.isMulticast = .ok false ∧ f = .notNumeric ∧
        (∃ op, o.treatment.pushOrPop? = some op ∧ op ≠ .push) ∧ o.Unpacked) := by
  unfold compile
  cases judged : o.selector.isMulticast with
  | error e =>
      have thrown : (throw (.fault (.unreadableNetwork e)) : Except Rejection (List Rule)) =
          .error (.fault f) ↔ f = .unreadableNetwork e :=
        ⟨fun h => by cases h; rfl, fun h => by rw [h]; rfl⟩
      simpa using thrown
  | ok many =>
      cases many with
      | true =>
          have made (group : Value) :
              (pure (o.multicast l group) : Except Rejection (List Rule)) ≠ .error (.fault f) :=
            nofun
          simp only [bind_eq_fault_iff, made]
          simp
      | false => simp [unicast_eq_fault_iff]

theorem fromSubscriber_ne_nil
    {rules : List Rule}
    (compiled : o.fromSubscriber l = .ok rules) :
    rules ≠ [] := by
  obtain ⟨inner, outer, output, inPort, -, -, -, rfl⟩ := fromSubscriber_eq_ok_iff.1 compiled
  split <;> exact List.cons_ne_nil _ _

theorem toSubscriber_ne_nil
    {rules : List Rule}
    (compiled : o.toSubscriber l = .ok rules) :
    rules ≠ [] := by
  obtain ⟨output, outerVlan, innerVlan, inPort, word, -, -, -, -, -,
    ⟨-, rfl⟩ | ⟨-, pair, -, rfl⟩⟩ := toSubscriber_eq_ok_iff.1 compiled
  · exact List.cons_ne_nil _ _
  · exact List.cons_ne_nil _ _

theorem passthrough_ne_nil
    {rules : List Rule}
    (compiled : o.passthrough l = .ok rules) :
    rules ≠ [] := by
  unfold passthrough at compiled
  simp only [bind_eq_ok_iff] at compiled
  obtain ⟨output, -, inPort, -, outerVlan, -, innerVlan, -, rules_eq⟩ := compiled
  cases rules_eq
  exact List.cons_ne_nil _ _

/-- A forwarding objective comes down to one rule at least. -/
theorem compile_ne_nil
    {rules : List Rule}
    (compiled : o.compile l groupOf = .ok rules) :
    rules ≠ [] := by
  unfold compile at compiled
  split at compiled
  · cases compiled
  · rw [bind_eq_ok_iff] at compiled
    obtain ⟨group, -, rules_eq⟩ := compiled
    cases rules_eq
    exact List.cons_ne_nil _ _
  · unfold unicast at compiled
    split at compiled
    · exact fromSubscriber_ne_nil compiled
    · exact toSubscriber_ne_nil compiled
    · split at compiled
      · cases compiled
      · exact passthrough_ne_nil compiled

end ForwardingObjective
end LineTerminal
