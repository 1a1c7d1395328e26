import LineTerminal.Proofs.Precedence
import LineTerminal.Proofs.Selector
import LineTerminal.Proofs.Session.Verdict

/-!
# Which forwarding objectives are accepted

Multicast traffic, the first push or pop of a tag and the layer-2 instructions tell which course a
forwarding objective takes.  On each course some flaws are looked for, and the first one decides how
the objective is refused.  An objective without these flaws comes down to rules.
-/

namespace LineTerminal

/-! ### Instructions that are there -/

namespace Instruction

/-- So many pairs there are if there are so many operations and so many identifiers. -/
theorem length_vlanPairs_eq_iff
    (op : VlanOp)
    (instructions : List Instruction)
    {n : Nat}
    (pos : n ≠ 0) :
    (vlanPairs op instructions).length = n ↔
      instructions.countP (·.IsVlan op) = n ∧ instructions.countP (·.IsVlan .setId) = n := by
  simp only [vlanPairs, vlanOps, ← List.countP_eq_length_filter]
  -- If the numbers differ, nothing is paired at all.
  split
  · next same =>
    rw [List.length_zip, ← List.countP_eq_length_filter, ← List.countP_eq_length_filter, ← same]
    omega
  · next differ =>
    rw [List.length_nil]
    omega

end Instruction

namespace Treatment
variable {t : Treatment}

theorem output?_eq_none_iff : t.output? = none ↔ ∀ i ∈ t.all, i.action ≠ .output := by
  simp [output?, Instruction.first?]

theorem mem_of_output? {i : Instruction} (found : t.output? = some i) :
    i ∈ t.all ∧ i.action = .output := by
  have first : IsFirst (·.action = .output) t.all i := find?_eq_some_iff_isFirst.mp found
  exact ⟨first.mem, first.holds⟩

/-- The instruction pushes or pops a tag. -/
def Turns (i : Instruction) : Prop := i.IsVlan .push ∨ i.IsVlan .pop

/-- The direction that an instruction tells. -/
def turn? (i : Instruction) : Option VlanOp :=
  if i.IsVlan .push then some .push
  else if i.IsVlan .pop then some .pop
  else none

theorem turn?_eq_none_iff {i : Instruction} : turn? i = none ↔ ¬Turns i := by
  unfold turn? Turns
  grind

theorem turn?_eq_some_iff {i : Instruction} {op : VlanOp} :
    turn? i = some op ↔ Turns i ∧ i.vlanOp = some op := by
  unfold turn? Turns Instruction.IsVlan
  grind

/-- The direction is told by the first push or pop. -/
theorem pushOrPop?_eq_some_iff {op : VlanOp} :
    t.pushOrPop? = some op ↔ ∃ i, IsFirst Turns t.all i ∧ i.vlanOp = some op := by
  change t.all.findSome? turn? = some op ↔ _
  rw [List.findSome?_eq_some_iff]
  simp only [turn?_eq_none_iff, turn?_eq_some_iff]
  constructor
  · rintro ⟨before, i, after, split, ⟨turns, told⟩, others⟩
    exact ⟨i, ⟨before, after, split, turns, others⟩, told⟩
  · rintro ⟨i, ⟨before, after, split, turns, others⟩, told⟩
    exact ⟨before, i, after, split, ⟨turns, told⟩, others⟩

theorem pushOrPop?_eq_none_iff : t.pushOrPop? = none ↔ ∀ i ∈ t.all, ¬Turns i := by
  change t.all.findSome? turn? = none ↔ _
  simp only [List.findSome?_eq_none_iff, turn?_eq_none_iff]

end Treatment

namespace ForwardingObjective
open Session

/-- What makes up the traffic of an objective. -/
inductive Course where
  /-- The destination is multicast. -/
  | multicast
  /-- The first push or pop is a push. -/
  | fromSubscriber
  /-- The first push or pop is a pop. -/
  | toSubscriber
  /-- There are layer-2 instructions, but neither push nor pop. -/
  | noDirection
  /-- There are no layer-2 instructions. -/
  | passthrough

/-- The destination of an objective is a block of addresses. -/
def Destined (o : ForwardingObjective) (block : Network.Block) : Prop :=
  ∃ c ∈ o.selector.toList, c.field = .ipv4Destination ∧
    Network.Block.ofText? c.value.plain.toList = some block

/-- The destination is multicast. -/
def ToMany (o : ForwardingObjective) : Prop := ∃ block, o.Destined block ∧ block.isMulticast = true

/-- Which course an objective takes. -/
def Takes (o : ForwardingObjective) : Course → Prop
  | .multicast => o.ToMany
  | .fromSubscriber => ¬o.ToMany ∧
      ∃ i, IsFirst Treatment.Turns o.treatment.all i ∧ i.vlanOp = some .push
  | .toSubscriber => ¬o.ToMany ∧
      ∃ i, IsFirst Treatment.Turns o.treatment.all i ∧ i.vlanOp = some .pop
  | .noDirection => ¬o.ToMany ∧ (∀ i ∈ o.treatment.all, ¬Treatment.Turns i) ∧
      ∃ i ∈ o.treatment.all, i.action = .layer2
  | .passthrough => ¬o.ToMany ∧ ∀ i ∈ o.treatment.all, i.action ≠ .layer2

/-- What can be wrong with a forwarding objective. -/
inductive Flaw where
  /-- No next objective is named. -/
  | noNextId
  /-- Nothing is stored for the next objective. -/
  | noRecord
  /-- What is stored for the next objective is no record. -/
  | unreadable
  /-- The device has no group under the stored key. -/
  | noGroup
  /-- Not just two tags are pushed and two identifiers set. -/
  | notTwoTags
  /-- The inner tag is fixed, and not just one tag is popped and one identifier set. -/
  | notOneTag
  /-- No instruction is an output. -/
  | noOutput
  /-- No criterion is on a field. -/
  | missing (field : Field)
  /-- The layer-2 instructions tell no direction. -/
  | noDirection

namespace Flaw

/-- The failure that is reported for a flaw. -/
def code : Flaw → ErrorCode
  | noNextId | notTwoTags | notOneTag | noOutput | missing _ => .badParameters
  | noRecord | unreadable | noGroup => .groupMissing
  | noDirection => .unsupported

/-- What is stored for the next objective of an objective. -/
def Stored (w : World) (o : ForwardingObjective) (decoded : Except GroupRecord.Error GroupKey) :
    Prop :=
  ∃ record data, lookupPair? o.nextId w.records = some record ∧ record.data = some data ∧
    GroupRecord.decode (data.getD []) = decoded

/-- Whether an objective for a device has a flaw. -/
def In (w : World) (device : String) (o : ForwardingObjective) : Flaw → Prop
  | noNextId => o.nextId = .absent
  | noRecord => lookupPair? o.nextId w.records = none
  | unreadable => ∃ e, Stored w o (.error e)
  | noGroup => ∃ key, Stored w o (.ok key) ∧ lookupPair? (device, key) w.groups = none
  | notTwoTags => ¬(o.treatment.all.countP (·.IsVlan .push) = 2 ∧
      o.treatment.all.countP (·.IsVlan .setId) = 2)
  | notOneTag => .innerVlan (.number WellKnown.vlanAny) ∉ o.selector.toList ∧
      ¬(o.treatment.all.countP (·.IsVlan .pop) = 1 ∧
        o.treatment.all.countP (·.IsVlan .setId) = 1)
  | noOutput => ∀ i ∈ o.treatment.all, i.action ≠ .output
  | missing field => ∀ c ∈ o.selector.toList, c.field ≠ field
  | noDirection => (∀ i ∈ o.treatment.all, ¬Treatment.Turns i) ∧
      ∃ i ∈ o.treatment.all, i.action = .layer2

end Flaw

/-- The flaws that are looked for on a course, in order. -/
def Course.flaws : Course → List Flaw
  | multicast => [.noNextId, .noRecord, .unreadable, .noGroup]
  | fromSubscriber => [.notTwoTags, .noOutput, .missing .inPort]
  | toSubscriber =>
    [.noOutput, .missing .vlan, .missing .innerVlan, .missing .inPort, .notOneTag]
  | noDirection => [.noDirection]
  | passthrough => [.noOutput, .missing .inPort, .missing .vlan, .missing .innerVlan]

/-- The operands of an objective can be read. -/
structure Legible (o : ForwardingObjective) : Prop where
  /-- A destination is a block of addresses. -/
  destination : ∀ c ∈ o.selector.toList, c.field = .ipv4Destination →
    ∃ block, Network.Block.ofText? c.value.plain.toList = some block
  /-- An inner VLAN is a number. -/
  innerVlan : ∀ c ∈ o.selector.toList, c.field = .innerVlan → ∃ n, c.value = .number n
  /-- The port of an output is a number. -/
  output : ∀ i ∈ o.treatment.all, i.action = .output → ∃ n, i.value = .number n

/-! ### The checks -/

section
variable {w : World}
variable {device : String}
variable {o : ForwardingObjective}
variable {l : Layout}

theorem checks_output {r : Refusal} (code_eq : r.code = .badParameters) :
    Checks (Flaw.In w device o) Flaw.code [.noOutput] (orRefuse r o.treatment.output?) fun output =>
      o.treatment.output? = some output :=
  .orRefuse Flaw.noOutput code_eq Treatment.output?_eq_none_iff

theorem checks_criterion {r : Refusal} (code_eq : r.code = .badParameters) (field : Field) :
    Checks (Flaw.In w device o) Flaw.code [.missing field] (orRefuse r (o.selector.get? field))
      fun c => o.selector.get? field = some c :=
  .orRefuse (Flaw.missing field) code_eq Selector.get?_eq_none_iff

theorem checks_passthrough :
    Checks (Flaw.In w device o) Flaw.code Course.passthrough.flaws (o.passthrough l) (· ≠ []) := by
  refine .bind (checks_output rfl) fun output _ => ?_
  refine .bind (checks_criterion rfl .inPort) fun inPort _ => ?_
  refine .bind (checks_criterion rfl .vlan) fun outerVlan _ => ?_
  exact .bind (checks_criterion rfl .innerVlan) fun innerVlan _ => .ok (List.cons_ne_nil _ _)

theorem checks_fromSubscriber :
    Checks (Flaw.In w device o) Flaw.code Course.fromSubscriber.flaws (o.fromSubscriber l)
      (· ≠ []) := by
  have two_iff := Instruction.length_vlanPairs_eq_iff .push o.treatment.all (Nat.succ_ne_zero 1)
  unfold fromSubscriber
  split
  · next inner outer pairs =>
    rw [pairs] at two_iff
    refine .skip (fun flaw => flaw (two_iff.mp rfl)) ?_
    refine .bind (checks_output rfl) fun output _ => ?_
    refine .bind (checks_criterion rfl .inPort) fun inPort _ => ?_
    split
    · exact .ok (List.cons_ne_nil _ _)
    · exact .ok (List.cons_ne_nil _ _)
  · next other =>
    have flawed : Flaw.notTwoTags.In w device o := by
      intro two
      obtain ⟨inner, outer, pairs⟩ := List.length_eq_two.mp (two_iff.mpr two)
      exact other inner outer pairs
    exact .stop flawed rfl

theorem checks_toSubscriber (legible : o.Legible) :
    Checks (Flaw.In w device o) Flaw.code Course.toSubscriber.flaws (o.toSubscriber l)
      (· ≠ []) := by
  refine .bind (checks_output rfl) fun output sends => ?_
  refine .bind (checks_criterion rfl .vlan) fun outerVlan _ => ?_
  refine .bind (checks_criterion rfl .innerVlan) fun innerVlan inner => ?_
  refine .bind (checks_criterion rfl .inPort) fun inPort _ => ?_
  obtain ⟨listed, on_inner⟩ := Selector.get?_eq_some_iff.mp inner
  obtain ⟨vid, vid_eq⟩ := legible.innerVlan innerVlan listed on_inner
  obtain ⟨carried, is_output⟩ := Treatment.mem_of_output? sends
  obtain ⟨port, port_eq⟩ := legible.output output carried is_output
  -- Both operands are packed into the metadata, which is a fault unless both are numbers.
  have packed : Metadata.pack? innerVlan.value output.value = some (Metadata.pack vid port) := by
    rw [vid_eq, port_eq]
    rfl
  have any_iff := Selector.mem_iff_of_get? inner (.number WellKnown.vlanAny)
  rw [packed]
  dsimp only
  split
  · next any => exact .skip (fun flaw => flaw.1 (any_iff.mpr any)) (.ok (List.cons_ne_nil _ _))
  · next fixed =>
    have one_iff := Instruction.length_vlanPairs_eq_iff .pop o.treatment.all Nat.one_ne_zero
    split
    · next pair pairs =>
      rw [pairs] at one_iff
      exact .skip (fun flaw => flaw.2 (one_iff.mp rfl)) (.ok (List.cons_ne_nil _ _))
    · next other =>
      have flawed : Flaw.notOneTag.In w device o := by
        refine ⟨fun any => fixed (any_iff.mp any), fun one => ?_⟩
        obtain ⟨pair, pairs⟩ := List.length_eq_one_iff.mp (one_iff.mpr one)
        exact other pair pairs
      exact .stop flawed rfl

theorem stored_iff_of_lookup
    {record : StoredRecord}
    (found : lookupPair? o.nextId w.records = some record)
    {data : Option Bytes}
    (data_eq : record.data = some data)
    (decoded : Except GroupRecord.Error GroupKey) :
    Flaw.Stored w o decoded ↔ GroupRecord.decode (data.getD []) = decoded := by
  constructor
  · rintro ⟨record', data', found', data_eq', decodes⟩
    cases found.symm.trans found'
    cases data_eq.symm.trans data_eq'
    exact decodes
  · exact fun decodes => ⟨record, data, found, data_eq, decodes⟩

/-- A stored key is decoded, and its group looked up. -/
theorem checks_decode
    {p : Pipeline}
    {data : Bytes}
    (stored_iff : ∀ decoded, Flaw.Stored w o decoded ↔ GroupRecord.decode data = decoded) :
    Checks (Flaw.In w p.device o) Flaw.code [.unreadable, .noGroup]
      (match GroupRecord.decode data with
        | .error e => .error (.refused (.unreadableRecord o.nextId e))
        | .ok key =>
          match lookupPair? (p.device, key) w.groups with
          | none => .error (.refused (.groupNotInstalled key))
          | some group => .ok group.id)
      fun _ => True := by
  cases decodes : GroupRecord.decode data with
  | error e =>
      have flawed : Flaw.unreadable.In w p.device o := ⟨e, (stored_iff _).mpr decodes⟩
      exact .stop flawed rfl
  | ok key =>
      have readable : ¬Flaw.unreadable.In w p.device o := by
        rintro ⟨e, stored⟩
        cases decodes.symm.trans ((stored_iff _).mp stored)
      refine .skip readable ?_
      dsimp only
      cases installed : lookupPair? (p.device, key) w.groups with
      | none =>
          have flawed : Flaw.noGroup.In w p.device o :=
            ⟨key, (stored_iff _).mpr decodes, installed⟩
          exact .stop flawed rfl
      | some group =>
          have absent : ¬Flaw.noGroup.In w p.device o := by
            rintro ⟨key', stored, missing⟩
            cases decodes.symm.trans ((stored_iff _).mp stored)
            cases installed.symm.trans missing
          exact .skip absent (.ok trivial)

/-- The group of a next objective is looked up in three steps. -/
theorem checks_groupOf
    {p : Pipeline}
    (readable : ∀ record, lookupPair? o.nextId w.records = some record →
      ∃ data, record.data = some data) :
    Checks (Flaw.In w p.device o) Flaw.code Course.multicast.flaws (groupOf w p o.nextId)
      fun _ => True := by
  unfold groupOf
  split
  · next unnamed =>
    have flawed : Flaw.noNextId.In w p.device o := unnamed
    exact .stop flawed rfl
  · next named =>
    have present : ¬Flaw.noNextId.In w p.device o := named
    refine .skip present ?_
    cases found : lookupPair? o.nextId w.records with
    | none =>
        have flawed : Flaw.noRecord.In w p.device o := found
        exact .stop flawed rfl
    | some record =>
        obtain ⟨data, data_eq⟩ := readable record found
        have stored : ¬Flaw.noRecord.In w p.device o := fun missing =>
          nomatch found.symm.trans missing
        refine .skip stored ?_
        dsimp only
        rw [data_eq]
        exact checks_decode (stored_iff_of_lookup found data_eq)

/-- A destination that can be read is multicast or not. -/
theorem isMulticast_eq_ok
    (readable : ∀ c ∈ o.selector.toList, c.field = .ipv4Destination →
      ∃ block, Network.Block.ofText? c.value.plain.toList = some block) :
    ∃ many, o.selector.isMulticast = .ok many ∧ (many = true ↔ o.ToMany) := by
  unfold Selector.isMulticast
  cases found : o.selector.get? .ipv4Destination with
  | none =>
      refine ⟨false, rfl, ⟨fun many => (Bool.false_ne_true many).elim, ?_⟩⟩
      rintro ⟨block, ⟨c, member, on_destination, -⟩, -⟩
      exact absurd on_destination (Selector.get?_eq_none_iff.mp found c member)
  | some c =>
      obtain ⟨member, on_destination⟩ := Selector.get?_eq_some_iff.mp found
      obtain ⟨block, reads⟩ := readable c member on_destination
      dsimp only
      rw [reads]
      refine ⟨block.isMulticast, rfl, fun many => ?_, ?_⟩
      · exact ⟨block, ⟨c, member, on_destination, reads⟩, many⟩
      rintro ⟨block', ⟨c', member', on_destination', reads'⟩, many⟩
      have other := Selector.get?_eq_some_iff.mpr ⟨member', on_destination'⟩
      cases found.symm.trans other
      cases reads.symm.trans reads'
      exact many

/-- The rules of an objective are checked for the flaws of its course. -/
theorem checks_compile
    {p : Pipeline}
    (legible : o.Legible)
    (readable : ∀ record, lookupPair? o.nextId w.records = some record →
      ∃ data, record.data = some data)
    {course : Course}
    (takes : o.Takes course) :
    Checks (Flaw.In w p.device o) Flaw.code course.flaws (o.compile l (groupOf w p)) (· ≠ []) := by
  obtain ⟨many, judged, many_iff⟩ := isMulticast_eq_ok legible.destination
  have other (not_many : ¬o.ToMany) : o.compile l (groupOf w p) = o.unicast l := by
    unfold compile
    rw [judged, Bool.eq_false_iff.mpr (mt many_iff.mp not_many)]
  cases course with
  | multicast =>
      unfold compile
      rw [judged, many_iff.mpr takes]
      exact .bind (checks_groupOf readable) fun group _ => .ok (List.cons_ne_nil _ _)
  | fromSubscriber =>
      obtain ⟨not_many, turn⟩ := takes
      rw [other not_many, unicast, Treatment.pushOrPop?_eq_some_iff.mpr turn]
      exact checks_fromSubscriber
  | toSubscriber =>
      obtain ⟨not_many, turn⟩ := takes
      rw [other not_many, unicast, Treatment.pushOrPop?_eq_some_iff.mpr turn]
      exact checks_toSubscriber legible
  | noDirection =>
      obtain ⟨not_many, straight, i, member, layer2⟩ := takes
      have flawed : Flaw.noDirection.In w p.device o := ⟨straight, i, member, layer2⟩
      have some_layer2 : o.treatment.all.any (·.action = .layer2) = true :=
        List.any_eq_true.mpr ⟨i, member, decide_eq_true layer2⟩
      rw [other not_many, unicast, Treatment.pushOrPop?_eq_none_iff.mpr straight]
      dsimp only
      rw [if_pos some_layer2]
      exact .stop flawed rfl
  | passthrough =>
      obtain ⟨not_many, no_layer2⟩ := takes
      have straight : ∀ i ∈ o.treatment.all, ¬Treatment.Turns i := fun i member turns =>
        no_layer2 i member (turns.elim And.left And.left)
      have none_layer2 : ¬o.treatment.all.any (·.action = .layer2) = true := by
        simpa using no_layer2
      rw [other not_many, unicast, Treatment.pushOrPop?_eq_none_iff.mpr straight]
      dsimp only
      rw [if_neg none_layer2]
      exact checks_passthrough

/-- Every objective takes some course. -/
theorem exists_takes (o : ForwardingObjective) : ∃ course, o.Takes course := by
  by_cases many : o.ToMany
  · exact ⟨.multicast, many⟩
  by_cases turning : ∃ i, IsFirst Treatment.Turns o.treatment.all i
  · obtain ⟨i, first⟩ := turning
    rcases first.holds with push | pop
    · exact ⟨.fromSubscriber, many, i, first, push.2⟩
    · exact ⟨.toSubscriber, many, i, first, pop.2⟩
  · have straight : ∀ i ∈ o.treatment.all, ¬Treatment.Turns i := fun i member turns =>
      turning (exists_isFirst_iff.mpr ⟨i, member, turns⟩)
    by_cases layer2 : ∃ i ∈ o.treatment.all, i.action = .layer2
    · exact ⟨.noDirection, many, straight, layer2⟩
    · exact ⟨.passthrough, many, fun i member is_layer2 => layer2 ⟨i, member, is_layer2⟩⟩

end

/-- The verdict on an objective that comes down to some rules. -/
def verdict (rules : List Rule) : Operation → Verdict
  | .add => .submitted (.ofRules .add rules)
  | .remove => .submitted (.ofRules .remove rules)
  | .addToExisting | .removeFromExisting => .done

end ForwardingObjective

namespace Session
open ForwardingObjective

/--
Every forwarding objective takes a course.  With flaws it is refused for the first one.  Without
flaws it comes down to rules, which are installed or removed in one batch; the two operations on
buckets succeed without a batch.
-/
theorem forward_judged
    (nested : Nested)
    (p : Pipeline)
    (ticket : Ticket)
    (w : World)
    {o : ForwardingObjective}
    (legible : o.Legible)
    {operation : Operation}
    (known : o.operation = some operation)
    (readable : ∀ record, lookupPair? o.nextId w.records = some record →
      ∃ data, record.data = some data) :
    (∃ course, o.Takes course) ∧ ∀ course, o.Takes course →
      ((∃ flaw : Flaw, IsFirst (Flaw.In w p.device o) course.flaws flaw ∧
        (Verdict.refused flaw.code).Given nested .forwarding p ticket
          (forward nested p ticket o) w) ∨
      (∀ flaw ∈ course.flaws, ¬Flaw.In w p.device o flaw) ∧
        ∃ rules, o.compile p.layout (groupOf w p) = .ok rules ∧ rules ≠ [] ∧
          (ForwardingObjective.verdict rules operation).Given nested .forwarding p ticket
            (forward nested p ticket o) w) := by
  refine ⟨exists_takes o, fun course takes => ?_⟩
  have opened : (forward nested p ticket o).runIn w = _ := Act.runIn_bind get _ w
  rcases (checks_compile (l := p.layout) legible readable takes).total with
    ⟨flaw, r, first, code_eq, refused⟩ | ⟨absent, rules, passed, some_rule⟩
  · refine .inl ⟨flaw, first, Verdict.given_of_done ⟨r, code_eq, ?_⟩⟩
    rw [opened]
    dsimp only [Act.runIn_get]
    rw [refused]
  · refine .inr ⟨absent, rules, passed, some_rule, Verdict.given_of_done ?_⟩
    obtain ⟨rule, others, rfl⟩ := List.exists_cons_of_ne_nil some_rule
    cases operation with
    | add | remove | addToExisting | removeFromExisting =>
        change (forward nested p ticket o).runIn w = _
        rw [opened]
        dsimp only [Act.runIn_get]
        rw [passed, known]
        rfl

/-- An objective that pops two tags of a client who takes any customer tag. -/
def wildcardForward : ForwardingObjective :=
  { selector := .ofList
      [.inPort (.number 65536), .vlan (.number 100), .innerVlan (.number WellKnown.vlanAny)]
    treatment := { immediate := [.popVlan, .popVlan], deferred := [.output (.number 7)] }
    priority := 1000
    app := "olt"
    operation := some .remove
    nextId := .absent }

/-- For a client who takes any customer tag it does not matter how many tags are popped. -/
theorem forward_judged_wildcard :
    let p : Pipeline := { device := "of:1", settings := usualSettings }
    let ticket : Ticket := { serial := 0, tag := "wildcard", reaction := .silent }
    ∃ rules, rules ≠ [] ∧
      (Verdict.submitted (.ofRules .remove rules)).Given (reactTo 0) .forwarding p ticket
        (forward (reactTo 0) p ticket wildcardForward) {} := by
  intro p ticket
  have criteria_eq : wildcardForward.selector.toList =
      [.inPort (.number 65536), .vlan (.number 100), .innerVlan (.number WellKnown.vlanAny)] := rfl
  have no_destination : ∀ c ∈ wildcardForward.selector.toList, c.field ≠ .ipv4Destination := by
    decide
  have operands : ∀ i ∈ wildcardForward.treatment.all, i.action = .output →
      i = .output (.number 7) := by
    decide
  have legible : wildcardForward.Legible :=
    { destination := fun c member on_destination => absurd on_destination (no_destination c member)
      innerVlan := by
        intro c member _
        rw [criteria_eq, List.mem_cons, List.mem_cons, List.mem_singleton] at member
        rcases member with rfl | rfl | rfl <;> exact ⟨_, rfl⟩
      output := fun i member is_output => ⟨7, by rw [operands i member is_output]; rfl⟩ }
  have not_many : ¬wildcardForward.ToMany := by
    rintro ⟨block, ⟨c, member, on_destination, -⟩, -⟩
    exact no_destination c member on_destination
  have first : IsFirst Treatment.Turns wildcardForward.treatment.all .popVlan :=
    ⟨[], _, rfl, .inr ⟨rfl, rfl⟩, by simp⟩
  have takes : wildcardForward.Takes .toSubscriber := ⟨not_many, .popVlan, first, rfl⟩
  obtain ⟨-, judged⟩ := forward_judged (reactTo 0) p ticket {} legible
    (show wildcardForward.operation = some .remove from rfl) fun _ found => nomatch found
  rcases judged .toSubscriber takes with ⟨flaw, found, -⟩ | ⟨-, rules, -, some_rule, given⟩
  · have flawed := found.holds
    have member := found.mem
    simp only [Course.flaws, List.mem_cons, List.not_mem_nil, or_false] at member
    rcases member with rfl | rfl | rfl | rfl | rfl
    · exact absurd rfl (flawed (.output (.number 7)) (by decide))
    · exact absurd rfl (flawed (.vlan (.number 100)) (by decide))
    · exact absurd rfl (flawed (.innerVlan (.number WellKnown.vlanAny)) (by decide))
    · exact absurd rfl (flawed (.inPort (.number 65536)) (by decide))
    · exact absurd (by decide) flawed.1
  · exact ⟨rules, some_rule, given⟩

end Session
end LineTerminal
