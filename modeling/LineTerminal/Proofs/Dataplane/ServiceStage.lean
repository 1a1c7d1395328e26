import LineTerminal.Proofs.Dataplane.Placement
import LineTerminal.Proofs.Translation

/-!
# The rule of the service stage

The batch for traffic from or to a subscriber has one rule in the service table.  It sends packets
to the first output of the objective, it has the first meter and the first transition of the
objective if there are any, and before these it does the work on the tags that is left for the
service stage.  The other rules of the batch sit in table 0.  One hands packets on to the service
table after work on their tags alone; a second one drops packets, and is only there if a subscriber
keeps any tag.
-/

namespace LineTerminal

namespace Instruction

/-- The instructions of one kind. -/
def ofKind (action : Action) (instructions : List Instruction) : List Instruction :=
  instructions.filter fun i => i.action = action

section
variable {action : Action} {instructions : List Instruction}

theorem ofKind_append (instructions others : List Instruction) :
    ofKind action (instructions ++ others) = ofKind action instructions ++ ofKind action others :=
  List.filter_append ..

/-- There is no instruction of a kind that no instruction has. -/
theorem ofKind_eq_nil (others : ∀ i ∈ instructions, i.action ≠ action) :
    ofKind action instructions = [] :=
  List.filter_eq_nil_iff.2 fun i listed => by simpa using others i listed

/-- The first instruction of a kind is of this kind and of no other. -/
theorem ofKind_first? (kind : Action) :
    ofKind action (first? kind instructions).toList =
      if kind = action then (first? kind instructions).toList else [] := by
  cases found : first? kind instructions with
  | none => simp [ofKind]
  | some i =>
      have isKind : i.action = kind := by simpa using List.find?_some found
      simp [ofKind, List.filter_cons, isKind]

end

end Instruction

namespace ForwardingObjective

/-- The rules for traffic of one direction. -/
def rulesFor (o : ForwardingObjective) (l : Layout) : Direction → Except Rejection (List Rule)
  | .fromSubscriber => o.fromSubscriber l
  | .toSubscriber => o.toSubscriber l

/-- The objective is for any customer tag. -/
def TakesAnyTag (o : ForwardingObjective) : Direction → Prop
  | .fromSubscriber => o.selector.matchesAnyVlan = true
  | .toSubscriber =>
      ∃ c, o.selector.get? .innerVlan = some c ∧ c.value = .number WellKnown.vlanAny

/-- The work on the tags that an objective leaves for the service stage. -/
inductive Retags (o : ForwardingObjective) : Direction → List Instruction → Prop
  /-- The second push and the second setting make up the service tag. -/
  | adds {push push' set set' : Instruction}
      (fixed : ¬o.TakesAnyTag .fromSubscriber)
      (pushes : Instruction.vlanOps .push o.treatment.all = [push, push'])
      (settings : Instruction.vlanOps .setId o.treatment.all = [set, set']) :
      Retags o .fromSubscriber [push', set']
  /-- On a tag that is kept, the push is always that of a service tag. -/
  | addsAny {push push' set set' : Instruction}
      (any : o.TakesAnyTag .fromSubscriber)
      (pushes : Instruction.vlanOps .push o.treatment.all = [push, push'])
      (settings : Instruction.vlanOps .setId o.treatment.all = [set, set']) :
      Retags o .fromSubscriber [.pushVlan (.number WellKnown.etherServiceVlan), set']
  /-- The customer tag is popped. -/
  | untags {pop set : Instruction}
      (fixed : ¬o.TakesAnyTag .toSubscriber)
      (pops : Instruction.vlanOps .pop o.treatment.all = [pop])
      (settings : Instruction.vlanOps .setId o.treatment.all = [set])
      (bare : set.value = .number WellKnown.vlanNone) :
      Retags o .toSubscriber [pop]
  /-- After the pop, the identifier is set that the subscriber knows. -/
  | retags {pop set : Instruction}
      (fixed : ¬o.TakesAnyTag .toSubscriber)
      (pops : Instruction.vlanOps .pop o.treatment.all = [pop])
      (settings : Instruction.vlanOps .setId o.treatment.all = [set])
      (tagged : set.value ≠ .number WellKnown.vlanNone) :
      Retags o .toSubscriber [pop, set]
  /-- A subscriber that takes any tag gets the customer tag as it is. -/
  | leaves (any : o.TakesAnyTag .toSubscriber) : Retags o .toSubscriber []

/-- The work on tags consists of layer-2 instructions. -/
theorem Retags.action_eq
    {o : ForwardingObjective}
    {d : Direction}
    {tags : List Instruction}
    (retags : o.Retags d tags)
    {i : Instruction}
    (listed : i ∈ tags) :
    i.action = .layer2 := by
  have ofOps {op : VlanOp} {ops : List Instruction}
      (all : Instruction.vlanOps op o.treatment.all = ops) (member : i ∈ ops) :
      i.action = .layer2 :=
    (Instruction.isVlan_of_mem_vlanOps (all ▸ member)).1
  cases retags with
  | adds _ pushes settings =>
      rcases List.mem_pair.1 listed with rfl | rfl
      · exact ofOps pushes (by simp)
      · exact ofOps settings (by simp)
  | addsAny _ _ settings =>
      rcases List.mem_pair.1 listed with rfl | rfl
      · rfl
      · exact ofOps settings (by simp)
  | untags _ pops => exact ofOps pops listed
  | retags _ pops settings =>
      rcases List.mem_pair.1 listed with rfl | rfl
      · exact ofOps pops (by simp)
      · exact ofOps settings (by simp)
  | leaves => cases listed

end ForwardingObjective

/-! ### The rules of a batch -/

namespace Rule
variable {r : Rule} {o : ForwardingObjective} {l : Layout} {d : Direction} {action : Action}

/-- A rule of the service stage for an objective. -/
structure Serves (r : Rule) (o : ForwardingObjective) (l : Layout) (d : Direction) : Prop where
  /-- It sits in the service table. -/
  table : r.table = l.serviceTable
  /-- It has the priority of the objective. -/
  priority : r.priority = o.priority
  /-- After the work on the tags there are the first meter and the first transition. -/
  immediate : ∃ tags, o.Retags d tags ∧ r.treatment.immediate =
    tags ++ (o.treatment.meter?.toList ++ o.treatment.transition?.toList)
  /-- Packets leave by the first output. -/
  deferred : ∃ output, o.treatment.output? = some output ∧ r.treatment.deferred = [output]

/-- A rule of table 0 that works on tags and hands packets on to the service stage. -/
structure HandsOn (r : Rule) (o : ForwardingObjective) (l : Layout) : Prop where
  /-- It sits in table 0. -/
  table : r.table = 0
  /-- It has the priority of the objective. -/
  priority : r.priority = o.priority
  /-- The last of its immediate instructions leads on, and all others work on tags. -/
  treatment : ∃ tags, r.treatment.immediate = tags ++ [l.toService] ∧
    ∀ i ∈ tags ++ r.treatment.deferred, i.action = .layer2

/-- A rule of table 0 that drops packets. -/
structure Discards (r : Rule) (l : Layout) : Prop where
  /-- It sits in table 0. -/
  table : r.table = 0
  /-- It has the priority of such rules. -/
  priority : r.priority = l.dropPriority
  /-- It does nothing with packets. -/
  treatment : r.treatment = .empty

/-- The instructions of one kind that rules have. -/
def instructionsOf (action : Action) (rules : List Rule) : List Instruction :=
  rules.flatMap fun r => Instruction.ofKind action r.treatment.all

/-- Apart from work on tags, a rule of the service stage has what comes first in the objective. -/
theorem Serves.ofKind_eq
    (serves : r.Serves o l d)
    (other : action ≠ .layer2) :
    Instruction.ofKind action r.treatment.all =
      (if .meter = action then o.treatment.meter?.toList else []) ++
        (if .table = action then o.treatment.transition?.toList else []) ++
        (if .output = action then o.treatment.output?.toList else []) := by
  obtain ⟨tags, retags, immediate⟩ := serves.immediate
  obtain ⟨output, sends, deferred⟩ := serves.deferred
  have noTags : Instruction.ofKind action tags = [] :=
    Instruction.ofKind_eq_nil fun i listed isKind =>
      other (isKind.symm.trans (retags.action_eq listed))
  have single : [output] = o.treatment.output?.toList := by rw [sends]; rfl
  rw [Treatment.all, immediate, deferred, single]
  simp only [Instruction.ofKind_append, noTags, List.nil_append, Treatment.meter?,
    Treatment.transition?, Treatment.output?, Instruction.ofKind_first?]

/-- A rule that hands packets on works on tags and leads to the service table, no more. -/
theorem HandsOn.ofKind_eq
    (hands : r.HandsOn o l)
    (other : action ≠ .layer2) :
    Instruction.ofKind action r.treatment.all = if .table = action then [l.toService] else [] := by
  obtain ⟨tags, immediate, onTags⟩ := hands.treatment
  have noTags {instructions : List Instruction}
      (among : ∀ i ∈ instructions, i ∈ tags ++ r.treatment.deferred) :
      Instruction.ofKind action instructions = [] :=
    Instruction.ofKind_eq_nil fun i listed isKind =>
      other (isKind.symm.trans (onTags i (among i listed)))
  rw [Treatment.all, immediate, Instruction.ofKind_append, Instruction.ofKind_append,
    noTags fun _ => List.mem_append_left _, noTags fun _ => List.mem_append_right _]
  simp [Instruction.ofKind, List.filter_cons, Layout.toService, Instruction.transition]

/-- A rule that drops packets has no instructions. -/
theorem Discards.ofKind_eq (discards : r.Discards l) :
    Instruction.ofKind action r.treatment.all = [] := by
  rw [discards.treatment]
  rfl

end Rule

namespace ForwardingObjective
variable {o : ForwardingObjective} {l : Layout} {d : Direction} {rules : List Rule}
  {serving handing : Rule} {dropping : Option Rule}

/-- A batch of a rule of the service stage, one that hands packets on to it, and perhaps one that
drops packets. -/
structure Staged (o : ForwardingObjective) (l : Layout) (d : Direction) (rules : List Rule)
    (serving handing : Rule) (dropping : Option Rule) : Prop where
  /-- There are no further rules. -/
  all : rules.Perm (serving :: handing :: dropping.toList)
  /-- The rule of the service stage. -/
  serves : serving.Serves o l d
  /-- The rule that hands packets on. -/
  hands : handing.HandsOn o l
  /-- The rule that drops packets. -/
  discards : ∀ r ∈ dropping, r.Discards l
  /-- Packets are dropped if a subscriber keeps any tag. -/
  discards_iff : dropping.isSome = true ↔ d = .fromSubscriber ∧ o.TakesAnyTag d
  /-- All rules are permanent rules of the application on the device. -/
  belong : ∀ r ∈ rules, r.device = l.device ∧ r.app = o.app ∧ r.permanent = true

namespace Staged

/-- The other rules sit in table 0. -/
theorem filter_serving
    (staged : o.Staged l d rules serving handing dropping)
    (apart : l.serviceTable ≠ 0) :
    rules.filter (fun r => r.table = l.serviceTable) = [serving] := by
  have hands : handing.table ≠ l.serviceTable := by
    rw [staged.hands.table]
    exact apart.symm
  have discards : ∀ r ∈ dropping.toList, ¬r.table = l.serviceTable := by
    intro r listed
    rw [(staged.discards r (by simpa using listed)).table]
    exact apart.symm
  rw [← List.perm_singleton]
  refine (staged.all.filter _).trans (.of_eq ?_)
  rw [List.filter_cons_of_pos (by simp [staged.serves.table]),
    List.filter_cons_of_neg (by simpa using hands),
    List.filter_eq_nil_iff.2 fun r listed => by simpa using discards r listed]

/-- All rules together have what comes first in the objective, and one transition to the service
table. -/
theorem instructionsOf_perm
    (staged : o.Staged l d rules serving handing dropping)
    (action : Action)
    (other : action ≠ .layer2) :
    (Rule.instructionsOf action rules).Perm
      (((if .meter = action then o.treatment.meter?.toList else []) ++
        (if .table = action then o.treatment.transition?.toList else []) ++
        (if .output = action then o.treatment.output?.toList else [])) ++
          if .table = action then [l.toService] else []) := by
  have nothing : Rule.instructionsOf action dropping.toList = [] := by
    cases found : dropping with
    | none => rfl
    | some r =>
        change Instruction.ofKind action r.treatment.all ++ [] = []
        rw [(staged.discards r found).ofKind_eq, List.append_nil]
  refine (staged.all.flatMap_right _).trans (.of_eq ?_)
  change Instruction.ofKind action serving.treatment.all ++
    (Instruction.ofKind action handing.treatment.all ++
      Rule.instructionsOf action dropping.toList) = _
  rw [staged.serves.ofKind_eq other, staged.hands.ofKind_eq other, nothing, List.append_nil]

/-- The first output and the first meter are there once, and so is the first transition beside the
one to the service table. -/
theorem carried
    (staged : o.Staged l d rules serving handing dropping) :
    Rule.instructionsOf .output rules = o.treatment.output?.toList ∧
      Rule.instructionsOf .meter rules = o.treatment.meter?.toList ∧
      (Rule.instructionsOf .table rules).Perm (l.toService :: o.treatment.transition?.toList) := by
  -- One instruction at most stands in one order only.
  have once {instructions : List Instruction} {first : Option Instruction}
      (same : instructions.Perm first.toList) : instructions = first.toList := by
    cases first with
    | none => exact same.eq_nil
    | some i => exact List.perm_singleton.1 same
  refine ⟨once ?_, once ?_, ?_⟩
  · simpa using staged.instructionsOf_perm .output nofun
  · simpa using staged.instructionsOf_perm .meter nofun
  · exact (staged.instructionsOf_perm .table nofun).trans (by simp [List.perm_append_singleton])

end Staged

/-! ### The four batches -/

/-- A rule of the service stage that is made of work on tags, the first meter, the first transition
and the first output. -/
theorem serves_serving
    {output : Instruction}
    (selector : Selector)
    (tags : List (Option Instruction))
    (retags : o.Retags d (tags.filterMap id))
    (sends : o.treatment.output? = some output) :
    (l.serving o.app o.priority selector (.ofOptions
      (tags ++ [o.treatment.meter?, o.treatment.transition?]) (some output))).Serves o l d where
  table := rfl
  priority := rfl
  immediate := by
    refine ⟨tags.filterMap id, retags, ?_⟩
    change (tags ++ [o.treatment.meter?, o.treatment.transition?]).filterMap id = _
    rw [List.filterMap_append]
    cases o.treatment.meter? <;> cases o.treatment.transition? <;> rfl
  deferred := ⟨output, sends, rfl⟩

/-- A rule of table 0 that is made of work on tags and the transition to the service table. -/
theorem handsOn_classifying
    (selector : Selector)
    (tags : List (Option Instruction))
    (deferred : Option Instruction)
    (onTags : ∀ i ∈ tags.filterMap id ++ deferred.toList, i.action = .layer2) :
    (l.classifying o.app o.priority selector
      (.ofOptions (tags ++ [some l.toService]) deferred)).HandsOn o l where
  table := rfl
  priority := rfl
  treatment := ⟨tags.filterMap id, List.filterMap_append, onTags⟩

theorem staged_fromSubscriberFixed
    {output : Instruction}
    {inner outer : Instruction × Instruction}
    (inPort : Criterion)
    (fixed : ¬o.TakesAnyTag .fromSubscriber)
    (pairs : Instruction.vlanPairs .push o.treatment.all = [inner, outer])
    (sends : o.treatment.output? = some output) :
    ∃ serving handing, o.Staged l .fromSubscriber
      (o.fromSubscriberFixed l output inPort inner outer) serving handing none := by
  obtain ⟨pushes, settings⟩ := Instruction.vlanOps_of_vlanPairs pairs (List.cons_ne_nil _ _)
  obtain ⟨push, set⟩ := Instruction.isVlan_of_mem_vlanPairs (pairs ▸ List.mem_cons_self)
  refine ⟨_, _, .swap _ _ _,
    serves_serving _ [some _, some _] (.adds fixed pushes settings) sends,
    handsOn_classifying _ [if o.selector.matchesUntagged then some inner.1 else none,
      some inner.2] none ?_, nofun, by simp [fixed], ?_⟩
  · split <;> simp [push.1, set.1]
  · simp [fromSubscriberFixed, Layout.classifying, Layout.serving]

theorem staged_fromSubscriberAny
    {output : Instruction}
    {inner outer : Instruction × Instruction}
    (inPort : Criterion)
    (any : o.TakesAnyTag .fromSubscriber)
    (pairs : Instruction.vlanPairs .push o.treatment.all = [inner, outer])
    (sends : o.treatment.output? = some output) :
    ∃ serving handing dropping, o.Staged l .fromSubscriber
      (o.fromSubscriberAny l output inPort outer.2) serving handing (some dropping) := by
  obtain ⟨pushes, settings⟩ := Instruction.vlanOps_of_vlanPairs pairs (List.cons_ne_nil _ _)
  refine ⟨_, _, _, List.perm_append_singleton _ [_, _],
    serves_serving _ [some _, some _] (.addsAny any pushes settings) sends,
    handsOn_classifying _ [] none nofun, ?_, by simp [any], ?_⟩
  · rintro r ⟨⟩
    exact ⟨rfl, rfl, rfl⟩
  · simp [fromSubscriberAny, Layout.classifying, Layout.serving]

theorem staged_toSubscriberFixed
    {output : Instruction}
    {pair : Instruction × Instruction}
    (outerSelector : Selector)
    (inPort : Criterion)
    (innerVlan : Value)
    (fixed : ¬o.TakesAnyTag .toSubscriber)
    (pairs : Instruction.vlanPairs .pop o.treatment.all = [pair])
    (sends : o.treatment.output? = some output) :
    ∃ serving handing, o.Staged l .toSubscriber
      (o.toSubscriberFixed l output outerSelector inPort innerVlan pair) serving handing none := by
  obtain ⟨pops, settings⟩ := Instruction.vlanOps_of_vlanPairs_one pairs
  obtain ⟨pop, -⟩ := Instruction.isVlan_of_mem_vlanPairs (pairs ▸ List.mem_cons_self)
  have retags : o.Retags .toSubscriber
      ([some pair.1, if pair.2.value = .number WellKnown.vlanNone then none
        else some pair.2].filterMap id) := by
    split
    · next bare => exact .untags fixed pops settings bare
    · next tagged => exact .retags fixed pops settings tagged
  refine ⟨_, _, .refl _, serves_serving _ _ retags sends,
    handsOn_classifying _ [some pair.1] none ?_, nofun, by simp, ?_⟩
  · simp [pop.1]
  · simp [toSubscriberFixed, Layout.classifying, Layout.serving]

theorem staged_toSubscriberAny
    {output : Instruction}
    (outerSelector : Selector)
    (inPort : Criterion)
    (any : o.TakesAnyTag .toSubscriber)
    (sends : o.treatment.output? = some output) :
    ∃ serving handing, o.Staged l .toSubscriber
      (o.toSubscriberAny l output outerSelector inPort) serving handing none := by
  refine ⟨_, _, .refl _, serves_serving _ [] (.leaves any) sends,
    handsOn_classifying _ [] (some .popVlan) ?_, nofun, by simp, ?_⟩
  · simp [Instruction.popVlan]
  · simp [toSubscriberAny, Layout.classifying, Layout.serving]

/-- The batch of every accepted objective is of one rule of the service stage, one that hands
packets on to it, and perhaps one that drops packets. -/
theorem exists_staged
    (accepted : o.rulesFor l d = .ok rules) :
    ∃ serving handing dropping, o.Staged l d rules serving handing dropping := by
  cases d with
  | fromSubscriber =>
      obtain ⟨inner, outer, output, inPort, pairs, sends, -, rfl⟩ :=
        fromSubscriber_eq_ok_iff.1 accepted
      split
      · next any =>
        obtain ⟨serving, handing, dropping, staged⟩ :=
          staged_fromSubscriberAny (l := l) inPort any pairs sends
        exact ⟨serving, handing, some dropping, staged⟩
      · next fixed =>
        obtain ⟨serving, handing, staged⟩ :=
          staged_fromSubscriberFixed (l := l) inPort fixed pairs sends
        exact ⟨serving, handing, none, staged⟩
  | toSubscriber =>
      obtain ⟨output, outerVlan, innerVlan, inPort, word, sends, -, inner, -, -,
        ⟨any, rfl⟩ | ⟨fixed, pair, pairs, rfl⟩⟩ := toSubscriber_eq_ok_iff.1 accepted
      · obtain ⟨serving, handing, staged⟩ :=
          staged_toSubscriberAny (l := l) _ inPort ⟨innerVlan, inner, any⟩ sends
        exact ⟨serving, handing, none, staged⟩
      · have other : ¬o.TakesAnyTag .toSubscriber := by
          rintro ⟨c, found, any⟩
          cases inner.symm.trans found
          exact fixed any
        obtain ⟨serving, handing, staged⟩ :=
          staged_toSubscriberFixed (l := l) _ inPort innerVlan.value other pairs sends
        exact ⟨serving, handing, none, staged⟩

/--
What an accepted objective has of outputs, meters and transitions.  Only one rule of its batch sits
in the service table.  Packets leave by its deferred output, which is the first of the objective,
and its immediate instructions are the work on the tags, then the first meter and the first
transition if there are any.  Other rules sit in table 0.  They have no output and no meter, and no
transition but that to the service table.
-/
theorem service_carries_once
    (o : ForwardingObjective)
    (l : Layout)
    (d : Direction)
    {rules : List Rule}
    (accepted : o.rulesFor l d = .ok rules)
    (apart : l.serviceTable ≠ 0) :
    ∃ serving handing dropping,
      o.Staged l d rules serving handing dropping ∧
      rules.filter (fun r => r.table = l.serviceTable) = [serving] ∧
      Rule.instructionsOf .output rules = o.treatment.output?.toList ∧
      Rule.instructionsOf .meter rules = o.treatment.meter?.toList ∧
      (Rule.instructionsOf .table rules).Perm (l.toService :: o.treatment.transition?.toList) := by
  obtain ⟨serving, handing, dropping, staged⟩ := exists_staged accepted
  exact ⟨serving, handing, dropping, staged, staged.filter_serving apart, staged.carried⟩

theorem service_carries_once_scattered :
    ∃ rules, Dataplane.scattered.rulesFor { device := "olt" } .fromSubscriber = .ok rules ∧
      Rule.instructionsOf .output rules = [.output (.number 4)] ∧
      Rule.instructionsOf .meter rules = [.meter (.number 7)] ∧
      ∃ serving, rules.filter (fun r => r.table = 1) = [serving] ∧
        serving.treatment.deferred = [.output (.number 4)] := by
  refine ⟨_, rfl, ?_⟩
  obtain ⟨serving, handing, dropping, staged, alone, outputs, meters, -⟩ :=
    service_carries_once Dataplane.scattered { device := "olt" } .fromSubscriber rfl (by decide)
  obtain ⟨output, sends, deferred⟩ := staged.serves.deferred
  obtain rfl : Instruction.output (.number 4) = output := Option.some.inj sends
  exact ⟨outputs, meters, serving, alone, deferred⟩

end ForwardingObjective
end LineTerminal
