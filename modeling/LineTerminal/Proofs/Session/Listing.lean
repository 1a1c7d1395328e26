import LineTerminal.Proofs.Dataplane.FromSubscriber
import LineTerminal.Proofs.Session.ForwardVerdict
import Mathlib.Logic.Relation

/-!
# How a treatment is listed

Of the treatment of a forwarding objective only some essentials matter: its pushes and pops in their
order, its settings of VLAN identifiers in theirs, whether there are other layer-2 instructions, and
its first output, meter and transition.  Treatments with the same essentials come down to the same
rules, or are refused alike.  So an instruction can be listed before or after those of other
concerns, in either list, and further outputs, meters and transitions add nothing.
-/

namespace LineTerminal
namespace Treatment
variable {t t' : Treatment}

instance : DecidablePred Turns := fun _ => inferInstanceAs (Decidable (_ ∨ _))

/-- A layer-2 instruction that is no operation on VLAN tags. -/
def IsOtherLayer2 (i : Instruction) : Prop := i.action = .layer2 ∧ i.vlanOp = none

instance : DecidablePred IsOtherLayer2 := fun _ => inferInstanceAs (Decidable (_ ∧ _))

/-- What matters of a treatment. -/
structure Essentials where
  /-- The pushes and pops, in their order. -/
  turns : List Instruction
  /-- The settings of VLAN identifiers, in their order. -/
  settings : List Instruction
  /-- Whether there are other layer-2 instructions. -/
  otherLayer2 : Bool
  /-- The first output. -/
  output : Option Instruction
  /-- The first meter. -/
  meter : Option Instruction
  /-- The first transition. -/
  transition : Option Instruction
deriving DecidableEq

/-- The essentials of all instructions, the immediate ones and then the deferred ones. -/
def essentials (t : Treatment) : Essentials where
  turns := t.all.filter fun i => Turns i
  settings := Instruction.vlanOps .setId t.all
  otherLayer2 := t.all.any fun i => IsOtherLayer2 i
  output := t.output?
  meter := t.meter?
  transition := t.transition?

/-! ### What the essentials tell -/

/-- The first push or pop is the first turn. -/
theorem pushOrPop?_eq_findSome? (t : Treatment) :
    t.pushOrPop? = t.essentials.turns.findSome? turn? := by
  change t.all.findSome? turn? = (t.all.filter fun i => Turns i).findSome? turn?
  induction t.all with
  | nil => rfl
  | cons i rest ih =>
      by_cases turns : Turns i
      · rw [List.filter_cons_of_pos (by simpa using turns), List.findSome?_cons,
          List.findSome?_cons, ih]
      · rw [List.filter_cons_of_neg (by simpa using turns), List.findSome?_cons,
          turn?_eq_none_iff.mpr turns, ih]

/-- The pushes are among the turns, and so are the pops. -/
theorem vlanOps_turns
    {op : VlanOp}
    (turning : op ≠ .setId)
    (t : Treatment) :
    Instruction.vlanOps op t.essentials.turns = Instruction.vlanOps op t.all := by
  have turns {i : Instruction} (isOp : i.IsVlan op) : Turns i := by
    cases op with
    | push => exact .inl isOp
    | pop => exact .inr isOp
    | setId => exact absurd rfl turning
  unfold Instruction.vlanOps essentials
  rw [List.filter_filter]
  apply List.filter_congr
  intro i _
  by_cases isOp : i.IsVlan op
  · simp [isOp, turns isOp]
  · simp [isOp]

/-- A layer-2 instruction is a turn, a setting or another one. -/
theorem any_layer2_iff (t : Treatment) :
    t.all.any (·.action = .layer2) = true ↔
      t.essentials.turns ≠ [] ∨ t.essentials.settings ≠ [] ∨ t.essentials.otherLayer2 = true := by
  have kinds (i : Instruction) :
      i.action = .layer2 ↔ Turns i ∨ i.IsVlan .setId ∨ IsOtherLayer2 i := by
    obtain ⟨action, vlanOp, value⟩ := i
    unfold Turns Instruction.IsVlan IsOtherLayer2
    cases vlanOp with
    | none => simp
    | some op => cases op <;> simp
  simp only [essentials, Instruction.vlanOps, List.any_eq_true, decide_eq_true_eq, ne_eq,
    List.filter_eq_nil_iff, not_forall, not_not, exists_prop, kinds, and_or_left, exists_or]

section
variable (same : t.essentials = t'.essentials)
include same

theorem pushOrPop?_congr : t.pushOrPop? = t'.pushOrPop? := by
  rw [pushOrPop?_eq_findSome?, pushOrPop?_eq_findSome?, same]

theorem vlanPairs_congr {op : VlanOp} (turning : op ≠ .setId) :
    Instruction.vlanPairs op t.all = Instruction.vlanPairs op t'.all := by
  have settings : Instruction.vlanOps .setId t.all = Instruction.vlanOps .setId t'.all :=
    congrArg Essentials.settings same
  unfold Instruction.vlanPairs
  rw [← vlanOps_turns turning t, ← vlanOps_turns turning t', same, settings]

theorem firsts_congr :
    t.output? = t'.output? ∧ t.meter? = t'.meter? ∧ t.transition? = t'.transition? :=
  ⟨congrArg Essentials.output same, congrArg Essentials.meter same,
    congrArg Essentials.transition same⟩

theorem any_layer2_congr :
    t.all.any (·.action = .layer2) = t'.all.any (·.action = .layer2) := by
  rw [Bool.eq_iff_iff, any_layer2_iff, any_layer2_iff, same]

end

/-! ### Other ways to list the same -/

/-- What an instruction is about. -/
inductive Concern where
  /-- It pushes or pops a tag. -/
  | turn
  /-- It sets the identifier of a tag. -/
  | setting
  /-- It is another layer-2 operation. -/
  | otherLayer2
  /-- It sends, measures or hands over packets. -/
  | other (action : Action)
deriving DecidableEq

/-- The concern of an instruction. -/
def concern (i : Instruction) : Concern :=
  if i.action = .layer2 then
    match i.vlanOp with
    | some .setId => .setting
    | some _ => .turn
    | none => .otherLayer2
  else .other i.action

/-- The instructions of a concern, in their order. -/
def about (t : Treatment) (c : Concern) : List Instruction := t.all.filter (concern · = c)

theorem concern_of_plain {i : Instruction} (plain : i.action ≠ .layer2) :
    concern i = .other i.action :=
  if_neg plain

theorem concern_eq_other_iff
    {i : Instruction}
    {action : Action}
    (plain : action ≠ .layer2) :
    concern i = .other action ↔ i.action = action := by
  unfold concern
  split
  · next layer2 =>
    rw [layer2]
    split <;> simp [Ne.symm plain]
  · exact Concern.other.injEq _ _ ▸ Iff.rfl

/-- The three concerns of layer-2 instructions. -/
theorem concern_layer2_iff (i : Instruction) :
    (concern i = .turn ↔ Turns i) ∧ (concern i = .setting ↔ i.IsVlan .setId) ∧
      (concern i = .otherLayer2 ↔ IsOtherLayer2 i) := by
  obtain ⟨action, vlanOp, value⟩ := i
  unfold concern Turns IsOtherLayer2 Instruction.IsVlan
  by_cases layer2 : action = .layer2
  · cases vlanOp with
    | none => simp [layer2]
    | some op => cases op <;> simp [layer2]
  · simp [layer2]

theorem first?_eq_head?_about
    {action : Action}
    (plain : action ≠ .layer2)
    (t : Treatment) :
    Instruction.first? action t.all = (t.about (.other action)).head? := by
  simp only [about, List.head?_filter, Instruction.first?, concern_eq_other_iff plain]

/-- The essentials are found among the instructions of each concern. -/
theorem essentials_eq (t : Treatment) :
    t.essentials =
      { turns := t.about .turn
        settings := t.about .setting
        otherLayer2 := !(t.about .otherLayer2).isEmpty
        output := (t.about (.other .output)).head?
        meter := (t.about (.other .meter)).head?
        transition := (t.about (.other .table)).head? } := by
  have output := first?_eq_head?_about (show Action.output ≠ .layer2 from nofun) t
  have meter := first?_eq_head?_about (show Action.meter ≠ .layer2 from nofun) t
  have transition := first?_eq_head?_about (show Action.table ≠ .layer2 from nofun) t
  rw [essentials, Essentials.mk.injEq]
  refine ⟨?_, ?_, ?_, output, meter, transition⟩
  · simp only [about, concern_layer2_iff]
  · simp only [about, concern_layer2_iff, Instruction.vlanOps]
  · rw [Bool.eq_iff_iff]
    simp [about, concern_layer2_iff]

/-- Changes of the list that leave the essentials as they are. -/
inductive Relisted : Treatment → Treatment → Prop
  /-- An instruction is put after others of other concerns, and perhaps into the other list. -/
  | past {t t' : Treatment} {i : Instruction} {before between after : List Instruction}
      (first : t.all = before ++ i :: (between ++ after))
      (second : t'.all = before ++ (between ++ i :: after))
      (apart : ∀ j ∈ between, concern j ≠ concern i) : Relisted t t'
  /-- Another output, meter or transition is put somewhere after the first one. -/
  | further {t t' : Treatment} {i j : Instruction} {before after : List Instruction}
      (first : t.all = before ++ after)
      (second : t'.all = before ++ i :: after)
      (earlier : j ∈ before)
      (same : j.action = i.action)
      (counted : i.action = .output ∨ i.action = .meter ∨ i.action = .table) : Relisted t t'

/-- Past instructions of other concerns, each concern keeps its instructions in their order. -/
theorem about_eq_of_past
    {i : Instruction}
    {before between after : List Instruction}
    (first : t.all = before ++ i :: (between ++ after))
    (second : t'.all = before ++ (between ++ i :: after))
    (apart : ∀ j ∈ between, concern j ≠ concern i)
    (c : Concern) :
    t.about c = t'.about c := by
  unfold about
  rw [first, second]
  by_cases mine : concern i = c
  · have none_between : between.filter (concern · = c) = [] := by
      simpa [← mine] using apart
    simp [mine, none_between]
  · simp [mine]

/-- A further instruction is not the first of its concern, and leaves the other concerns alone. -/
theorem about_of_further
    {i j : Instruction}
    {before after : List Instruction}
    (first : t.all = before ++ after)
    (second : t'.all = before ++ i :: after)
    (earlier : j ∈ before)
    (same : concern j = concern i)
    (c : Concern) :
    (t.about c).head? = (t'.about c).head? ∧ (concern i ≠ c → t.about c = t'.about c) := by
  unfold about
  rw [first, second]
  by_cases mine : concern i = c
  · have some_before : before.filter (concern · = c) ≠ [] := by
      have member : j ∈ before.filter (concern · = c) := by simp [earlier, same, mine]
      exact List.ne_nil_of_mem member
    refine ⟨?_, fun other => absurd mine other⟩
    rw [List.filter_append, List.filter_append, List.head?_append_of_ne_nil _ some_before,
      List.head?_append_of_ne_nil _ some_before]
  · simp [mine]

/-- A treatment that is listed in another way has the same essentials. -/
theorem essentials_eq_of_relisted (relisted : Relisted t t') : t.essentials = t'.essentials := by
  cases relisted with
  | past first second apart => simp only [essentials_eq, about_eq_of_past first second apart]
  | @further i j before after first second earlier same counted =>
      have plain : i.action ≠ .layer2 := by
        rintro layer2
        simp [layer2] at counted
      have mine : concern i = .other i.action := concern_of_plain plain
      have concerns : concern j = concern i := by
        rw [mine, concern_eq_other_iff plain, same]
      have heads (c : Concern) := (about_of_further first second earlier concerns c).1
      have others (c : Concern) := (about_of_further first second earlier concerns c).2
      rw [mine] at others
      simp only [essentials_eq, heads]
      rw [others .turn nofun, others .setting nofun, others .otherLayer2 nofun]

theorem essentials_eq_of_eqvGen (relisted : Relation.EqvGen Relisted t t') :
    t.essentials = t'.essentials := by
  induction relisted with
  | rel t t' step => exact essentials_eq_of_relisted step
  | refl t => rfl
  | symm t t' _ ih => exact ih.symm
  | trans t t' t'' _ _ first second => exact first.trans second

end Treatment

namespace ForwardingObjective
variable {o : ForwardingObjective}
variable {l : Layout}
variable {t : Treatment}
variable (same : t.essentials = o.treatment.essentials)
include same

/-- The essentials decide the rules for traffic from the subscriber. -/
theorem fromSubscriber_congr : fromSubscriber { o with treatment := t } l = o.fromSubscriber l := by
  have push : VlanOp.push ≠ .setId := nofun
  have pairs := Treatment.vlanPairs_congr same push
  obtain ⟨output, meter, transition⟩ := Treatment.firsts_congr same
  simp only [fromSubscriber, fromSubscriberFixed, fromSubscriberAny, pairs, output, meter,
    transition]

/-- The essentials decide the rules for traffic to the subscriber. -/
theorem toSubscriber_congr : toSubscriber { o with treatment := t } l = o.toSubscriber l := by
  have pop : VlanOp.pop ≠ .setId := nofun
  have pairs := Treatment.vlanPairs_congr same pop
  obtain ⟨output, meter, transition⟩ := Treatment.firsts_congr same
  simp only [toSubscriber, toSubscriberFixed, toSubscriberAny, pairs, output, meter, transition]

/-- The essentials decide which course is taken. -/
theorem unicast_congr : unicast { o with treatment := t } l = o.unicast l := by
  have passes : passthrough { o with treatment := t } l = o.passthrough l := by
    simp only [passthrough, (Treatment.firsts_congr same).1]
  simp only [unicast, Treatment.pushOrPop?_congr same, Treatment.any_layer2_congr same,
    fromSubscriber_congr same, toSubscriber_congr same, passes]

theorem compile_congr (groupOf : Value → Except Rejection Value) :
    compile { o with treatment := t } l groupOf = o.compile l groupOf := by
  simp only [compile, unicast_congr same, multicast]

end ForwardingObjective

namespace Session

/--
Two forwarding objectives that differ in their treatments alone come down to the same rules, or are
refused for the same reason, and all that happens at a pipeline is the same, if the treatments have
the same essentials or one is got from the other by listing it in other ways.
-/
theorem forward_reads_essentials
    (nested : Nested)
    (p : Pipeline)
    (ticket : Ticket)
    (o : ForwardingObjective)
    {t : Treatment}
    (same : t.essentials = o.treatment.essentials ∨
      Relation.EqvGen Treatment.Relisted t o.treatment) :
    (∀ l groupOf,
      ForwardingObjective.compile { o with treatment := t } l groupOf = o.compile l groupOf) ∧
      forward nested p ticket { o with treatment := t } = forward nested p ticket o := by
  have essentials : t.essentials = o.treatment.essentials := by
    rcases same with same | relisted
    · exact same
    · exact Treatment.essentials_eq_of_eqvGen relisted
  have compiled (l : Layout) (groupOf : Value → Except Rejection Value) :=
    ForwardingObjective.compile_congr (l := l) essentials groupOf
  refine ⟨compiled, ?_⟩
  simp only [forward, compiled]

/-- The pushes of an objective before its settings, and a second output behind the first. -/
def gathered : Treatment :=
  { immediate := [.pushVlan (.number WellKnown.etherVlan),
      .pushVlan (.number WellKnown.etherServiceVlan), .transition (.number 64), .meter (.number 7)]
    deferred := [.setVlan (.number 100), .output (.number 4), .setVlan (.number 200),
      .output (.number 5)] }

theorem forward_reads_essentials_gathered :
    gathered ≠ Dataplane.scattered.treatment ∧
    ∃ rules, rules.length = 2 ∧
      ∀ groupOf, ForwardingObjective.compile { Dataplane.scattered with treatment := gathered }
        { device := "olt" } groupOf = .ok rules := by
  refine ⟨by decide, ?_⟩
  obtain ⟨same, -⟩ := forward_reads_essentials (reactTo 0)
    { device := "olt", settings := usualSettings }
    { serial := 0, tag := "gathered", reaction := .silent } Dataplane.scattered
    (.inl (show gathered.essentials = Dataplane.scattered.treatment.essentials by decide))
  refine ⟨_, ?_, fun groupOf => (same _ groupOf).trans rfl⟩
  rfl

end Session
end LineTerminal
