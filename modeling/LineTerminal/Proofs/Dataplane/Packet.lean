import LineTerminal.Rule

/-!
# Packets in the tables of a device

This module gives flow rules their meaning.  A packet enters table 0, where the
matching rule of highest priority treats it.  Immediate instructions are carried
out as they are listed; deferred ones are collected and carried out when the
packet leaves.  The stages of a device are table 0 and the service table, which
the packet must be sent to.

Rules are only read as far as they speak of the ingress port, the outermost tag
and the metadata: a criterion on another field matches no packet here.
-/

namespace LineTerminal

/-- One VLAN tag of a packet. -/
structure Tag where
  /-- The ether type that announces the tag. -/
  etherType : Int
  /-- The VLAN identifier. -/
  vid : Int
deriving DecidableEq

/-- What the tables see of a packet. -/
structure Packet where
  /-- The port it came in on. -/
  inPort : Int
  /-- Its VLAN tags, the outermost first. -/
  tags : List Tag
  /-- The metadata word that travels with it. -/
  metadata : Int
deriving DecidableEq

namespace Packet

/-- Whether a packet has the tag that a VLAN criterion asks for: none, any, or an
outermost one with the given identifier. -/
def hasVlan (p : Packet) (vid : Int) : Bool :=
  if vid = WellKnown.vlanNone then p.tags.isEmpty
  else if vid = WellKnown.vlanAny then !p.tags.isEmpty
  else p.tags.head?.any fun tag => tag.vid = vid

/-- Whether a packet meets a criterion. -/
def meets (p : Packet) (c : Criterion) : Bool :=
  match c.field, c.value with
  | .inPort, .number port => p.inPort = port
  | .metadata, .number word => p.metadata = word
  | .vlan, .number vid => p.hasVlan vid
  | _, _ => false

/-- Whether a selector matches a packet. -/
def matchedBy (p : Packet) (s : Selector) : Bool :=
  s.toList.all p.meets

@[simp] theorem hasVlan_none (p : Packet) :
    p.hasVlan WellKnown.vlanNone = p.tags.isEmpty := rfl

@[simp] theorem hasVlan_any (p : Packet) :
    p.hasVlan WellKnown.vlanAny = !p.tags.isEmpty := rfl

/-- A plain identifier asks for an outermost tag that carries it. -/
theorem hasVlan_plain
    (p : Packet)
    {vid : Int}
    (nonnegative : 0 ≤ vid)
    (plain : vid ≤ 4095) :
    p.hasVlan vid = p.tags.head?.any fun tag => tag.vid = vid := by
  have notNone : vid ≠ WellKnown.vlanNone := by
    unfold WellKnown.vlanNone
    omega
  have notAny : vid ≠ WellKnown.vlanAny := by
    unfold WellKnown.vlanAny
    omega
  simp only [hasVlan, if_neg notNone, if_neg notAny]

@[simp] theorem meets_inPort (p : Packet) (port : Int) :
    p.meets (.inPort (.number port)) = decide (p.inPort = port) := rfl

@[simp] theorem meets_metadata (p : Packet) (word : Int) :
    p.meets (.metadata (.number word)) = decide (p.metadata = word) := rfl

@[simp] theorem meets_vlan (p : Packet) (vid : Int) :
    p.meets (.vlan (.number vid)) = p.hasVlan vid := rfl

/-- A port is asked for alone. -/
theorem matchedBy_inPort (p : Packet) (port : Int) :
    p.matchedBy (.ofList [.inPort (.number port)]) = decide (p.inPort = port) := by
  have listed : (Selector.ofList [.inPort (.number port)]).toList = [.inPort (.number port)] :=
    rfl
  simp [matchedBy, listed]

/-- A port and a VLAN are asked for together. -/
theorem matchedBy_of_toList
    {s : Selector}
    {port vid : Int}
    (listed : s.toList = [.inPort (.number port), .vlan (.number vid)])
    (p : Packet) :
    p.matchedBy s = (decide (p.inPort = port) && p.hasVlan vid) := by
  simp [matchedBy, listed]

theorem matchedBy_inPort_vlan (p : Packet) (port vid : Int) :
    p.matchedBy (.ofList [.inPort (.number port), .vlan (.number vid)]) =
      (decide (p.inPort = port) && p.hasVlan vid) :=
  matchedBy_of_toList rfl p

end Packet

/-- A packet on its way through the tables. -/
structure Flight where
  /-- The packet as it is now. -/
  packet : Packet
  /-- The instructions to carry out when it leaves, in order. -/
  deferred : List Instruction := []
  /-- The table in which it continues, if it does. -/
  next : Option Value := none
  /-- The outputs and groups it was handed to, with the tags it had then. -/
  sent : List (Instruction × List Tag) := []
deriving DecidableEq

namespace Flight

/-- Replaces the tags of the packet. -/
def withTags (f : Flight) (tags : List Tag) : Flight :=
  { f with packet := { f.packet with tags } }

/-- Carries out one instruction.  Only a packet with a tag can have one removed
or set, and a new tag or identifier has to be a number. -/
def apply (f : Flight) (i : Instruction) : Option Flight :=
  match i.action, i.vlanOp, i.value with
  | .output, _, _ | .group, _, _ => some { f with sent := f.sent ++ [(i, f.packet.tags)] }
  | .meter, _, _ => some f
  | .table, _, table => some { f with next := some table }
  | .layer2, some .push, .number etherType =>
    some (f.withTags (⟨etherType, 0⟩ :: f.packet.tags))
  | .layer2, some .pop, _ =>
    match f.packet.tags with
    | [] => none
    | _ :: rest => some (f.withTags rest)
  | .layer2, some .setId, .number vid =>
    match f.packet.tags with
    | [] => none
    | tag :: rest => some (f.withTags ({ tag with vid } :: rest))
  | .layer2, _, _ => none

/-- Carries out instructions in order. -/
def applyAll (f : Flight) (instructions : List Instruction) : Option Flight :=
  instructions.foldlM apply f

/-- Carries out the immediate instructions of a treatment and keeps the others
for later. -/
def treat (f : Flight) (t : Treatment) : Option Flight := do
  let treated ← f.applyAll t.immediate
  return { treated with deferred := treated.deferred ++ t.deferred }

/-- Lets the packet leave, which carries out what was deferred. -/
def leave (f : Flight) : Option Flight :=
  { f with deferred := [] }.applyAll f.deferred

@[simp] theorem applyAll_nil (f : Flight) : f.applyAll [] = some f := rfl

@[simp] theorem applyAll_cons
    (f : Flight)
    (i : Instruction)
    (rest : List Instruction) :
    f.applyAll (i :: rest) = (f.apply i).bind (·.applyAll rest) := rfl

/-- Instructions are carried out one list after the other. -/
theorem applyAll_append
    (f : Flight)
    (first second : List Instruction) :
    f.applyAll (first ++ second) = (f.applyAll first).bind (·.applyAll second) := by
  induction first generalizing f with
  | nil => rfl
  | cons i rest inductionHypothesis =>
      simp only [List.cons_append, applyAll_cons, Option.bind_assoc]
      exact Option.bind_congr fun g _ => inductionHypothesis g

/-- A pop removes the outermost tag. -/
theorem apply_pop
    {i : Instruction}
    {f : Flight}
    {tag : Tag}
    {rest : List Tag}
    (pops : i.IsVlan .pop)
    (tagged : f.packet.tags = tag :: rest) :
    f.apply i = some (f.withTags rest) := by
  obtain ⟨layer, op⟩ := pops
  simp [apply, layer, op, tagged]

/-- An output sends a copy with the tags of the moment. -/
theorem apply_output
    {i : Instruction}
    (f : Flight)
    (outputs : i.action = .output) :
    f.apply i = some { f with sent := f.sent ++ [(i, f.packet.tags)] } := by
  simp [apply, outputs]

/-- A meter or a transition that the objective may bring along leaves the packet
alone; only the table in which it continues is noted. -/
theorem applyAll_profile
    (f : Flight)
    {t : Treatment}
    (fresh : f.next = none) :
    f.applyAll ([t.meter?, t.transition?].filterMap id) =
      some { f with next := t.transition?.map (·.value) } := by
  have ofKind {kind : Action} {i : Instruction}
      (found : Instruction.first? kind t.all = some i) : i.action = kind := by
    simpa using List.find?_some found
  cases meter : t.meter? with
  | none =>
      cases transition : t.transition? with
      | none => simp [← fresh]
      | some next => simp [apply, ofKind transition]
  | some rate =>
      cases transition : t.transition? with
      | none => simp [apply, ofKind meter, ← fresh]
      | some next => simp [apply, ofKind meter, ofKind transition]

/-- A treatment that ends in the meter and the transition of an objective, and
defers its output. -/
theorem treat_profile
    {f g : Flight}
    {t : Treatment}
    {first : List (Option Instruction)}
    {output : Instruction}
    (begun : f.applyAll (first.filterMap id) = some g)
    (fresh : g.next = none) :
    f.treat (.ofOptions (first ++ [t.meter?, t.transition?]) (some output)) =
      some { g with
        deferred := g.deferred ++ [output]
        next := t.transition?.map (·.value) } := by
  have listed :
      (Treatment.ofOptions (first ++ [t.meter?, t.transition?]) (some output)).immediate =
        first.filterMap id ++ [t.meter?, t.transition?].filterMap id :=
    List.filterMap_append
  rw [treat, listed, applyAll_append, begun, Option.bind_some, applyAll_profile g fresh]
  rfl

end Flight

namespace Dataplane

/-- Whether a rule sits in a table and matches a packet. -/
def applies (table : Int) (p : Packet) (r : Rule) : Bool :=
  decide (r.table = table) && p.matchedBy r.selector

/-- Of two rules the one of higher priority, and of equal ones the first. -/
def prefer (best : Option Rule) (r : Rule) : Option Rule :=
  match best with
  | none => some r
  | some b => if b.priority < r.priority then some r else some b

/-- The rule that treats a packet in a table. -/
def winner? (rules : List Rule) (table : Int) (p : Packet) : Option Rule :=
  (rules.filter (applies table p)).foldl prefer none

/-- Treats a packet in a table. -/
def stage (rules : List Rule) (table : Int) (f : Flight) : Option Flight := do
  let r ← winner? rules table f.packet
  { f with next := none }.treat r.treatment

/-- Lets a packet into table 0, and from there into the service table, if it is
sent there. -/
def traverse (rules : List Rule) (service : Int) (p : Packet) : Option Flight := do
  let f ← stage rules 0 { packet := p }
  if f.next = some (.number service) then stage rules service f else none

/-- Lets a packet through both stages and out of the device. -/
def deliver (rules : List Rule) (service : Int) (p : Packet) : Option Flight := do
  (← traverse rules service p).leave

/-- Where only one rule can apply, it treats the packets that it matches. -/
theorem stage_eq_of_alone
    {rules : List Rule}
    {table : Int}
    {r : Rule}
    (f : Flight)
    (alone : rules.filter (applies table f.packet) =
      if f.packet.matchedBy r.selector then [r] else []) :
    stage rules table f =
      if f.packet.matchedBy r.selector then { f with next := none }.treat r.treatment
      else none := by
  rw [stage, winner?, alone]
  cases f.packet.matchedBy r.selector <;> rfl

/-- A batch with one rule for each stage, in either order. -/
structure TwoStages (rules : List Rule) (service : Int) (classifying serving : Rule) : Prop where
  /-- These are all the rules. -/
  both : rules.Perm [classifying, serving]
  /-- The first sits in table 0. -/
  classifies : classifying.table = 0
  /-- The second sits in the service table. -/
  serves : serving.table = service
  /-- The stages are apart. -/
  apart : service ≠ 0

namespace TwoStages
variable {rules : List Rule} {service : Int} {classifying serving : Rule}

/-- What one of two rules keeps of the batch when the other does not apply. -/
theorem filter_eq
    {first second : Rule}
    {table : Int}
    {p : Packet}
    (both : rules.Perm [first, second])
    (here : first.table = table)
    (elsewhere : second.table ≠ table) :
    rules.filter (applies table p) = if p.matchedBy first.selector then [first] else [] := by
  have filtered := both.filter (applies table p)
  have missed : applies table p second = false := by
    simp [applies, elsewhere]
  cases matched : p.matchedBy first.selector with
  | true =>
      have hit : applies table p first = true := by
        simp [applies, here, matched]
      simpa [hit, missed] using filtered
  | false =>
      have pass : applies table p first = false := by
        simp [applies, matched]
      simpa [pass, missed] using filtered

/-- Table 0 treats what the classifying rule matches. -/
theorem stage_zero
    (stages : TwoStages rules service classifying serving)
    (f : Flight) :
    stage rules 0 f =
      if f.packet.matchedBy classifying.selector then
        { f with next := none }.treat classifying.treatment
      else none := by
  refine stage_eq_of_alone f (filter_eq stages.both stages.classifies ?_)
  rw [stages.serves]
  exact stages.apart

/-- The service table treats what the serving rule matches. -/
theorem stage_service
    (stages : TwoStages rules service classifying serving)
    (f : Flight) :
    stage rules service f =
      if f.packet.matchedBy serving.selector then
        { f with next := none }.treat serving.treatment
      else none := by
  refine stage_eq_of_alone f
    (filter_eq (stages.both.trans (.swap _ _ _)) stages.serves ?_)
  rw [stages.classifies]
  exact stages.apart.symm

/-- A packet that the classifying rule matches and sends on is treated by the
serving rule, if that matches it by then. -/
theorem traverse_eq_treat
    (stages : TwoStages rules service classifying serving)
    {p : Packet}
    {f : Flight}
    (matched : p.matchedBy classifying.selector = true)
    (classified : Flight.treat { packet := p } classifying.treatment = some f)
    (sent : f.next = some (.number service))
    (served : f.packet.matchedBy serving.selector = true) :
    traverse rules service p = { f with next := none }.treat serving.treatment := by
  rw [traverse, stages.stage_zero, if_pos matched, classified]
  change (if f.next = some (.number service) then stage rules service f else none) = _
  rw [if_pos sent, stages.stage_service, if_pos served]

/-- A packet that both rules treat leaves as they have left it. -/
theorem deliver_eq_leave
    (stages : TwoStages rules service classifying serving)
    {p : Packet}
    {f g : Flight}
    (matched : p.matchedBy classifying.selector = true)
    (classified : Flight.treat { packet := p } classifying.treatment = some f)
    (sent : f.next = some (.number service))
    (served : f.packet.matchedBy serving.selector = true)
    (treated : { f with next := none }.treat serving.treatment = some g) :
    deliver rules service p = g.leave := by
  rw [deliver, stages.traverse_eq_treat matched classified sent served, treated]
  rfl

/-- A packet that the classifying rule does not match goes nowhere. -/
theorem traverse_eq_none
    (stages : TwoStages rules service classifying serving)
    {p : Packet}
    (missed : p.matchedBy classifying.selector = false) :
    traverse rules service p = none := by
  rw [traverse, stages.stage_zero]
  simp [missed]

/-- Nor does it leave. -/
theorem deliver_eq_none
    (stages : TwoStages rules service classifying serving)
    {p : Packet}
    (missed : p.matchedBy classifying.selector = false) :
    deliver rules service p = none := by
  rw [deliver, stages.traverse_eq_none missed]
  rfl

end TwoStages
end Dataplane
end LineTerminal
