import LineTerminal.Proofs.Dataplane.FromSubscriber

/-!
# Packets of a subscriber that keeps its tags

When a subscriber may send any tag, table 0 gets two rules.  One sends tagged packets
on to the service table; the other is there to drop untagged ones, but matches
everything that comes in on the port.  So the priorities of the two decide what
becomes of tagged packets.  That of the first is the objective's, that of the second
belongs to the layout of the device, and nothing relates them.
-/

namespace LineTerminal
namespace Dataplane

/-- A rule that is above all others of a list is the one that is preferred. -/
theorem foldl_prefer_eq
    {r : Rule}
    {rules : List Rule}
    {best : Option Rule}
    (member : r ∈ best.toList ++ rules)
    (above : ∀ x ∈ best.toList ++ rules, x ≠ r → x.priority < r.priority) :
    rules.foldl prefer best = some r := by
  induction rules generalizing best with
  | nil => simpa using member
  | cons x rest ih =>
      rw [List.foldl_cons]
      cases best with
      | none => exact ih member above
      | some b =>
          by_cases higher : b.priority < x.priority
          · rw [prefer, if_pos higher]
            have other : b ≠ r := by
              rintro rfl
              have lower := above x (by simp) fun equal => by simp [equal] at higher
              omega
            refine ih ?_ fun y listed => above y (List.mem_cons_of_mem b listed)
            simpa [Ne.symm other] using member
          · rw [prefer, if_neg higher]
            refine ih ?_ fun y listed => above y ?_
            · by_cases same : b = r
              · simp [same]
              · have lower := above b (by simp) same
                have other : x ≠ r := by
                  rintro rfl
                  exact higher lower
                simpa [Ne.symm same, Ne.symm other] using member
            · rcases List.mem_cons.1 listed with rfl | later
              · simp
              · exact List.mem_cons_of_mem b (List.mem_cons_of_mem x later)

/-- Of the rules that apply to a packet, the one above all others treats it. -/
theorem winner?_eq_some
    {rules : List Rule}
    {table : Int}
    {p : Packet}
    {r : Rule}
    (member : r ∈ rules)
    (hit : applies table p r = true)
    (above : ∀ x ∈ rules, applies table p x = true → x ≠ r → x.priority < r.priority) :
    winner? rules table p = some r := by
  refine foldl_prefer_eq (List.mem_filter.2 ⟨member, hit⟩) fun x listed => ?_
  obtain ⟨present, applied⟩ := List.mem_filter.1 listed
  exact above x present applied

/-- The packet meets a rule of table 0 that does nothing with it. -/
def Drops (installed : List Rule) (p : Packet) : Prop :=
  ∃ r, winner? installed 0 p = some r ∧ r.treatment = .empty

/-- A packet that table 0 drops gets through to no other table. -/
theorem Drops.traverse_eq_none
    {installed : List Rule}
    {p : Packet}
    (dropped : Drops installed p)
    (service : Int) :
    traverse installed service p = none := by
  obtain ⟨r, wins, nothing⟩ := dropped
  simp only [traverse, stage, wins, nothing, Option.bind_eq_bind, Option.bind_some]
  rfl

/-- Tagged packets of a port leave the service table with one more tag, and with one
instruction to carry out as they leave. -/
def Stacks (installed : List Rule) (service port vid : Int) (output : Instruction)
    (next : Option Value) : Prop :=
  ∀ tag rest word,
    traverse installed service ⟨port, tag :: rest, word⟩ =
      some { packet := ⟨port, ⟨WellKnown.etherServiceVlan, vid⟩ :: tag :: rest, word⟩
             deferred := [output]
             next }

/-- Two rules of table 0, of which the second matches whatever the first does, and a
rule of the service table. -/
structure Shadowed (rules : List Rule) (service : Int) (classifying dropping serving : Rule) :
    Prop where
  /-- These are all the rules. -/
  all : rules.Perm [classifying, dropping, serving]
  /-- The first sits in table 0. -/
  classifies : classifying.table = 0
  /-- So does the second. -/
  drops : dropping.table = 0
  /-- The third sits in the service table. -/
  serves : serving.table = service
  /-- The stages are apart. -/
  apart : service ≠ 0
  /-- What the first rule matches, the second does, too. -/
  shadows : ∀ p : Packet, p.matchedBy classifying.selector = true →
    p.matchedBy dropping.selector = true

namespace Shadowed
variable {rules : List Rule} {service : Int} {classifying dropping serving : Rule} {p : Packet}

/-- It does not matter in which order the rules are installed. -/
theorem perm
    (shadowed : Shadowed rules service classifying dropping serving)
    {installed : List Rule}
    (same : installed.Perm rules) :
    Shadowed installed service classifying dropping serving :=
  { shadowed with all := same.trans shadowed.all }

/-- The rules of table 0 that a packet can meet. -/
theorem eq_of_applies_zero
    (shadowed : Shadowed rules service classifying dropping serving)
    {r : Rule}
    (member : r ∈ rules)
    (hit : applies 0 p r = true) :
    r = classifying ∨ r = dropping := by
  have here : r.table = 0 := (by simpa [applies] using hit : _ ∧ _).1
  rcases (by simpa using shadowed.all.mem_iff.1 member : _ ∨ _ ∨ _) with rfl | rfl | rfl
  · exact .inl rfl
  · exact .inr rfl
  · exact absurd (shadowed.serves.symm.trans here) shadowed.apart

/-- What the first rule matches is its own if it is above the second. -/
theorem winner_classifying
    (shadowed : Shadowed rules service classifying dropping serving)
    (matched : p.matchedBy classifying.selector = true)
    (above : dropping.priority < classifying.priority) :
    winner? rules 0 p = some classifying := by
  refine winner?_eq_some (shadowed.all.mem_iff.2 (by simp))
    (by simp [applies, shadowed.classifies, matched]) fun x member hit other => ?_
  rcases shadowed.eq_of_applies_zero member hit with rfl | rfl
  · exact absurd rfl other
  · exact above

/-- What the second rule matches is its own if it is above the first, or the first does
not match. -/
theorem winner_dropping
    (shadowed : Shadowed rules service classifying dropping serving)
    (matched : p.matchedBy dropping.selector = true)
    (above : p.matchedBy classifying.selector = true →
      classifying.priority < dropping.priority) :
    winner? rules 0 p = some dropping := by
  refine winner?_eq_some (shadowed.all.mem_iff.2 (by simp))
    (by simp [applies, shadowed.drops, matched]) fun x member hit other => ?_
  rcases shadowed.eq_of_applies_zero member hit with rfl | rfl
  · exact above (by simpa [applies] using hit : _ ∧ _).2
  · exact absurd rfl other

/-- Unless the first rule is above the second, some order of the rules has the second
treat what the first one matches. -/
theorem exists_winner_dropping
    (shadowed : Shadowed rules service classifying dropping serving)
    (matched : p.matchedBy classifying.selector = true)
    (notAbove : ¬dropping.priority < classifying.priority) :
    ∃ installed, installed.Perm rules ∧ winner? installed 0 p = some dropping := by
  refine ⟨[dropping, classifying, serving], (List.Perm.swap _ _ _).trans shadowed.all.symm, ?_⟩
  simp [winner?, applies, prefer, shadowed.classifies, shadowed.drops, shadowed.serves,
    shadowed.apart, matched, shadowed.shadows p matched, notAbove]

/-- The third rule is alone in the service table. -/
theorem winner_serving
    (shadowed : Shadowed rules service classifying dropping serving)
    (matched : p.matchedBy serving.selector = true) :
    winner? rules service p = some serving := by
  refine winner?_eq_some (shadowed.all.mem_iff.2 (by simp))
    (by simp [applies, shadowed.serves, matched]) fun x member hit other => ?_
  have here : x.table = service := (by simpa [applies] using hit : _ ∧ _).1
  rcases (by simpa using shadowed.all.mem_iff.1 member : _ ∨ _ ∨ _) with rfl | rfl | rfl
  · exact absurd (here.symm.trans shadowed.classifies) shadowed.apart
  · exact absurd (here.symm.trans shadowed.drops) shadowed.apart
  · exact absurd rfl other

/-- A packet of the first rule goes through both tables if that rule is above the second. -/
theorem traverse_eq_treat
    (shadowed : Shadowed rules service classifying dropping serving)
    {f : Flight}
    (above : dropping.priority < classifying.priority)
    (matched : p.matchedBy classifying.selector = true)
    (classified : Flight.treat { packet := p } classifying.treatment = some f)
    (sent : f.next = some (.number service))
    (served : f.packet.matchedBy serving.selector = true) :
    traverse rules service p = { f with next := none }.treat serving.treatment := by
  have first : stage rules 0 { packet := p } = some f := by
    rw [stage, shadowed.winner_classifying matched above]
    exact classified
  rw [traverse, first]
  change (if f.next = some (.number service) then stage rules service f else none) = _
  rw [if_pos sent, stage, shadowed.winner_serving served]
  rfl

end Shadowed
end Dataplane

namespace ForwardingObjective
variable {o : ForwardingObjective} {l : Layout} {rules : List Rule} {port : Int}

/-- What an accepted objective comes down to when any customer tag is kept. -/
theorem fromSubscriber_eq_any
    {first second : Instruction}
    (accepted : o.fromSubscriber l = .ok rules)
    (sets : Instruction.vlanOps .setId o.treatment.all = [first, second])
    (selector : o.selector.toList =
      [.inPort (.number port), .vlan (.number WellKnown.vlanAny)]) :
    ∃ output, o.treatment.output? = some output ∧
      rules = o.fromSubscriberAny l output (.inPort (.number port)) second := by
  have any : o.selector.matchesAnyVlan = true := by
    rw [Selector.matchesAnyVlan, Selector.matchesVlan_of_toList selector]
    exact decide_eq_true rfl
  have located : o.selector.get? .inPort = some (.inPort (.number port)) := by
    change Criterion.find? o.selector.toList .inPort = _
    rw [selector]
    rfl
  obtain ⟨inner, outer, output, inPort, pairs, sends, port, rules_eq⟩ :=
    fromSubscriber_eq_ok_iff.1 accepted
  cases port.symm.trans located
  have unzipped : [first, second] = [inner.2, outer.2] :=
    sets.symm.trans (Instruction.vlanOps_of_vlanPairs pairs (List.cons_ne_nil _ _)).2
  cases unzipped
  rw [if_pos any] at rules_eq
  exact ⟨output, sends, rules_eq⟩

/-- Two rules of table 0 compete for the tagged packets of the port. -/
theorem shadowed_fromSubscriberAny
    (output second : Instruction)
    (selector : o.selector.toList =
      [.inPort (.number port), .vlan (.number WellKnown.vlanAny)])
    (apart : l.serviceTable ≠ 0) :
    Dataplane.Shadowed (o.fromSubscriberAny l output (.inPort (.number port)) second)
      l.serviceTable
      (l.classifying o.app o.priority o.selector (.ofOptions [some l.toService]))
      (l.classifying o.app l.dropPriority (.ofList [.inPort (.number port)]) .empty)
      (l.serving o.app o.priority o.selector
        (o.serviceTreatment output
          (.pushVlan (.number WellKnown.etherServiceVlan), second))) where
  all := .refl _
  classifies := rfl
  drops := rfl
  serves := rfl
  apart := apart
  shadows p matched := by
    have both : p.inPort = port ∧ p.hasVlan WellKnown.vlanAny = true := by
      simpa [Layout.classifying, Packet.matchedBy_of_toList selector] using matched
    simp [Layout.classifying, Packet.matchedBy_inPort, both.1]

end ForwardingObjective

namespace Dataplane

/--
Traffic from a subscriber that keeps its tags.  Untagged packets of the port are dropped.
Tagged ones get through both stages, where the second tag setting of the objective is
stacked on theirs, exactly when the objective is above the rule that drops the untagged
ones; below it they are dropped as well.  (At one priority the device may take either.)
-/
theorem stacks_iff_above_drop
    (o : ForwardingObjective)
    (l : Layout)
    {rules : List Rule}
    {port vid : Int}
    {first : Instruction}
    (accepted : o.fromSubscriber l = .ok rules)
    (selector : o.selector.toList =
      [.inPort (.number port), .vlan (.number WellKnown.vlanAny)])
    (sets : Instruction.vlanOps .setId o.treatment.all = [first, .setVlan (.number vid)])
    (apart : l.serviceTable ≠ 0) :
    ∃ output, o.treatment.output? = some output ∧
      (∀ installed, installed.Perm rules → ∀ word, Drops installed ⟨port, [], word⟩) ∧
      ((∀ installed, installed.Perm rules →
          Stacks installed l.serviceTable port vid output
            (o.treatment.transition?.map (·.value))) ↔
        l.dropPriority < o.priority) ∧
      (o.priority < l.dropPriority → ∀ installed, installed.Perm rules →
        ∀ tag rest word, Drops installed ⟨port, tag :: rest, word⟩) := by
  obtain ⟨output, found, rfl⟩ := ForwardingObjective.fromSubscriber_eq_any accepted sets selector
  have shadowed := ForwardingObjective.shadowed_fromSubscriberAny output
    (.setVlan (.number vid)) selector apart
  have tagged := Packet.matchedBy_of_toList selector
  have onPort (tags : List Tag) (word : Int) :
      Packet.matchedBy ⟨port, tags, word⟩ (.ofList [.inPort (.number port)]) = true := by
    simp [Packet.matchedBy_inPort]
  refine ⟨output, found, ?_, ⟨?_, ?_⟩, ?_⟩
  · intro installed same word
    refine ⟨_, (shadowed.perm same).winner_dropping (onPort [] word) ?_, rfl⟩
    simp [Layout.classifying, tagged]
  · intro passing
    refine Decidable.byContradiction fun notAbove => ?_
    obtain ⟨installed, same, wins⟩ := shadowed.exists_winner_dropping
      (p := ⟨port, [⟨WellKnown.etherVlan, 0⟩], 0⟩) (by simp [Layout.classifying, tagged]) notAbove
    have nowhere := Drops.traverse_eq_none ⟨_, wins, rfl⟩ l.serviceTable
    rw [passing installed same] at nowhere
    cases nowhere
  · intro above installed same tag rest word
    rw [(shadowed.perm same).traverse_eq_treat above (by simp [Layout.classifying, tagged]) rfl
      rfl (by simp [Layout.serving, tagged])]
    exact ForwardingObjective.treat_service _ rfl
  · intro below installed same tag rest word
    exact ⟨_, (shadowed.perm same).winner_dropping (onPort _ word) fun _ => below, rfl⟩

/-- An objective for a client that keeps its tags, at a given priority. -/
def keepsTags (priority : Int) : ForwardingObjective where
  selector := .ofList [.inPort (.number 1), .vlan (.number WellKnown.vlanAny)]
  treatment :=
    { immediate := [.pushVlan (.number WellKnown.etherVlan), .setVlan (.number 100),
        .pushVlan (.number WellKnown.etherServiceVlan), .setVlan (.number 200),
        .output (.number 4)] }
  priority
  app := "app"
  operation := some .add
  nextId := .absent

theorem stacks_iff_above_drop_keepsTags :
    ∃ rules, (keepsTags 1000).fromSubscriber { device := "olt" } = .ok rules ∧
      Stacks rules 1 1 200 (.output (.number 4)) none := by
  refine ⟨_, rfl, ?_⟩
  obtain ⟨output, found, -, above, -⟩ :=
    stacks_iff_above_drop (keepsTags 1000) { device := "olt" } rfl rfl rfl (by decide)
  obtain rfl : Instruction.output (.number 4) = output := Option.some.inj found
  exact above.2 (by decide) _ (.refl _)

/-- At a priority below the one of the layout, which is 500 here, no tagged packet gets
through. -/
theorem keepsTags_dropped :
    ∃ rules, (keepsTags 100).fromSubscriber { device := "olt" } = .ok rules ∧
      Drops rules ⟨1, [⟨WellKnown.etherVlan, 7⟩], 0⟩ ∧
      ∀ output next, ¬Stacks rules 1 1 200 output next := by
  refine ⟨_, rfl, ⟨_, rfl, rfl⟩, fun output next passing => ?_⟩
  have through := passing ⟨WellKnown.etherVlan, 7⟩ [] 0
  rw [Drops.traverse_eq_none ⟨_, rfl, rfl⟩] at through
  cases through

end Dataplane
end LineTerminal
