import LineTerminal.Proofs.Session.ForwardVerdict
import LineTerminal.Proofs.Session.Refusals

/-!
# Objectives that are never answered

When no batch is handed over for a filter, its context has been told by the end of the call.  For a
forwarding objective this need not be so: if it ends in a fault, its context is never told.  The
faults are those of a destination that is no block of addresses, of a stored key that is too long for
a record, and of operands that are not numbers.
-/

namespace LineTerminal
namespace Session
open ForwardingObjective

/-- The destination of an objective is a block of addresses, if there is one. -/
def Readable (o : ForwardingObjective) : Prop :=
  ∀ c ∈ o.selector.toList, c.field = .ipv4Destination →
    ∃ block, Network.Block.ofText? c.value.plain.toList = some block

/-- Why the submission of a forwarding objective ends in a fault and not in an answer. -/
inductive Unanswerable (w : World) (o : ForwardingObjective) : Fault → Prop
  /-- The destination is no block of addresses. -/
  | destination {c : Criterion} (member : c ∈ o.selector.toList)
      (on_destination : c.field = .ipv4Destination)
      (unreadable : Network.Block.ofText? c.value.plain.toList = none) :
      Unanswerable w o (.unreadableNetwork ⟨c.value.plain⟩)
  /-- The key that is stored for the next objective of a multicast objective is too long. -/
  | record {stored : StoredRecord} (many : o.ToMany) (named : o.nextId ≠ .absent)
      (found : lookupPair? o.nextId w.records = some stored) (long : stored.data = none) :
      Unanswerable w o .recordTooLong
  /-- The metadata cannot be made up that traffic to the subscriber needs. -/
  | operand (readable : Readable o) (takes : o.Takes .toSubscriber) (unpacked : o.Unpacked) :
      Unanswerable w o .notNumeric

section
variable {w : World}
variable {o : ForwardingObjective}

/-- The destination cannot be read when it is no block of addresses. -/
theorem isMulticast_eq_error_iff {e : Network.Unreadable} :
    o.selector.isMulticast = .error e ↔
      ∃ c ∈ o.selector.toList, c.field = .ipv4Destination ∧
        Network.Block.ofText? c.value.plain.toList = none ∧ e = ⟨c.value.plain⟩ := by
  unfold Selector.isMulticast
  cases found : o.selector.get? .ipv4Destination with
  | none =>
      refine ⟨nofun, ?_⟩
      rintro ⟨c, member, on_destination, -⟩
      exact absurd on_destination (Selector.get?_eq_none_iff.mp found c member)
  | some c =>
      obtain ⟨member, on_destination⟩ := Selector.get?_eq_some_iff.mp found
      dsimp only
      constructor
      · intro failed
        cases read : Network.Block.ofText? c.value.plain.toList with
        | none =>
            rw [read] at failed
            cases failed
            exact ⟨c, member, on_destination, read, rfl⟩
        | some block =>
            rw [read] at failed
            cases failed
      · rintro ⟨c', member', on_destination', unreadable, rfl⟩
        have other := Selector.get?_eq_some_iff.mpr ⟨member', on_destination'⟩
        cases found.symm.trans other
        rw [unreadable]

/-- A multicast destination can be read. -/
theorem readable_of_toMany (many : o.ToMany) : Readable o := by
  obtain ⟨block, ⟨c, member, on_destination, reads⟩, -⟩ := many
  intro c' member' on_destination'
  have found := Selector.get?_eq_some_iff.mpr ⟨member, on_destination⟩
  have other := Selector.get?_eq_some_iff.mpr ⟨member', on_destination'⟩
  cases found.symm.trans other
  exact ⟨block, reads⟩

/-- It is known whether a destination is multicast when it can be read. -/
theorem isMulticast_eq_ok_iff {many : Bool} :
    o.selector.isMulticast = .ok many ↔ Readable o ∧ (many = true ↔ o.ToMany) := by
  constructor
  · intro judged
    have readable : Readable o := by
      intro c member on_destination
      refine Option.ne_none_iff_exists'.mp fun unreadable => ?_
      have failed := isMulticast_eq_error_iff.mpr ⟨c, member, on_destination, unreadable, rfl⟩
      cases judged.symm.trans failed
    obtain ⟨many', judged', many_iff⟩ := isMulticast_eq_ok readable
    cases judged.symm.trans judged'
    exact ⟨readable, many_iff⟩
  · rintro ⟨readable, many_iff⟩
    obtain ⟨many', judged, many_iff'⟩ := isMulticast_eq_ok readable
    rw [judged, Bool.eq_iff_iff.mpr (many_iff'.trans many_iff.symm)]

/-- A group cannot be looked up when the stored key is too long. -/
theorem groupOf_eq_fault_iff {p : Pipeline} {id : Value} {f : Fault} :
    groupOf w p id = .error (.fault f) ↔
      f = .recordTooLong ∧ id ≠ .absent ∧
        ∃ stored, lookupPair? id w.records = some stored ∧ stored.data = none := by
  unfold groupOf
  split
  · simp
  · next named =>
    cases found : lookupPair? id w.records with
    | none => simp
    | some stored =>
        cases data_eq : stored.data with
        | none =>
            simp only [Except.error.injEq, Rejection.fault.injEq, Option.some.injEq, exists_eq_left',
              data_eq, and_true]
            exact ⟨fun same => ⟨same.symm, named⟩, fun lost => lost.1.symm⟩
        | some data =>
            cases decoded : GroupRecord.decode (data.getD []) with
            | error e => simp [data_eq, decoded]
            | ok key =>
                cases installed : lookupPair? (p.device, key) w.groups <;>
                  simp [data_eq, decoded, installed]

/-- Traffic goes to the subscriber when the first push or pop is none of a push. -/
theorem turns_to_subscriber_iff :
    (∃ op, o.treatment.pushOrPop? = some op ∧ op ≠ .push) ↔
      ∃ i, IsFirst Treatment.Turns o.treatment.all i ∧ i.vlanOp = some .pop := by
  simp only [Treatment.pushOrPop?_eq_some_iff]
  constructor
  · rintro ⟨op, ⟨i, first, turn⟩, other⟩
    rcases first.holds with push | pop
    · exact absurd (Option.some.inj (turn.symm.trans push.2)) other
    · exact ⟨i, first, pop.2⟩
  · rintro ⟨i, first, pop⟩
    exact ⟨.pop, ⟨i, first, pop⟩, by decide⟩

/-- A forwarding objective ends in a fault exactly when it cannot be answered. -/
theorem unanswerable_iff {p : Pipeline} {f : Fault} :
    Unanswerable w o f ↔ o.compile p.layout (groupOf w p) = .error (.fault f) := by
  rw [compile_eq_fault_iff, groupOf_eq_fault_iff, turns_to_subscriber_iff, isMulticast_eq_ok_iff,
    isMulticast_eq_ok_iff]
  constructor
  · intro unanswerable
    cases unanswerable with
    | destination member on_destination unreadable =>
        have failed := isMulticast_eq_error_iff.mpr ⟨_, member, on_destination, unreadable, rfl⟩
        exact .inl ⟨_, failed, rfl⟩
    | record many named found long =>
        have judged : true = true ↔ o.ToMany := iff_of_true rfl many
        exact .inr (.inl ⟨⟨readable_of_toMany many, judged⟩, rfl, named, _, found, long⟩)
    | operand readable takes unpacked =>
        have judged : false = true ↔ o.ToMany := iff_of_false Bool.false_ne_true takes.1
        exact .inr (.inr ⟨⟨readable, judged⟩, rfl, takes.2, unpacked⟩)
  · rintro (⟨e, failed, rfl⟩ | ⟨⟨-, many⟩, rfl, named, stored, found, long⟩ |
      ⟨⟨readable, single⟩, rfl, turns, unpacked⟩)
    · obtain ⟨c, member, on_destination, unreadable, rfl⟩ := isMulticast_eq_error_iff.mp failed
      exact .destination member on_destination unreadable
    · exact .record (many.mp rfl) named found long
    · have not_many : ¬o.ToMany := fun many => Bool.false_ne_true (single.mpr many)
      exact .operand readable ⟨not_many, turns⟩ unpacked

end

section
variable {d : List Duty}
variable {w : World}
variable {i : Nat}
variable {p : Pipeline}
variable {ticket : Ticket}

/-- Every filter with a legible ether type has its rule handed over, or is refused. -/
theorem filter_answered
    (visited : Visited ⟨.holding ticket :: d, w⟩)
    (found : w.pipelines[i]? = some p)
    (unsent : w.batchesFor ticket.serial = [])
    (depth : Nat)
    {o : FilteringObjective}
    (numeric : ∀ c ∈ o.conditions, c.field = .etherType → ∃ n, c.value = .number n)
    (none : ((submit (reactTo depth) i ticket (.filter o)).after w).batchesFor ticket.serial = []) :
    ∃ r, Refuses w p (.filter o) r ∧
      endings ticket.serial ((submit (reactTo depth) i ticket (.filter o)).after w).events =
        ticket.heard (.failure r.code) := by
  cases compiled : o.compile p.layout with
  | ok result =>
      obtain ⟨change, rules⟩ := result
      rw [batchesFor_filter visited found compiled depth] at none
      exact absurd none (List.append_ne_nil_of_right_ne_nil _ (List.cons_ne_nil _ _))
  | error rejection =>
      cases rejection with
      | refused r =>
          have refuses : Refuses w p (.filter o) r := .filter compiled
          exact ⟨r, refuses, (refused_of_held visited found refuses unsent depth).told⟩
      | fault f => exact absurd compiled (FilteringObjective.compile_ne_fault numeric f)

/-- A forwarding objective that cannot be answered ends in its fault, and nothing is done. -/
theorem runIn_forward_of_unanswerable
    {nested : Nested}
    (found : w.pipelines[i]? = some p)
    {o : ForwardingObjective}
    {f : Fault}
    (unanswerable : Unanswerable w o f) :
    (submit nested i ticket (.forward o)).runIn w = (.error f, w) := by
  unfold submit forward
  rw [Act.runIn_bind_ok _ (runIn_pipeline_of_some found), Act.runIn_get_bind,
    unanswerable_iff.mp unanswerable]
  rfl

/-- The operations on buckets change no rules. -/
def OnBuckets (operation : Operation) : Prop :=
  operation = .addToExisting ∨ operation = .removeFromExisting

/-- A forwarding objective that can be answered is, unless a batch is handed over for it. -/
theorem forward_answered
    (visited : Visited ⟨.holding ticket :: d, w⟩)
    (found : w.pipelines[i]? = some p)
    (unsent : w.batchesFor ticket.serial = [])
    (depth : Nat)
    {o : ForwardingObjective}
    {operation : Operation}
    (known : o.operation = some operation)
    (answerable : ∀ f, ¬Unanswerable w o f)
    (none : ((submit (reactTo depth) i ticket (.forward o)).after w).batchesFor ticket.serial = []) :
    ∃ e, endings ticket.serial ((submit (reactTo depth) i ticket (.forward o)).after w).events =
        ticket.heard e ∧
      ((∃ r, Refuses w p (.forward o) r ∧ e = .failure r.code) ∨
        (∃ rules, o.compile p.layout (groupOf w p) = .ok rules) ∧ OnBuckets operation ∧
          e = .success) := by
  cases compiled : o.compile p.layout (groupOf w p) with
  | ok rules =>
      have sent := batchesFor_forward visited found compiled depth
      rw [none, unsent, known] at sent
      have on_buckets : OnBuckets operation := by
        cases operation with
        | add | remove => cases sent
        | addToExisting => exact .inl rfl
        | removeFromExisting => exact .inr rfl
      have empty : batchFor rules o.operation = .ok [] := by
        rw [known]
        rcases on_buckets with rfl | rfl <;> rfl
      refine ⟨.success, ?_, .inr ⟨⟨rules, rfl⟩, on_buckets, rfl⟩⟩
      rw [Act.after, runIn_forward found compiled, empty]
      exact (visited.callBack (follows_reactTo depth) .success).1
  | error rejection =>
      cases rejection with
      | refused r =>
          have refuses : Refuses w p (.forward o) r := .forward compiled
          have told := (refused_of_held visited found refuses unsent depth).told
          exact ⟨.failure r.code, told, .inl ⟨r, refuses, rfl⟩⟩
      | fault f => exact absurd (unanswerable_iff.mpr compiled) (answerable f)

end

/--
When no batch is handed over for a filter, its context has been told once, of its refusal.  A
forwarding objective that cannot be answered ends in a fault, and its context is told nothing.  When
another one leads to no batch, its context has been told once: of its refusal, or of the success of
an operation that changes no rules.
-/
theorem answered_unless_unanswerable
    {d : List Duty}
    {w : World}
    (visited : Visited ⟨d, w⟩)
    {i : Nat}
    {p : Pipeline}
    (found : w.pipelines[i]? = some p)
    (depth : Nat)
    (tag : String)
    (fails : Bool)
    (onSuccess onError : List Step) :
    let ticket : Ticket := ⟨w.tickets, tag, .recording fails onSuccess onError⟩
    let outcome (o : Objective) := (submit (reactTo depth) i ticket o).runIn w.issued
    let told (o : Objective) : List Ending := endings ticket.serial (outcome o).2.events
    let sent (o : Objective) : List Batch := (outcome o).2.batchesFor ticket.serial
    (∀ o : FilteringObjective,
      (∀ c ∈ o.conditions, c.field = .etherType → ∃ n, c.value = .number n) →
      sent (.filter o) = [] →
      ∃ r, Refuses w p (.filter o) r ∧ told (.filter o) = [.failure r.code]) ∧
    (∀ (o : ForwardingObjective) f, Unanswerable w o f →
      (outcome (.forward o)).1 = .error f ∧ sent (.forward o) = [] ∧ told (.forward o) = []) ∧
    (∀ (o : ForwardingObjective) operation, o.operation = some operation →
      (∀ f, ¬Unanswerable w o f) → sent (.forward o) = [] →
      ∃ e, told (.forward o) = [e] ∧
        ((∃ r, Refuses w p (.forward o) r ∧ e = .failure r.code) ∨
          (∃ rules, o.compile p.layout (groupOf w p) = .ok rules) ∧ OnBuckets operation ∧
            e = .success)) := by
  intro ticket outcome told sent
  have held := visited.issue tag (.recording fails onSuccess onError)
  have unsent : w.issued.batchesFor w.tickets = [] :=
    visited.tallied.batchesFor_eq_nil (Nat.le_refl _)
  have same {o : ForwardingObjective} {f : Fault} :
      Unanswerable w.issued o f ↔ Unanswerable w o f := by
    have looked : groupOf w.issued p = groupOf w p := rfl
    rw [unanswerable_iff (p := p), unanswerable_iff (p := p), looked]
  refine ⟨fun o numeric none => ?_, fun o f unanswerable => ?_,
    fun o operation known answerable none => ?_⟩
  · obtain ⟨r, refuses, told⟩ := filter_answered held found unsent depth numeric none
    cases refuses with
    | filter refused => exact ⟨r, .filter refused, told⟩
  · have ended : outcome (.forward o) = (.error f, w.issued) :=
      runIn_forward_of_unanswerable (w := w.issued) found (same.mpr unanswerable)
    have untold := held.tallied.endings_eq_nil List.mem_cons_self
    have state : (outcome (.forward o)).2 = w.issued := congrArg Prod.snd ended
    refine ⟨congrArg Prod.fst ended, ?_, ?_⟩
    · exact (congrArg (World.batchesFor · w.tickets) state).trans unsent
    · exact (congrArg (endings w.tickets ·.events) state).trans untold
  · obtain ⟨e, told, how⟩ := forward_answered held found unsent depth known
      (fun f => mt same.mp (answerable f)) none
    refine ⟨e, told, ?_⟩
    rcases how with ⟨r, refuses, e_eq⟩ | success
    · cases refuses with
      | forward refused => exact .inl ⟨r, .forward refused, e_eq⟩
    · exact .inr success

/-- A forwarding objective with a destination that is no address. -/
def unreadable : ForwardingObjective :=
  { selector := .ofList [.ipv4Destination (.text "not an address")]
    treatment := {}
    priority := 1000
    app := "olt"
    operation := some .add
    nextId := .absent }

/-- A forwarding objective without VLAN operations, whose buckets are to be added to. -/
def onBuckets : ForwardingObjective :=
  { selector := .ofList [.inPort (.number 7), .vlan (.number 100), .innerVlan (.number 200)]
    treatment := { immediate := [.output (.number 1)] }
    priority := 1000
    app := "olt"
    operation := some .addToExisting
    nextId := .absent }

/-- The one objective is never answered, and the other one succeeds without a batch. -/
theorem answered_unless_unanswerable_onePipeline :
    let ticket : Ticket := ⟨onePipeline.tickets, "f", .recording false [] []⟩
    let outcome (o : Objective) := (submit (reactTo 1) 0 ticket o).runIn onePipeline.issued
    ((outcome (.forward unreadable)).1 = .error (.unreadableNetwork ⟨"not an address"⟩) ∧
      endings ticket.serial (outcome (.forward unreadable)).2.events = []) ∧
    endings ticket.serial (outcome (.forward onBuckets)).2.events = [.success] := by
  intro ticket outcome
  have reached : Reached (fun _ => True) onePipeline := .step (.start false) 1 _ fun _ _ => trivial
  have some_pipeline : (onePipeline.pipelines[0]?).isSome = true := by decide +kernel
  obtain ⟨p, found⟩ := Option.isSome_iff_exists.mp some_pipeline
  obtain ⟨-, lost, answered⟩ :=
    answered_unless_unanswerable reached.visited found 1 "f" false [] []
  have destination : Criterion.ipv4Destination (.text "not an address") ∈
      unreadable.selector.toList := by decide
  have unanswerable := Unanswerable.destination (w := onePipeline) destination rfl (by decide)
  obtain ⟨failed, -, untold⟩ := lost unreadable _ unanswerable
  have compiled : onBuckets.compile p.layout (groupOf onePipeline p) = .ok _ := rfl
  have answerable : ∀ f, ¬Unanswerable onePipeline onBuckets f := fun f unanswerable => by
    cases compiled.symm.trans (unanswerable_iff.mp unanswerable)
  obtain ⟨e, told, ⟨r, refuses, -⟩ | ⟨-, -, rfl⟩⟩ :=
    answered onBuckets .addToExisting rfl answerable (by decide +kernel)
  · cases refuses with
    | forward refused => cases compiled.symm.trans refused
  · exact ⟨⟨failed, untold⟩, told⟩

/-- The one objective ends in a fault without a batch, and its context is never told. -/
theorem unreadable_never_answered :
    Reached (fun _ => True) onePipeline ∧
    let submitted := runStep 1
      (.submit "p" (.forward unreadable) "f" (.recording false [] [])) onePipeline
    (match submitted.answer with | .error f => some f | .ok _ => none) =
      some (.unreadableNetwork ⟨"not an address"⟩) ∧
    submitted.after.batches.length = 0 ∧
    endings onePipeline.tickets submitted.after.events = [] :=
  ⟨.step (.start false) 1 _ fun _ _ => trivial, by decide +kernel⟩

end Session
end LineTerminal
