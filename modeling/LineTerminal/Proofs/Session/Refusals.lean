import LineTerminal.Proofs.Session.Tickets
import LineTerminal.Proofs.Translation

/-!
# Objectives that are refused, and objectives that come down to rules

An objective is refused before anything is done for it: its refusal is noted, its context is told,
and everything else stays as it was, but for what the context does.  An objective that comes down to
rules hands all of them over in one batch, or none.
-/

namespace LineTerminal
namespace Session

/-- Why a pipeline refuses an objective in a state. -/
inductive Refuses (w : World) (p : Pipeline) : Objective → Refusal → Prop
  | filter {o : FilteringObjective} {r : Refusal}
      (refused : o.compile p.layout = .error (.refused r)) : Refuses w p (.filter o) r
  | forward {o : ForwardingObjective} {r : Refusal}
      (refused : o.compile p.layout (groupOf w p) = .error (.refused r)) : Refuses w p (.forward o) r
  | kind {o : NextObjective} (other : o.kind ≠ some .broadcast) : Refuses w p (.next o) .notBroadcast
  | members {o : NextObjective} (broadcast : o.kind = some .broadcast)
      (other : o.members.length ≠ 1) : Refuses w p (.next o) .notSingleton
  | id {o : NextObjective} (broadcast : o.kind = some .broadcast) (single : o.members.length = 1)
      (outside : ∀ n, o.id = .number n → ¬KeySpace.InRange n) :
      Refuses w p (.next o) (.idOutOfRange o.id)

/-- The kind of an objective. -/
def Objective.kind : Objective → ObjectiveKind
  | .filter _ => .filtering
  | .forward _ => .forwarding
  | .next _ => .next

/-- The state in which an objective has been refused and its context told. -/
def World.refused (w : World) (p : Pipeline) (o : Objective) (ticket : Ticket) (r : Refusal) :
    World :=
  w.note (.logged (.refused o.kind p.device r) :: ticket.told (.failure r.code))

/--
What the refusal of an objective leads to.  Only the refusal is noted and the context told, if there
is one, and then the steps are carried out that the context takes.
-/
structure Refused (nested : Nested) (p : Pipeline) (o : Objective) (ticket : Ticket) (r : Refusal)
    (w after : World) : Prop where
  /-- Everything but the events is left alone, and what scripts have been started. -/
  untouched : ∃ started,
    let refused : World := { w.refused p o ticket r with started }
    after = refused ∨ ∃ fails onSuccess onError,
      ticket.reaction = .recording fails onSuccess onError ∧
        after = (nested onError).after refused
  /-- The context is told of the failure, and of nothing else. -/
  told : endings ticket.serial after.events = ticket.heard (.failure r.code)
  /-- No batch is handed over. -/
  unsent : after.batchesFor ticket.serial = []

/-- The batch that a forwarding objective with some rules has handed over. -/
def batchesOf (rules : List Rule) : Option Operation → List Batch
  | some .add => [.ofRules .add rules]
  | some .remove => [.ofRules .remove rules]
  | _ => []

theorem Refuses.issued
    {w : World}
    {p : Pipeline}
    {o : Objective}
    {r : Refusal}
    (refuses : Refuses w p o r) :
    Refuses w.issued p o r := by
  cases refuses with
  | filter refused => exact .filter refused
  | forward refused => exact .forward refused
  | kind other => exact .kind other
  | members broadcast other => exact .members broadcast other
  | id broadcast single outside => exact .id broadcast single outside

/-- The key space has no key for an identifier that is no number in range. -/
theorem keyFor?_eq_none
    {s : KeySpace}
    {id : Value}
    (outside : ∀ n, id = .number n → ¬KeySpace.InRange n) :
    s.keyFor? id = none := by
  cases id with
  | number n => exact if_neg (outside n rfl)
  | text t => rfl
  | absent => rfl

theorem Refuses.keyOfNext
    {w : World}
    {p : Pipeline}
    {o : NextObjective}
    {r : Refusal}
    (refuses : Refuses w p (.next o) r) :
    Session.keyOfNext p o = .error r := by
  unfold Session.keyOfNext
  cases refuses with
  | kind other => rw [if_pos other]
  | members broadcast other => rw [if_neg (not_not_intro broadcast), if_pos other]
  | id broadcast single outside =>
      rw [if_neg (not_not_intro broadcast), if_neg (not_not_intro single), keyFor?_eq_none outside]

/-- A next objective is refused unless it is for broadcast to one member under an identifier. -/
theorem exists_refuses_next
    (w : World)
    (p : Pipeline)
    {o : NextObjective}
    (flawed : o.kind ≠ some .broadcast ∨ o.members.length ≠ 1 ∨
      ∀ n, o.id = .number n → ¬KeySpace.InRange n) :
    ∃ r, Refuses w p (.next o) r ∧ r.code = .badParameters := by
  by_cases broadcast : o.kind = some .broadcast
  · by_cases single : o.members.length = 1
    · rcases flawed with other | several | outside
      · exact absurd broadcast other
      · exact absurd single several
      · exact ⟨_, .id broadcast single outside, rfl⟩
    · exact ⟨_, .members broadcast single, rfl⟩
  · exact ⟨_, .kind broadcast, rfl⟩

section
variable {nested : Nested}

/-- An objective that is refused is refused, and nothing else is done. -/
theorem runIn_submit_of_refuses
    {w : World}
    {i : Nat}
    {p : Pipeline}
    {o : Objective}
    {r : Refusal}
    (found : w.pipelines[i]? = some p)
    (refuses : Refuses w p o r)
    (ticket : Ticket) :
    (submit nested i ticket o).runIn w = (refuse nested o.kind p ticket r).runIn w := by
  unfold submit
  rw [Act.runIn_bind, runIn_pipeline_of_some found]
  cases o with
  | filter o =>
      cases refuses with
      | filter refused =>
          dsimp only
          unfold filter
          rw [refused]
          rfl
  | forward o =>
      cases refuses with
      | forward refused =>
          dsimp only
          unfold forward
          rw [Act.runIn_get_bind, refused]
          rfl
  | next o =>
      dsimp only
      unfold next
      rw [refuses.keyOfNext]
      rfl

/-- A forwarding objective that comes down to rules has them submitted as its operation says. -/
theorem runIn_forward
    {w : World}
    {i : Nat}
    {p : Pipeline}
    {o : ForwardingObjective}
    {rules : List Rule}
    (found : w.pipelines[i]? = some p)
    (compiled : o.compile p.layout (groupOf w p) = .ok rules)
    (ticket : Ticket) :
    (submit nested i ticket (.forward o)).runIn w =
      match batchFor rules o.operation with
      | .ok b => (submitBatch nested ticket b).runIn w
      | .error f => (.error f, w) := by
  unfold submit forward
  rw [Act.runIn_bind_ok _ (runIn_pipeline_of_some found), Act.runIn_get_bind, compiled]
  dsimp only
  cases batchFor rules o.operation with
  | ok b => rfl
  | error f => rfl

end

section
variable {d : List Duty}
variable {w : World}
variable {i : Nat}
variable {p : Pipeline}
variable {ticket : Ticket}

/-- The refusal of an objective that is held leaves nothing behind but its notice. -/
theorem refused_of_held
    {o : Objective}
    {r : Refusal}
    (visited : Visited ⟨.holding ticket :: d, w⟩)
    (found : w.pipelines[i]? = some p)
    (refuses : Refuses w p o r)
    (unsent : w.batchesFor ticket.serial = [])
    (depth : Nat) :
    Refused (reactTo depth) p o ticket r w ((submit (reactTo depth) i ticket o).after w) := by
  have noted : Visited ⟨.holding ticket :: d, w.note [.logged (.refused o.kind p.device r)]⟩ :=
    .tail visited (.move (.note trivial))
  obtain ⟨told, sent⟩ := noted.callBack (follows_reactTo depth) (.failure r.code)
  have opened : (submit (reactTo depth) i ticket o).after w =
      (callBack (reactTo depth) ticket (.failure r.code)).after
        (w.note [.logged (.refused o.kind p.device r)]) :=
    congrArg Prod.snd (runIn_submit_of_refuses found refuses ticket)
  rw [opened]
  refine ⟨?_, told, sent.trans unsent⟩
  obtain ⟨started, quiet | ⟨fails, onSuccess, onError, reacts, reacted⟩⟩ :=
    @after_callBack (reactTo depth) ticket (.failure r.code)
      (w.note [.logged (.refused o.kind p.device r)])
  · rw [World.note_note] at quiet
    exact ⟨started, .inl quiet⟩
  · rw [World.note_note] at reacted
    exact ⟨started, .inr ⟨fails, onSuccess, onError, reacts, reacted⟩⟩

/-- A filter that is held has its rules handed over in one batch. -/
theorem batchesFor_filter
    {o : FilteringObjective}
    {change : Change}
    {rules : List Rule}
    (visited : Visited ⟨.holding ticket :: d, w⟩)
    (found : w.pipelines[i]? = some p)
    (compiled : o.compile p.layout = .ok (change, rules))
    (depth : Nat) :
    ((submit (reactTo depth) i ticket (.filter o)).after w).batchesFor ticket.serial =
      w.batchesFor ticket.serial ++ [.ofRules change rules] := by
  obtain ⟨rule, others, rfl⟩ :=
    List.exists_cons_of_ne_nil (FilteringObjective.compile_ne_nil compiled)
  have opened : (submit (reactTo depth) i ticket (.filter o)).after w =
      (filter (reactTo depth) p ticket o).after w :=
    Act.after_bind_ok _ (runIn_pipeline_of_some found)
  rw [opened, filter, compiled]
  exact visited.submitBatch (follows_reactTo depth) _

/-- A forwarding objective that is held has its rules handed over in one batch, or none. -/
theorem batchesFor_forward
    {o : ForwardingObjective}
    {rules : List Rule}
    (visited : Visited ⟨.holding ticket :: d, w⟩)
    (found : w.pipelines[i]? = some p)
    (compiled : o.compile p.layout (groupOf w p) = .ok rules)
    (depth : Nat) :
    ((submit (reactTo depth) i ticket (.forward o)).after w).batchesFor ticket.serial =
      w.batchesFor ticket.serial ++ batchesOf rules o.operation := by
  obtain ⟨rule, others, rfl⟩ :=
    List.exists_cons_of_ne_nil (ForwardingObjective.compile_ne_nil compiled)
  rw [Act.after, runIn_forward found compiled]
  cases o.operation with
  | none => exact (List.append_nil _).symm
  | some operation =>
      cases operation with
      | add | remove | addToExisting | removeFromExisting =>
          exact visited.submitBatch (follows_reactTo depth) _

end

/--
An objective that a pipeline refuses leaves nothing behind but its notice, and its context is told
once; a next objective is refused unless it is for broadcast to one member under an identifier.  An
objective that comes down to rules hands all of them over in one batch, in their order and with one
change, or none at all.
-/
theorem submission_all_or_nothing
    {d : List Duty}
    {w : World}
    (visited : Visited ⟨d, w⟩)
    {i : Nat}
    {p : Pipeline}
    (found : w.pipelines[i]? = some p)
    (depth : Nat)
    (tag : String)
    (reaction : Reaction) :
    let ticket : Ticket := ⟨w.tickets, tag, reaction⟩
    let after (o : Objective) : World := (submit (reactTo depth) i ticket o).after w.issued
    (∀ o r, Refuses w p o r →
      Refused (reactTo depth) p o ticket r w.issued (after o)) ∧
    (∀ o : NextObjective,
      (o.kind ≠ some .broadcast ∨ o.members.length ≠ 1 ∨
        ∀ n, o.id = .number n → ¬KeySpace.InRange n) →
      ∃ r, Refuses w p (.next o) r ∧ r.code = .badParameters) ∧
    (∀ (o : FilteringObjective) change rules,
      o.compile p.layout = .ok (change, rules) →
      rules ≠ [] ∧ (after (.filter o)).batchesFor w.tickets = [.ofRules change rules]) ∧
    (∀ (o : ForwardingObjective) rules,
      o.compile p.layout (groupOf w p) = .ok rules →
      rules ≠ [] ∧ (after (.forward o)).batchesFor w.tickets = batchesOf rules o.operation) := by
  intro ticket after
  have held := visited.issue tag reaction
  have unsent : w.issued.batchesFor w.tickets = [] :=
    visited.tallied.batchesFor_eq_nil (Nat.le_refl _)
  refine ⟨fun o r refuses => refused_of_held held found refuses.issued unsent depth,
    fun o => exists_refuses_next w p, fun o change rules compiled => ?_, fun o rules compiled => ?_⟩
  · refine ⟨FilteringObjective.compile_ne_nil compiled, ?_⟩
    have sent := batchesFor_filter held found compiled depth
    rwa [unsent] at sent
  · refine ⟨ForwardingObjective.compile_ne_nil compiled, ?_⟩
    have sent := batchesFor_forward (w := w.issued) held found compiled depth
    rwa [unsent] at sent

/-- The state in which one pipeline has been built. -/
def onePipeline : World := (runStep 1 (.build "p" "olt" {} false) {}).after

/-- A next objective with two members. -/
def twoMembers : NextObjective :=
  { id := .number 42
    kind := some .broadcast
    members := [{}, {}]
    app := "olt"
    operation := some .add }

/-- A filter for the authentication of a port. -/
def authentication : FilteringObjective :=
  { key := some (.inPort (.number 7))
    conditions := [.etherType (.number WellKnown.etherEapol)]
    mode := some .deny
    priority := 1000
    app := "olt"
    trap := some { immediate := [.output (.number WellKnown.controllerPort)] } }

/-- A next objective with two members is refused, and a filter has its one rule removed. -/
theorem submission_all_or_nothing_onePipeline :
    let ticket : Ticket := ⟨onePipeline.tickets, "o", .recording true [] []⟩
    let after (o : Objective) : World := (submit (reactTo 1) 0 ticket o).after onePipeline.issued
    ∃ p, onePipeline.pipelines[0]? = some p ∧
      Refused (reactTo 1) p (.next twoMembers) ticket .notSingleton onePipeline.issued
        (after (.next twoMembers)) ∧
      ∃ rule, (after (.filter authentication)).batchesFor ticket.serial = [[(.remove, rule)]] := by
  intro ticket after
  have reached : Reached (fun _ => True) onePipeline := .step (.start false) 1 _ fun _ _ => trivial
  have some_pipeline : (onePipeline.pipelines[0]?).isSome = true := by decide +kernel
  obtain ⟨p, found⟩ := Option.isSome_iff_exists.mp some_pipeline
  obtain ⟨refused, -, filtered, -⟩ :=
    submission_all_or_nothing reached.visited found 1 "o" (.recording true [] [])
  refine ⟨p, found, refused _ _ (.members rfl (by decide)), ?_⟩
  exact ⟨_, (filtered authentication .remove _ rfl).2⟩

end Session
end LineTerminal
