import LineTerminal.Proofs.Session.Traversal.Services
import LineTerminal.Session.Pipeline

/-!
# How the submission of an objective ends

A filtering or forwarding objective is refused, comes down to one batch, or succeeds without one.
As long as the reactions of contexts hand no batches over, the batches that are handed over are
exactly those that the verdict speaks of.
-/

namespace LineTerminal
namespace Session

/-- How the submission of an objective ends. -/
inductive Verdict where
  /-- The objective is refused. -/
  | refused (code : ErrorCode)
  /-- A batch is handed to the flow rule service, which reports its outcome. -/
  | submitted (b : Batch)
  /-- The objective has succeeded without a batch. -/
  | done

/-- The batches that a verdict speaks of. -/
def Verdict.batches : Verdict → List Batch
  | submitted b => [b]
  | refused _ | done => []

/-- The batches that were handed to the flow rule service, in order. -/
def World.handed (w : World) : List Batch :=
  w.events.filterMap fun
    | .batch _ b => some b
    | _ => none

/-- No batch was handed over between two states. -/
def World.SameHanded (w v : World) : Prop := v.handed = w.handed

instance : Std.Refl World.SameHanded := ⟨fun _ => rfl⟩

instance : IsTrans World World.SameHanded := ⟨fun _ _ _ first second => second.trans first⟩

/-- What is done at a pipeline with an objective of some kind to carry out a verdict. -/
def Verdict.Done (nested : Nested) (kind : ObjectiveKind) (p : Pipeline) (ticket : Ticket)
    (act : Act World Unit) (w : World) : Verdict → Prop
  | refused code => ∃ r : Refusal, r.code = code ∧
      act.runIn w = (refuse nested kind p ticket r).runIn w
  | submitted b => act.runIn w = (applyBatch nested ticket b).runIn w
  | done => act.runIn w = (callBack nested ticket .success).runIn w

/-- A verdict is carried out, and no other batches are handed over. -/
structure Verdict.Given (nested : Nested) (kind : ObjectiveKind) (p : Pipeline) (ticket : Ticket)
    (act : Act World Unit) (w : World) (v : Verdict) : Prop where
  done : v.Done nested kind p ticket act w
  /-- Only a reaction can hand over further batches. -/
  handed : (∀ script, (nested script).Follows World.SameHanded) →
    (act.after w).handed = w.handed ++ v.batches

theorem handed_note {e : Event} (other : ∀ number b, e ≠ .batch number b) (w : World) :
    (w.note [e]).handed = w.handed := by
  unfold World.handed World.note
  rw [List.filterMap_append]
  cases e with
  | batch number b => exact absurd rfl (other number b)
  | group | store | ended | stepped | waited | logged => exact List.append_nil _

theorem sameHanded_record {e : Event} (other : ∀ number b, e ≠ .batch number b) :
    (record e).Follows World.SameHanded :=
  handed_note other

theorem sameHanded_startScript (serial : Nat) (success : Bool) :
    (startScript serial success).Follows World.SameHanded := by
  intro w
  rw [Act.after, runIn_startScript]
  split
  · exact refl w
  · rfl

theorem sameHanded_settleBatch? (number : Nat) :
    (settleBatch? number).Follows World.SameHanded := by
  intro w
  rw [Act.after, runIn_settleBatch?]
  split
  · exact refl w
  · split
    · exact refl w
    · rfl

section
variable {nested : Nested}
variable (quiet : ∀ script, (nested script).Follows World.SameHanded)
include quiet

theorem sameHanded_callBack (ticket : Ticket) (ending : Ending) :
    (callBack nested ticket ending).Follows World.SameHanded := by
  unfold callBack
  cases ticket.reaction with
  | silent => exact .pure _
  | recording fails onSuccess onError =>
      have last : (if fails = true then throw (.outage .context) else pure () :
          Act World Unit).Follows World.SameHanded :=
        .ite (.throw _) (.pure _)
      refine .bind (sameHanded_record (by simp)) fun _ => ?_
      refine .bind (sameHanded_startScript _ _) fun first => ?_
      exact .ite (.bind (quiet _) fun _ => last) last

/-- The outcome of a batch is passed on without a batch. -/
theorem sameHanded_completeBatch (number : Nat) (success : Bool) :
    (completeBatch nested number success).Follows World.SameHanded := by
  unfold completeBatch
  refine .bind (sameHanded_settleBatch? number) fun settled => ?_
  cases settled with
  | none => exact .pure _
  | some sent =>
      have told := sameHanded_callBack quiet sent.ticket
      cases success with
      | true => exact told .success
      | false =>
          exact .bind (sameHanded_record (by simp)) fun _ => told (.failure .flowInstallationFailed)

/-- A batch is handed over once. -/
theorem handed_applyBatch (ticket : Ticket) (b : Batch) (w : World) :
    ((applyBatch nested ticket b).after w).handed = w.handed ++ [b] := by
  -- Whatever the service reports at once, it reports after the batch was noted.
  have complete (success : Bool) := sameHanded_completeBatch quiet w.batches.length success
  have noted : (w.send ticket b).handed = w.handed ++ [b] := List.filterMap_append
  rw [after_applyBatch, ← noted]
  change World.SameHanded (w.send ticket b) _
  cases w.flowMode with
  | succeed => exact complete true _
  | fail => exact complete false _
  | hold => exact refl _
  | succeedThenFail => exact (complete true).bind (fun _ => complete false) _
  | failThenSucceed => exact (complete false).bind (fun _ => complete true) _
  | refuse => exact refl _

end

/-- Whatever carries out a verdict hands over its batches and no others. -/
theorem Verdict.given_of_done
    {nested : Nested}
    {kind : ObjectiveKind}
    {p : Pipeline}
    {ticket : Ticket}
    {act : Act World Unit}
    {w : World}
    {v : Verdict}
    (done : v.Done nested kind p ticket act w) :
    v.Given nested kind p ticket act w where
  done := done
  handed quiet := by
    cases v with
    | refused code =>
        obtain ⟨r, -, same⟩ := done
        have noted : (log (.refused kind p.device r)).Follows World.SameHanded :=
          sameHanded_record (by simp)
        have refused := noted.bind fun _ => sameHanded_callBack quiet ticket (.failure r.code)
        rw [Act.after, same]
        exact (refused w).trans (List.append_nil _).symm
    | submitted b =>
        rw [Act.after, done]
        exact handed_applyBatch quiet ticket b w
    | done =>
        rw [Act.after, done]
        exact (sameHanded_callBack quiet ticket .success w).trans (List.append_nil _).symm

/-- What is proposed for every value is in range. -/
theorem draft_inRange :
    0 ≤ ({} : Draft).serviceTable ∧ 0 ≤ ({} : Draft).dropPriority ∧
      ¬({} : Draft).timeToLive ≤ 0 ∧ ¬({} : Draft).sweepInterval ≤ 0 ∧
      ({} : Draft).keySpace ≠ "" := by
  decide +kernel

/-- The settings of a pipeline when nothing is chosen. -/
def usualSettings : Settings :=
  { ({} : Draft) with
    serviceTable_nonneg := draft_inRange.1
    dropPriority_nonneg := draft_inRange.2.1
    timeToLive_pos := draft_inRange.2.2.1
    sweepInterval_pos := draft_inRange.2.2.2.1
    keySpace_ne_empty := draft_inRange.2.2.2.2 }

end Session
end LineTerminal
