import LineTerminal.Proofs.Session.Traversal.Services

/-!
# What an event leaves alone

When the context that an event concerns carries out no steps, the event is heard without a reaction.
It changes the requests of one pipeline only, and it is heard in the same way whether another one
listens or not.
-/

namespace LineTerminal
namespace Session

/-! ### Contexts that do nothing further -/

/-- The context carries out no steps when it is called back. -/
def Reaction.Idle : Reaction → Prop
  | .silent => True
  | .recording _ onSuccess onError => onSuccess = [] ∧ onError = []

/-- The contexts of live requests under a key are idle, except at one pipeline. -/
def World.IdleBeside (j : Nat) (key : GroupKey) (w : World) : Prop :=
  ∀ i r, i ≠ j → (trackerOf i w).get? key = some r → r.subject.ticket.reaction.Idle

theorem reactTo_nil (depth : Nat) : reactTo depth [] = pure () := by
  cases depth <;> rfl

/-- An idle context is told without a reaction. -/
theorem callBack_of_idle
    {ticket : Ticket}
    (idle : ticket.reaction.Idle)
    (depth : Nat)
    (ending : Ending) :
    callBack (reactTo depth) ticket ending = callBack (reactTo 0) ticket ending := by
  unfold callBack
  cases same : ticket.reaction with
  | silent => rfl
  | recording fails onSuccess onError =>
      rw [same] at idle
      obtain ⟨rfl, rfl⟩ := idle
      simp only [ite_self, reactTo_nil]

theorem announce_of_idle
    {r : Request NextTicket Float}
    (idle : r.subject.ticket.reaction.Idle)
    (depth i : Nat) :
    (keeper (reactTo depth) i).announce r = (keeper (reactTo 0) i).announce r := by
  unfold Keeper.announce keeper
  simp only [callBack_of_idle idle depth]
  rfl

theorem acknowledge_of_idle
    {r : Request NextTicket Float}
    (idle : r.subject.ticket.reaction.Idle)
    (depth : Nat) :
    acknowledge (reactTo depth) r = acknowledge (reactTo 0) r := by
  unfold acknowledge
  simp only [callBack_of_idle idle depth]

/-- An event is heard without a reaction when the context that it concerns is idle. -/
theorem runIn_hear_of_idle
    {event : GroupEvent}
    {key : GroupKey}
    {i : Nat}
    {w : World}
    (idle : ∀ r, (trackerOf i w).get? key = some r → r.subject.ticket.reaction.Idle)
    (depth : Nat) :
    (hear (reactTo depth) event key i).runIn w = (hear (reactTo 0) event key i).runIn w := by
  rcases quiet_or_live event key i w with quiet | ⟨confirms, p, r, found, live, rfl⟩
  · rw [runIn_hear_of_none quiet, runIn_hear_of_none quiet]
  · have reaction : r.subject.ticket.reaction.Idle := by
      apply idle r
      rw [trackerOf_of_some found]
      exact live
    rw [runIn_hear_of_get? confirms found live, runIn_hear_of_get? confirms found live,
      announce_of_idle reaction, acknowledge_of_idle reaction]

/-! ### What a bystander keeps -/

/-- Pipelines are not changed. -/
def SamePipelines (w w' : World) : Prop := w'.pipelines = w.pipelines

instance : Std.Refl SamePipelines := ⟨fun _ => rfl⟩

instance : IsTrans World SamePipelines := ⟨fun _ _ _ first second => Eq.trans second first⟩

theorem samePipelines_record (e : Event) : (record e).Follows SamePipelines := fun _ => rfl

theorem samePipelines_callBack (ticket : Ticket) (ending : Ending) :
    (callBack (reactTo 0) ticket ending).Follows SamePipelines := by
  have started (serial : Nat) (success : Bool) :
      (startScript serial success).Follows SamePipelines := by
    intro w
    rw [Act.after, runIn_startScript]
    split <;> rfl
  unfold callBack
  cases ticket.reaction with
  | silent => exact .pure _
  | recording fails onSuccess onError =>
      refine .bind (samePipelines_record _) fun _ => .bind (started _ _) fun first => ?_
      have last : (if fails = true then throw (.outage .context) else pure () :
          Act World Unit).Follows SamePipelines :=
        .ite (.throw _) (.pure _)
      exact .ite (.bind (.pure _) fun _ => last) last

theorem samePipelines_announce (i : Nat) (r : Request NextTicket Float) :
    ((keeper (reactTo 0) i).announce r).Follows SamePipelines := by
  unfold Keeper.announce keeper
  refine .bind (.bind .get fun w => .pure _) fun t => .bind (samePipelines_record _) fun _ => ?_
  refine .bind (.attempt (samePipelines_callBack _ _)) fun outcome => ?_
  cases outcome with
  | ok _ => exact .pure _
  | error _ => exact samePipelines_record _

theorem samePipelines_acknowledge (r : Request NextTicket Float) :
    (acknowledge (reactTo 0) r).Follows SamePipelines := by
  have stored : (storeRecord r.subject.id r.key).Follows SamePipelines := by
    intro w
    rw [Act.after, runIn_storeRecord]
    split <;> rfl
  refine .bind (.attempt stored) fun outcome => ?_
  cases outcome with
  | ok _ => exact samePipelines_callBack _ _
  | error _ => exact .bind (samePipelines_record _) fun _ => samePipelines_callBack _ _

/-- The requests of one pipeline stay as they are, and none is added under a key. -/
structure World.Beside (j : Nat) (key : GroupKey) (w w' : World) : Prop where
  tracker : trackerOf j w' = trackerOf j w
  live : ∀ i r, (trackerOf i w').get? key = some r → (trackerOf i w).get? key = some r

theorem trackerOf_congr
    {w w' : World}
    (same : w'.pipelines = w.pipelines)
    (i : Nat) :
    trackerOf i w' = trackerOf i w := by
  unfold trackerOf
  rw [same]

theorem trackerOf_setTracker_of_ne
    {i j : Nat}
    (other : i ≠ j)
    (w : World)
    (t : Tracker NextTicket Float) :
    trackerOf j (w.setTracker i t) = trackerOf j w := by
  simp [trackerOf, World.setTracker, other]

/-- An event that finds a request changes nothing but its tracker. -/
theorem pipelines_hear_of_get?
    {event : GroupEvent}
    {i : Nat}
    {p : Pipeline}
    {r : Request NextTicket Float}
    {w : World}
    (confirms : event.Confirms)
    (found : w.pipelines[i]? = some p)
    (live : p.tracker.get? r.key = some r) :
    ∃ t : Tracker NextTicket Float, t.live = (p.tracker.erase r.key).live ∧
      ((hear (reactTo 0) event r.key i).after w).pipelines = (w.setTracker i t).pipelines := by
  rw [Act.after, runIn_hear_of_get? confirms found live]
  split
  · exact ⟨p.tracker.erase r.key, rfl, rfl⟩
  · split
    · exact ⟨(p.tracker.erase r.key).settle r .expired, rfl, samePipelines_announce i r _⟩
    · exact ⟨(p.tracker.erase r.key).settle r .resolved, rfl, samePipelines_acknowledge r _⟩

/-- An event that is heard without a reaction concerns one pipeline only. -/
theorem beside_hear
    {i j : Nat}
    (other : i ≠ j)
    (event : GroupEvent)
    (key : GroupKey)
    (w : World) :
    w.Beside j key ((hear (reactTo 0) event key i).after w) := by
  rcases quiet_or_live event key i w with quiet | ⟨confirms, p, r, found, live, rfl⟩
  · rw [Act.after, runIn_hear_of_none quiet]
    exact ⟨rfl, fun _ _ => id⟩
  · obtain ⟨t, erased, same⟩ := pipelines_hear_of_get? confirms found live
    refine ⟨?_, fun k q => ?_⟩
    · rw [trackerOf_congr same, trackerOf_setTracker_of_ne other]
    · rw [trackerOf_congr same]
      by_cases here : i = k
      · subst here
        have gone : t.get? r.key = none := by
          rw [Tracker.get?, erased]
          exact Tracker.get?_erase p.tracker r.key
        rw [trackerOf_setTracker found, gone]
        intro absent
        cases absent
      · rw [trackerOf_setTracker_of_ne here]
        exact id

theorem World.IdleBeside.mono
    {j : Nat}
    {key : GroupKey}
    {w w' : World}
    (idle : w.IdleBeside j key)
    (beside : w.Beside j key w') :
    w'.IdleBeside j key :=
  fun i r other live => idle i r other (beside.live i r live)

/-! ### A pipeline that does not listen -/

/-- The state in which a pipeline does not listen. -/
def World.deaf (j : Nat) (w : World) : World :=
  { w with listeners := w.listeners.filter (· ≠ j) }

section
variable (j : Nat)

theorem deaf_setTracker (w : World) (i : Nat) (t : Tracker NextTicket Float) :
    (w.deaf j).setTracker i t = (w.setTracker i t).deaf j := rfl

theorem commutes_record (e : Event) : (record e).Commutes (World.deaf j) := fun _ => rfl

theorem commutes_callBack (ticket : Ticket) (ending : Ending) :
    (callBack (reactTo 0) ticket ending).Commutes (World.deaf j) := by
  have started (serial : Nat) (success : Bool) :
      (startScript serial success).Commutes (World.deaf j) := by
    intro w
    have same : (w.deaf j).started = w.started := rfl
    rw [Act.after, runIn_startScript, runIn_startScript, same]
    split <;> rfl
  unfold callBack
  cases ticket.reaction with
  | silent => exact .pure _
  | recording fails onSuccess onError =>
      refine .bind (commutes_record j _) fun _ => .bind (started _ _) fun first => ?_
      have last : (if fails = true then throw (.outage .context) else pure () :
          Act World Unit).Commutes (World.deaf j) :=
        .ite (.throw _) (.pure _)
      exact .ite (.bind (.pure _) fun _ => last) last

theorem commutes_announce (i : Nat) (r : Request NextTicket Float) :
    ((keeper (reactTo 0) i).announce r).Commutes (World.deaf j) := by
  have current : (keeper (reactTo 0) i).current.Commutes (World.deaf j) := fun _ => rfl
  refine .bind current fun t => .bind (commutes_record j _) fun _ => ?_
  refine .bind (.attempt (commutes_callBack j _ _)) fun outcome => ?_
  cases outcome with
  | ok _ => exact .pure _
  | error _ => exact commutes_record j _

theorem commutes_acknowledge (r : Request NextTicket Float) :
    (acknowledge (reactTo 0) r).Commutes (World.deaf j) := by
  have stored : (storeRecord r.subject.id r.key).Commutes (World.deaf j) := by
    intro w
    have same : (w.deaf j).storeFails = w.storeFails := rfl
    rw [Act.after, runIn_storeRecord, runIn_storeRecord, same]
    split <;> rfl
  refine .bind (.attempt stored) fun outcome => ?_
  cases outcome with
  | ok _ => exact commutes_callBack j _ _
  | error _ => exact .bind (commutes_record j _) fun _ => commutes_callBack j _ _

/-- One pipeline hears of an event in the same way, whether another one listens or not. -/
theorem commutes_hear (event : GroupEvent) (key : GroupKey) (i : Nat) :
    (hear (reactTo 0) event key i).Commutes (World.deaf j) := by
  intro w
  rcases quiet_or_live event key i w with quiet | ⟨confirms, p, r, found, live, rfl⟩
  · have deaf : event.Confirms → (trackerOf i (w.deaf j)).get? key = none := quiet
    rw [Act.after, runIn_hear_of_none quiet, runIn_hear_of_none deaf]
  · have there : (w.deaf j).pipelines[i]? = some p := found
    have clock : (w.deaf j).clockBroken = w.clockBroken := rfl
    have time : (w.deaf j).time = w.time := rfl
    rw [Act.after, runIn_hear_of_get? confirms found live, runIn_hear_of_get? confirms there live,
      clock, time]
    simp only [deaf_setTracker]
    split
    · rfl
    · split
      · rw [commutes_announce]
        rfl
      · rw [commutes_acknowledge]
        rfl

end

end Session
end LineTerminal
