import LineTerminal.Proofs.Session.Reached
import LineTerminal.Proofs.Session.Trace
import LineTerminal.Proofs.Session.Traversal.Steps

/-!
# The life of next objectives

While the clock works, all next objectives are accounted for after each step of a session: whatever
callbacks do in the middle of a step, and whatever the services refuse, every accepted call has made
one entry, and its context was told what became of the entry, once, as soon as it was final.
-/

namespace LineTerminal
namespace Session

/-- A step that does not break the clock. -/
def Step.KeepsClock : Step → Prop
  | .clock broken => broken = false
  | _ => True

instance : DecidablePred Step.KeepsClock := fun s => by
  unfold Step.KeepsClock
  split <;> infer_instance

/-- How the context of an accepted next objective has been told, by its fate. -/
def Answered (events : List Event) (r : Request NextTicket Float) : Fate → Prop
  | .pending | .superseded => endings r.subject.ticket.serial events = []
  | .expired =>
    endings r.subject.ticket.serial events =
      r.subject.ticket.heard (.failure .groupInstallationFailed)
  | .resolved => Confirmed events r

/-- All next objectives are accounted for. -/
structure World.Accounted (w : World) : Prop where
  /-- Every accepted call has made one entry. -/
  accepted : w.events.countP Event.isAcceptance = w.entries.length
  /-- No call has made two entries. -/
  tickets_nodup : (w.entries.map (·.1.subject.ticket.serial)).Nodup
  /-- An entry has the key of the identifier of its objective. -/
  keyed : ∀ p ∈ w.pipelines, ∀ entry ∈ p.tracker.history,
    p.keySpace.keyFor? entry.1.subject.id = some entry.1.key
  /-- The context of an entry has been told what became of it. -/
  answered : ∀ entry ∈ w.entries, Answered w.events entry.1 entry.2
  /-- A record was handed to the store once for each confirmed entry, and for no other. -/
  stored : ∀ id key, w.events.countP (Event.isStore id key) = w.entries.countP (resolvedFor id key)

/-- In an orderly state between two steps all next objectives are accounted for. -/
theorem Moment.Orderly.accounted
    {w : World}
    (orderly : Moment.Orderly ⟨[], w⟩) :
    w.Accounted := by
  obtain ⟨-, pipelines, tallies, answered, accepted, stored⟩ := orderly
  refine ⟨accepted, ?_, ?_, ?_, stored⟩
  · rw [List.nodup_iff_count_le_one]
    intro s
    obtain ⟨-, single, -⟩ := tallies s
    have counted : (w.entries.map (·.1.subject.ticket.serial)).count s = made w.entries s := by
      rw [made, List.count, List.countP_map]
      rfl
    rw [counted]
    exact Nat.le_trans (Nat.le_add_left _ _) single
  · intro p member entry made
    exact (pipelines p member).keyed entry.1 (List.mem_map_of_mem made)
  · rintro ⟨r, fate⟩ member
    have answers := answered (r, fate) member
    cases fate with
    | pending | superseded | resolved => exact answers.2
    | expired =>
        rcases answers with ⟨owed, -⟩ | ⟨-, told⟩
        · simp [Moment.books] at owed
        · exact told

/-- What is under way in a step of the session, or was noted, is what the step consists of. -/
theorem carried_iff_mem_stepsOf
    {n : Nat}
    {step s : Step}
    {w : World} :
    Carried n ⟨[.doing step], w⟩ s ↔ s ∈ stepsOf step (w.events.drop n) := by
  rw [mem_stepsOf, Carried]
  simp

/-- A step of the session that keeps the clock keeps the state orderly and leaves its traces. -/
theorem orderly_runStep
    {w : World}
    (orderly : Moment.Orderly ⟨[], w⟩)
    (depth : Nat)
    (step : Step)
    (keeps : ∀ s ∈ stepsOf step (runStep depth step w).events, s.KeepsClock) :
    Moment.Orderly ⟨[], (runStep depth step w).after⟩ ∧
      Traced w.events.length w ⟨[.doing step], (runStep depth step w).after⟩ := by
  have traced : Traced w.events.length w ⟨[.doing step], w⟩ :=
    ⟨Nat.le_refl _, .start, .inl, by simp, by simp, fun r => .inl, fun r => .inl⟩
  rcases Path.orderly (path_runStep depth step w) (Moment.orderly_doing.mpr orderly) traced with
    ⟨still, traced⟩ | broken
  · exact ⟨Moment.orderly_doing.mp still, traced⟩
  · have kept := keeps _ (carried_iff_mem_stepsOf.mp broken)
    exact absurd kept (by simp [Step.KeepsClock])

/-- All states that a session gets to with a working clock are orderly. -/
theorem Reached.orderly
    {w : World}
    (reached : Reached Step.KeepsClock w) :
    Moment.Orderly ⟨[], w⟩ := by
  induction reached with
  | start => exact ⟨rfl, by simp, Books.Balanced.start⟩
  | step _ depth step keeps ih => exact (orderly_runStep ih depth step keeps).1

/-- A call of `next` that is accepted makes an entry, which outlives whatever the call leads to. -/
theorem entry_of_next
    {w : World}
    (working : w.clockBroken = false)
    {i : Nat}
    {p : Pipeline}
    (found : w.pipelines[i]? = some p)
    {o : NextObjective}
    {key : GroupKey}
    (accepted : keyOfNext p o = .ok key)
    (depth : Nat)
    (ticket : Ticket) :
    ∃ fate, (⟨p.tracker.history.length, key, { ticket, id := o.id }, w.time⟩, fate) ∈
      ((next (reactTo depth) i p ticket o).after w).entries := by
  obtain ⟨e, -, path⟩ :=
    path_next_accepted (follows_reactTo depth) [] ticket o found accepted working
  have entered := List.mem_of_getElem?
    (getElem?_setTracker found (p.tracker.put key { ticket, id := o.id } w.time))
  obtain ⟨q, kept, grown⟩ := (Path.grows path).of_mem entered
  have placed : (⟨p.tracker.history.length, key, { ticket, id := o.id }, w.time⟩ :
      Request NextTicket Float) ∈
      (p.tracker.put key { ticket, id := o.id } w.time).requests := by
    rw [Tracker.requests_put]
    exact List.mem_append_right _ (List.mem_singleton.mpr rfl)
  have made := grown.tracker.requests placed
  obtain ⟨⟨r, fate⟩, entry, rfl⟩ := List.mem_map.mp made
  exact ⟨fate, List.mem_flatMap.mpr ⟨q, kept, entry⟩⟩

/--
While the clock works, every step of a session leaves all next objectives accounted for.  A request
is only confirmed by an event for its key, in time, and it only expires when its time has elapsed.
Every call of `next` that is accepted makes an entry, in a reaction as well.
-/
theorem next_objectives_accounted
    {w : World}
    (reached : Reached Step.KeepsClock w)
    (depth : Nat)
    (step : Step)
    (keeps : ∀ s ∈ stepsOf step (runStep depth step w).events, s.KeepsClock) :
    (runStep depth step w).after.Accounted ∧
    (∀ r, (r, Fate.resolved) ∈ (runStep depth step w).after.entries →
      (r, Fate.resolved) ∈ w.entries ∨
        Announced w (runStep depth step w).after (· ∈ stepsOf step (runStep depth step w).events)
          (runStep depth step w).events r.key ∧
        ∃ now, Reading w.time (· ∈ stepsOf step (runStep depth step w).events) now ∧
          (runStep depth step w).after.Timely now r) ∧
    (∀ r, (r, Fate.expired) ∈ (runStep depth step w).after.entries →
      (r, Fate.expired) ∈ w.entries ∨
        ∃ now, Reading w.time (· ∈ stepsOf step (runStep depth step w).events) now ∧
          (runStep depth step w).after.Late now r) ∧
    (∀ (v : World) (i : Nat) (p : Pipeline) (o : NextObjective) (key : GroupKey)
        (ticket : Ticket),
      v.clockBroken = false → v.pipelines[i]? = some p → keyOfNext p o = .ok key →
      ∃ fate, (⟨p.tracker.history.length, key, { ticket, id := o.id }, v.time⟩, fate) ∈
        ((next (reactTo depth) i p ticket o).runIn v).2.entries) := by
  obtain ⟨orderly, traced⟩ := orderly_runStep reached.orderly depth step keeps
  have more : ∀ s, Carried w.events.length ⟨[.doing step], (runStep depth step w).after⟩ s →
      s ∈ stepsOf step (runStep depth step w).events :=
    fun s => carried_iff_mem_stepsOf.mp
  refine ⟨orderly.accounted, ?_, ?_, ?_⟩
  · intro r member
    rcases traced.resolved r member with earlier | ⟨announced, now, reading, timely⟩
    · exact .inl earlier
    · have later := announced.mono more (List.Subset.refl _) (.refl _)
      exact .inr ⟨later, now, reading.mono more, timely⟩
  · intro r member
    rcases traced.expired r member with earlier | ⟨now, reading, late⟩
    · exact .inl earlier
    · exact .inr ⟨now, reading.mono more, late⟩
  · intro v i p o key ticket working found accepted
    exact entry_of_next working found accepted depth ticket

/-- A request whose context sweeps the pipeline and then fails when it is told of a success. -/
def eagerRequest : Step :=
  .submit "p"
    (.next
      { id := .number 42
        kind := some .broadcast
        members := [{}]
        app := ""
        operation := some .add })
    "n" (.recording true [.expire "p"] [])

/-- The state in which the request is pending. -/
def eagerlyWaiting : World :=
  (runStep 2 eagerRequest (runStep 2 (.build "p" "olt" {} false) {}).after).after

/-- A request is pending, an event confirms it, and all next objectives are accounted for. -/
theorem next_objectives_accounted_eager :
    eagerlyWaiting.entries.map (·.2) = [.pending] ∧
    (runStep 2 (.emit .added "olt" (.ofId "p" (.number 42))) eagerlyWaiting).after.entries.map
      (·.2) = [.resolved] ∧
    (runStep 2 (.emit .added "olt" (.ofId "p" (.number 42))) eagerlyWaiting).after.Accounted := by
  have opened : Reached Step.KeepsClock (runStep 2 (.build "p" "olt" {} false) {}).after :=
    .step (.start false) 2 _ (by decide +kernel)
  have waiting : Reached Step.KeepsClock eagerlyWaiting :=
    .step opened 2 eagerRequest (by decide +kernel)
  refine ⟨by decide +kernel, by decide +kernel, ?_⟩
  exact (next_objectives_accounted waiting 2 _ (by decide +kernel)).1

end Session
end LineTerminal
