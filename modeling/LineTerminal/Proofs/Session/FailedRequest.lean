import LineTerminal.Proofs.Session.Interference
import LineTerminal.Proofs.Session.Refusals

/-!
# Group requests that are not taken

A next objective is pending before anything is asked of the group service, and an earlier
request for its key is superseded by then.  Nothing of this is undone when the operation
turns out to be unknown, or the group service does not take the request.  Only when the
clock cannot be read is the tracker left as it was, since the clock is read first.
-/

namespace LineTerminal

namespace Tracker
variable {ο τ : Type}

/-- A request has been left behind in a tracker. -/
structure LeftBehind (t left : Tracker ο τ) (r : Request ο τ) : Prop where
  /-- It is the one that is live under its key. -/
  live : left.get? r.key = some r
  /-- It is pending. -/
  pending : (r, Fate.pending) ∈ left.history
  /-- One that was live under the key is superseded, and not live any more. -/
  superseded : ∀ q, t.get? r.key = some q → (q, Fate.superseded) ∈ left.history ∧ q ∉ left.live
  /-- All other keys have the requests that they had. -/
  others : ∀ key, key ≠ r.key → left.get? key = t.get? key
  /-- The keys keep their order, and a new one comes last. -/
  keys : left.live.map (·.key) =
    if r.key ∈ t.live.map (·.key) then t.live.map (·.key) else t.live.map (·.key) ++ [r.key]

variable {t : Tracker ο τ}

/-- A request that is put in its place does not touch those for other keys. -/
theorem find?_place_of_ne
    {r : Request ο τ}
    {key : GroupKey}
    (other : key ≠ r.key)
    (live : List (Request ο τ)) :
    (place r live).find? (fun q => q.key = key) = live.find? fun q => q.key = key := by
  induction live with
  | nil => simp [place, other.symm]
  | cons p rest ih =>
      unfold place
      split
      · next same => simp [same, other.symm]
      · simp only [List.find?_cons, ih]

/-- A request that is made stays in the tracker until it is concluded. -/
theorem Steady.leftBehind
    (steady : t.Steady)
    (key : GroupKey)
    (subject : ο)
    (now : τ) :
    t.LeftBehind (t.put key subject now) ⟨t.history.length, key, subject, now⟩ where
  live := get?_put key subject now
  pending := (steady.mem_history_put key subject now _).mpr (.inl rfl)
  superseded q found := by
    have made := steady.pending_of_get? found
    refine ⟨?_, fun live => ?_⟩
    · rw [history_put_of_get?_eq_some found]
      refine List.mem_append_left _ ((steady.numbered.mem_settle_iff made).mpr ?_)
      exact .inl ⟨rfl, rfl⟩
    · rcases (mem_place steady.keys_nodup).mp live with rfl | ⟨-, other⟩
      · -- The number of a new request is not the number of an old one.
        have numbered : t.history.length ∈ t.history.map (·.1.serial) :=
          List.mem_map_of_mem made
        rw [steady.numbered, List.mem_range] at numbered
        exact Nat.lt_irrefl _ numbered
      · exact other (mem_of_get? found).2
  others other different := find?_place_of_ne different t.live
  keys := map_key_place _ t.live

end Tracker

namespace Session

/-! ### Trackers of a session are steady -/

/-- The trackers of all pipelines are steady. -/
def World.Steady (w : World) : Prop := ∀ p ∈ w.pipelines, p.tracker.Steady

theorem World.Steady.setTracker
    {w : World}
    (steady : w.Steady)
    {i : Nat}
    {p : Pipeline}
    (found : w.pipelines[i]? = some p)
    {t : Tracker NextTicket Float}
    (keeps : p.tracker.Steady → t.Steady) :
    (w.setTracker i t).Steady := by
  intro q member
  rcases mem_pipelines_setTracker found member with earlier | rfl
  · exact steady q earlier
  · exact keeps (steady p (List.mem_of_getElem? found))

/-- Every move keeps the trackers steady, also when the clock cannot be read. -/
theorem Move.steady
    {m m' : Moment}
    (move : Move m m')
    (steady : m.world.Steady) :
    m'.world.Steady := by
  cases move with
  | quiet quiet =>
      refine quiet.forall_pipelines steady fun p q steady same => ?_
      rwa [Pipeline.tracker_eq_of_core_eq same]
  | build device settings =>
      intro p member
      rcases List.mem_append.mp member with earlier | new
      · exact steady p earlier
      · rw [List.mem_singleton.mp new]
        exact (Tracker.Sound.empty _).steady
  | enter found => exact steady.setTracker found fun t => t.put _ _ _
  | confirm _ _ found live => exact steady.setTracker found fun t => t.conclude live (by decide)
  | lapse _ _ found live => exact steady.setTracker found fun t => t.conclude live (by decide)
  | lose _ _ found => exact steady.setTracker found fun t => t.erase _
  | sweep found => exact steady.setTracker found fun t => t.sweep _
  | note | begin | finish | advance | clock | mode | putRecord | issue | abandon | answer | send
  | relay | tell | dealt | report | reported => exact steady

/-- Whatever has happened in a session, its trackers are steady. -/
theorem Visited.steady {m : Moment} (visited : Visited m) : m.world.Steady := by
  induction visited with
  | refl => exact fun _ member => nomatch member
  | tail _ turn ih =>
      cases turn with
      | move move => exact move.steady ih
      | leave => exact ih

/-! ### What is left of a request -/

/-- The group service is asked for nothing, or takes no requests. -/
def Unserved (w : World) (o : NextObjective) : Prop :=
  o.operation = none ∨ w.groupMode = .refuse

section
variable {w : World} {i : Nat} {p : Pipeline} {o : NextObjective} {key : GroupKey}

theorem runIn_submit_next
    (found : w.pipelines[i]? = some p)
    (nested : Nested)
    (ticket : Ticket) :
    (submit nested i ticket (.next o)).runIn w = (next nested i p ticket o).runIn w := by
  unfold submit
  rw [Act.runIn_bind, runIn_pipeline_of_some found]

/-- A next objective that is not served is tracked, and one event is noted. -/
theorem runIn_submit_unserved
    (found : w.pipelines[i]? = some p)
    (accepted : keyOfNext p o = .ok key)
    (unserved : Unserved w o)
    (working : w.clockBroken = false)
    (nested : Nested)
    (ticket : Ticket) :
    ∃ e : Event, e.Accepts p.device key ∧
      (submit nested i ticket (.next o)).runIn w =
        (if o.operation = none then .ok () else .error (.outage .groups),
          (w.setTracker i (p.tracker.put key { ticket, id := o.id } w.time)).note [e]) := by
  have put := runIn_discard_put nested found key { ticket, id := o.id }
  rw [if_neg (by simp [working])] at put
  have asked (request : GroupRequest) (buckets : List Treatment) (refuses : w.groupMode = .refuse) :
      (requestGroup nested request p.device key buckets o.app).runIn
          (w.setTracker i (p.tracker.put key { ticket, id := o.id } w.time)) =
        (.error (.outage .groups),
          (w.setTracker i (p.tracker.put key { ticket, id := o.id } w.time)).note
            [.group request p.device key buckets o.app]) := by
    rw [runIn_requestGroup]
    exact if_pos refuses
  have group (request : GroupRequest) (buckets : List Treatment) :
      (Event.group request p.device key buckets o.app).Accepts p.device key :=
    .inl ⟨request, buckets, o.app, rfl⟩
  rw [runIn_submit_next found, next, accepted]
  dsimp only
  rw [Act.runIn_bind_ok _ put]
  cases operation : o.operation with
  | none => exact ⟨.logged .unknownOperation, .inr rfl, rfl⟩
  | some op =>
      have refuses : w.groupMode = .refuse := by
        refine unserved.resolve_left ?_
        rw [operation]
        exact Option.some_ne_none op
      cases op with
      | add => exact ⟨_, group _ _, asked .add o.members refuses⟩
      | remove => exact ⟨_, group _ _, asked .remove [] refuses⟩
      | addToExisting => exact ⟨_, group _ _, asked (.addBuckets key) o.members refuses⟩
      | removeFromExisting => exact ⟨_, group _ _, asked (.removeBuckets key) o.members refuses⟩

end

/--
A next objective for which no group request is taken leaves its tracker as it was exactly when the
clock cannot be read, and then it changes nothing at all.  Otherwise a request for it is left behind
as pending, in the place of the one that was live under its key, and nobody is told.
-/
theorem unserved_left_behind
    {d : List Duty}
    {w : World}
    (visited : Visited ⟨d, w⟩)
    {i : Nat}
    {p : Pipeline}
    (found : w.pipelines[i]? = some p)
    {o : NextObjective}
    {key : GroupKey}
    (accepted : keyOfNext p o = .ok key)
    (unserved : Unserved w o)
    (nested : Nested)
    (ticket : Ticket) :
    let outcome := (submit nested i ticket (.next o)).runIn w
    (trackerOf i outcome.2 = p.tracker ↔ w.clockBroken = true) ∧
    (w.clockBroken = true → outcome = (.error (.outage .clock), w)) ∧
    (w.clockBroken = false → ∃ left e, e.Accepts p.device key ∧
      outcome = (if o.operation = none then .ok () else .error (.outage .groups),
        (w.setTracker i left).note [e]) ∧
      p.tracker.LeftBehind left
        ⟨p.tracker.history.length, key, { ticket, id := o.id }, w.time⟩) := by
  intro outcome
  have steady : p.tracker.Steady := visited.steady p (List.mem_of_getElem? found)
  have stopped (broken : w.clockBroken = true) : outcome = (.error (.outage .clock), w) :=
    (runIn_submit_next found nested ticket).trans
      (runIn_next_of_clockBroken ticket o accepted broken)
  cases broken : w.clockBroken with
  | true =>
      have kept : trackerOf i outcome.2 = p.tracker := by
        rw [stopped broken]
        exact trackerOf_of_some found
      exact ⟨iff_of_true kept rfl, fun _ => stopped broken, nofun⟩
  | false =>
      obtain ⟨e, accepts, ran⟩ :=
        runIn_submit_unserved found accepted unserved broken nested ticket
      have left : trackerOf i outcome.2 = p.tracker.put key { ticket, id := o.id } w.time := by
        refine Eq.trans ?_ (trackerOf_setTracker found _)
        exact congrArg (fun ran => trackerOf i ran.2) ran
      have longer : trackerOf i outcome.2 ≠ p.tracker := by
        intro same
        have requests := congrArg List.length
          (Tracker.requests_put (t := p.tracker) key { ticket, id := o.id } w.time)
        rw [← left, same, List.length_append] at requests
        simp at requests
      exact ⟨iff_of_false longer (by simp), nofun, fun _ =>
        ⟨_, e, accepts, ran, steady.leftBehind key _ w.time⟩⟩

/-- A request for the broadcast group of the next objective 42. -/
def groupObjective : NextObjective :=
  { id := .number 42
    kind := some .broadcast
    members := [{}]
    app := ""
    operation := some .add }

/-- A next objective has been accepted, and now the group service takes no requests. -/
def unservedOnce : World :=
  [.submit "p" (.next groupObjective) "first" (.recording false [] []),
    .mode none (some .refuse) none].foldl (fun w step => (runStep 1 step w).after) onePipeline

theorem unserved_left_behind_once :
    let ticket : Ticket := ⟨1, "second", .recording false [] []⟩
    ∃ p, unservedOnce.pipelines[0]? = some p ∧ unservedOnce.groupMode = .refuse ∧
      trackerOf 0 ((submit (reactTo 1) 0 ticket (.next groupObjective)).after unservedOnce) ≠
        p.tracker := by
  intro ticket
  have reached : Reached (fun _ => True) unservedOnce := by
    refine .step (.step (.step (.start false) 1 _ ?_) 1 _ ?_) 1 _ ?_ <;> exact fun _ _ => trivial
  have some_pipeline : (unservedOnce.pipelines[0]?).isSome = true := by decide +kernel
  obtain ⟨p, found⟩ := Option.isSome_iff_exists.mp some_pipeline
  have accepted : keyOfNext p groupObjective = .ok (p.keySpace.keyOf 42) := rfl
  have refuses : unservedOnce.groupMode = .refuse := by decide +kernel
  obtain ⟨kept_iff, -, -⟩ := unserved_left_behind reached.visited found accepted (.inr refuses)
    (reactTo 1) ticket
  have working : unservedOnce.clockBroken = false := by decide +kernel
  refine ⟨p, found, refuses, fun kept => ?_⟩
  rw [kept_iff.mp kept] at working
  cases working

/-- The second of two requests for one group is not taken.  It is pending all the same, and the
first one is superseded. -/
theorem unserved_superseded_first :
    let tracked (w : World) := w.pipelines.map fun p =>
      p.tracker.history.map fun (r, fate) => (r.subject.ticket.tag, fate)
    unservedOnce.groupMode = .refuse ∧
    tracked unservedOnce = [[("first", .pending)]] ∧
    tracked (runStep 1 (.submit "p" (.next groupObjective) "second" (.recording false [] []))
      unservedOnce).after = [[("first", .superseded), ("second", .pending)]] := by
  decide +kernel

end Session
end LineTerminal
