import LineTerminal.Proofs.Session.Bystander
import LineTerminal.Proofs.Session.Trace
import LineTerminal.Proofs.Session.Traversal.Steps

/-!
# Events about the groups of other devices

All pipelines of a session hear of all group events, and keys do not tell devices apart.  So an
event about the group of one device can confirm the request of another.  It does so exactly when it
confirms groups, gets to the pipeline, and finds a live request there; otherwise everything happens
as if the pipeline did not listen.
-/

namespace LineTerminal
namespace Session

/-! ### Events that spare a pipeline -/

/--
An act spares a pipeline: the requests of the pipeline stay as they are, and what happens is what
would happen if the pipeline did not listen.
-/
structure Spares {α : Type} (j : Nat) (w : World) (act : Act World α) : Prop where
  tracker : trackerOf j (act.after w) = trackerOf j w
  deaf : act.runIn (w.deaf j) = ((act.runIn w).1, (act.after w).deaf j)

/-- An event gets to a pipeline: it is among the listeners, and none before it fails. -/
def Reaches
    (nested : Nested)
    (event : GroupEvent)
    (key : GroupKey)
    (j : Nat)
    (listeners : List Nat)
    (w : World) : Prop :=
  ∃ before after, listeners = before ++ j :: after ∧ j ∉ before ∧
    ((hearAll nested event key before).runIn w).1.isOk = true

/-- An event confirms groups, gets to a pipeline, and finds a live request there. -/
structure Exposed
    (nested : Nested)
    (event : GroupEvent)
    (key : GroupKey)
    (j : Nat)
    (w : World) : Prop where
  confirms : event.Confirms
  live : (trackerOf j w).contains key = true
  reached : Reaches nested event key j w.listeners w

section
variable {depth j : Nat}
variable {event : GroupEvent}
variable {key : GroupKey}
variable {w : World}

theorem runIn_hearAll_cons (nested : Nested) (i : Nat) (rest : List Nat) :
    (hearAll nested event key (i :: rest)).runIn w =
      match (hear nested event key i).runIn w with
      | (.ok _, v) => (hearAll nested event key rest).runIn v
      | (.error f, v) => (.error f, v) := by
  rw [hearAll, Act.runIn_bind]
  cases (hear nested event key i).runIn w with
  | mk outcome v => cases outcome <;> rfl

/-- An event that does not get to a pipeline, or finds nothing there, spares it. -/
theorem hearAll_spares
    (listeners : List Nat)
    (idle : w.IdleBeside j key)
    (spared : event.Confirms → (trackerOf j w).contains key = true →
      ¬Reaches (reactTo depth) event key j listeners w) :
    trackerOf j ((hearAll (reactTo depth) event key listeners).after w) = trackerOf j w ∧
    (hearAll (reactTo depth) event key (listeners.filter (· ≠ j))).runIn (w.deaf j) =
      (((hearAll (reactTo depth) event key listeners).runIn w).1,
        ((hearAll (reactTo depth) event key listeners).after w).deaf j) := by
  -- The state varies: each listener before the pipeline changes its own tracker only, so that the
  -- contexts stay idle and what the pipeline has pending stays the same.
  induction listeners generalizing w with
  | nil => exact ⟨rfl, rfl⟩
  | cons i rest ih =>
      by_cases here : i = j
      · subst here
        have quiet (confirms : event.Confirms) : (trackerOf i w).get? key = none := by
          have missing := mt (spared confirms) (not_not.mpr ⟨[], rest, rfl, List.not_mem_nil, rfl⟩)
          simpa [Tracker.contains] using missing
        have heard : (hear (reactTo depth) event key i).runIn w = (.ok (), w) :=
          runIn_hear_of_none quiet
        have later := ih idle fun confirms live => by
          simp [Tracker.contains, quiet confirms] at live
        rw [Act.after, runIn_hearAll_cons, heard, List.filter_cons_of_neg (by simp)]
        exact later
      · have heard : (hear (reactTo depth) event key i).runIn w =
            (hear (reactTo 0) event key i).runIn w :=
          runIn_hear_of_idle (fun r => idle i r here) depth
        have deaf : (hear (reactTo depth) event key i).runIn (w.deaf j) =
            (hear (reactTo 0) event key i).runIn (w.deaf j) :=
          runIn_hear_of_idle (w := w.deaf j) (fun r => idle i r here) depth
        have beside := beside_hear here event key w
        rw [commutes_hear, Act.after] at deaf
        rw [Act.after] at beside
        rw [Act.after, List.filter_cons_of_pos (by simpa using here), runIn_hearAll_cons,
          runIn_hearAll_cons, heard, deaf]
        cases ended : (hear (reactTo 0) event key i).runIn w with
        | mk outcome v =>
            rw [ended] at beside heard
            cases outcome with
            | error f => exact ⟨beside.tracker, rfl⟩
            | ok _ =>
                have later := ih (idle.mono beside) fun confirms live => by
                  rw [beside.tracker] at live
                  rintro ⟨before, after, rfl, apart, fine⟩
                  refine spared confirms live ⟨i :: before, after, rfl, ?_, ?_⟩
                  · simp [Ne.symm here, apart]
                  · rw [runIn_hearAll_cons, heard]
                    exact fine
                rw [beside.tracker] at later
                exact later

/-- Pipelines hear of an event after those before them, if none of these fails. -/
theorem runIn_hearAll_append
    {nested : Nested}
    {before : List Nat}
    {v : World}
    (fine : (hearAll nested event key before).runIn w = (.ok (), v))
    (rest : List Nat) :
    (hearAll nested event key (before ++ rest)).runIn w =
      (hearAll nested event key rest).runIn v := by
  induction before generalizing w with
  | nil =>
      obtain rfl : w = v := congrArg Prod.snd fine
      rfl
  | cons i before ih =>
      rw [runIn_hearAll_cons] at fine
      rw [List.cons_append, runIn_hearAll_cons]
      cases heard : (hear nested event key i).runIn w with
      | mk outcome u =>
          rw [heard] at fine
          cases outcome with
          | ok _ => exact ih fine
          | error f => simp at fine

/-- An event that finds a request takes it out for good, whatever the context of it does. -/
theorem trackerOf_hearAll_cons_ne
    (confirms : event.Confirms)
    (live : (trackerOf j w).contains key = true)
    (rest : List Nat) :
    trackerOf j ((hearAll (reactTo depth) event key (j :: rest)).after w) ≠ trackerOf j w := by
  obtain ⟨r, live⟩ := Option.isSome_iff_exists.mp live
  obtain ⟨p, found, live⟩ := exists_of_get?_trackerOf live
  obtain ⟨waiting, rfl⟩ := Tracker.mem_of_get? live
  obtain ⟨m, t, -, path, there, requests, erased⟩ :=
    path_hear_of_get? (follows_reactTo depth) (d := [.reporting event r.key])
      List.mem_cons_self confirms found live
  have whole : Path m ⟨_, (hearAll (reactTo depth) event r.key (j :: rest)).after w⟩ :=
    Path.bind path (fun _ => .refl) fun _ v =>
      follows_hearAll (follows_reactTo depth) List.mem_cons_self rest v
  -- The context may well make a new request, but then the history is longer than before.
  obtain ⟨q, final, -, grown⟩ := (Path.grows whole).pipelines j _ there
  rw [trackerOf_of_some final, trackerOf_of_some found]
  intro same
  have back : t.Grows p.tracker := same ▸ grown
  rcases back.live with longer | ⟨-, fewer⟩
  · have counted := congrArg List.length requests
    rw [Tracker.requests, Tracker.requests, List.length_map, List.length_map] at counted
    omega
  · have kept : r ∈ t.live := fewer waiting
    rw [erased] at kept
    simp [Tracker.erase] at kept

/-- An event spares a pipeline unless it is exposed to it. -/
theorem emit_spares_iff (idle : w.IdleBeside j key) :
    Spares j w (emit (reactTo depth) event key) ↔ ¬Exposed (reactTo depth) event key j w := by
  constructor
  · rintro ⟨same, -⟩ ⟨confirms, live, before, after, split, apart, fine⟩
    have unreached : ¬Reaches (reactTo depth) event key j before w := by
      rintro ⟨_, _, rfl, -⟩
      simp at apart
    obtain ⟨kept, -⟩ := hearAll_spares before idle fun _ _ => unreached
    cases ended : (hearAll (reactTo depth) event key before).runIn w with
    | mk outcome v =>
        rw [Act.after, ended] at kept
        rw [ended] at fine
        cases outcome with
        | error f => simp [Except.isOk, Except.toBool] at fine
        | ok _ =>
            have heard := runIn_hearAll_append ended (j :: after)
            rw [← split] at heard
            have changed : trackerOf j ((hearAll (reactTo depth) event key (j :: after)).after v) ≠
                trackerOf j v :=
              trackerOf_hearAll_cons_ne confirms (kept.symm ▸ live) after
            rw [Act.after, ← heard, kept] at changed
            exact changed same
  · intro safe
    obtain ⟨tracker, deaf⟩ := hearAll_spares w.listeners idle fun confirms live reached =>
      safe ⟨confirms, live, reached⟩
    exact ⟨tracker, deaf⟩

/-! ### Steps and group requests -/

/-- An act spares a pipeline when it ends in the same way whether the pipeline listens or not. -/
theorem Spares.of_runIn
    {α : Type}
    {act : Act World α}
    (outcome : Except Fault α)
    (v : World)
    (done : act.runIn w = (outcome, v))
    (deaf : act.runIn (w.deaf j) = (outcome, v.deaf j))
    (same : trackerOf j v = trackerOf j w) :
    Spares j w act where
  tracker := by
    rw [Act.after, done]
    exact same
  deaf := by
    rw [Act.after, done]
    exact deaf

/-- An act that comes down to another one spares a pipeline when the other one does. -/
theorem Spares.iff_of_runIn
    {α : Type}
    {act later : Act World α}
    {v : World}
    (whole : act.runIn w = later.runIn v)
    (deaf : act.runIn (w.deaf j) = later.runIn (v.deaf j))
    (same : trackerOf j v = trackerOf j w) :
    Spares j w act ↔ Spares j v later := by
  constructor
  · rintro ⟨tracker, asDeaf⟩
    rw [Act.after, whole, ← same] at tracker
    rw [deaf, Act.after, whole] at asDeaf
    exact ⟨tracker, asDeaf⟩
  · rintro ⟨tracker, asDeaf⟩
    refine ⟨?_, ?_⟩
    · rw [Act.after, whole, ← same]
      exact tracker
    · rw [deaf, Act.after, whole]
      exact asDeaf

/-- An act whose first part leaves a pipeline alone spares it when the rest does. -/
theorem Spares.bind_iff
    {α β : Type}
    {act : Act World α}
    {rest : α → Act World β}
    {a : α}
    {v : World}
    (done : act.runIn w = (.ok a, v))
    (deaf : act.runIn (w.deaf j) = (.ok a, v.deaf j))
    (same : trackerOf j v = trackerOf j w) :
    Spares j w (act >>= rest) ↔ Spares j v (rest a) := by
  refine iff_of_runIn ?_ ?_ same
  · rw [Act.runIn_bind, done]
  · rw [Act.runIn_bind, deaf]

/-- What an act answers does not matter. -/
theorem Spares.bind_pure_iff
    {β : Type}
    {act : Act World Unit}
    (b : β) :
    Spares j w (act >>= fun _ => pure b) ↔ Spares j w act := by
  have injective (x y : Except Fault Unit) : x.map (fun _ => b) = y.map (fun _ => b) ↔ x = y := by
    cases x <;> cases y <;> simp [Except.map]
  constructor
  · rintro ⟨tracker, asDeaf⟩
    rw [Act.after, Act.runIn_bind_pure] at tracker
    rw [Act.after, Act.runIn_bind_pure, Act.runIn_bind_pure, Prod.mk.injEq, injective] at asDeaf
    exact ⟨tracker, Prod.ext asDeaf.1 asDeaf.2⟩
  · rintro ⟨tracker, asDeaf⟩
    refine ⟨?_, ?_⟩
    · rw [Act.after, Act.runIn_bind_pure]
      exact tracker
    · rw [Act.after, Act.runIn_bind_pure, Act.runIn_bind_pure, asDeaf]
      rfl

/-- A key is looked up in the same way, whether a pipeline listens or not. -/
theorem commutes_keyOf (j : Nat) (ref : KeyRef) : (keyOf ref).Commutes (World.deaf j) := by
  cases ref with
  | key k => exact .pure k
  | ofId name id =>
      have look : (named name).Commutes (World.deaf j) := fun v =>
        Act.Commutes.orFault (.noPipeline name) (lookupPair? name v.names) v
      have get (i : Nat) : (pipeline i).Commutes (World.deaf j) := fun v =>
        Act.Commutes.orFault (.noPipeline "") v.pipelines[i]? v
      exact .bind look fun i => .bind (get i) fun p => .orFault _ _

/-- The state after the group service has taken a request for a new group. -/
def World.added
    (w : World)
    (device : String)
    (key : GroupKey)
    (buckets : List Treatment)
    (app : String) : World :=
  { w.note [.group .add device key buckets app] with
    groups := insertPair (device, key) { id := .number w.nextGroupId, buckets } w.groups
    nextGroupId := w.nextGroupId + 1 }

theorem runIn_requestGroup
    (nested : Nested)
    (request : GroupRequest)
    (device : String)
    (buckets : List Treatment)
    (app : String)
    (w : World) :
    (requestGroup nested request device key buckets app).runIn w =
      if w.groupMode = .refuse then
        (.error (.outage .groups), w.note [.group request device key buckets app])
      else if request = .add then
        if w.groupMode = .sync then
          (emit nested .added key).runIn (w.added device key buckets app)
        else (.ok (), w.added device key buckets app)
      else (.ok (), w.note [.group request device key buckets app]) := by
  have noted : (record (.group request device key buckets app)).runIn w =
      (.ok (), w.note [.group request device key buckets app]) := rfl
  unfold requestGroup
  rw [Act.runIn_bind_ok _ noted, Act.runIn_get_bind]
  dsimp only
  have same : (w.note [.group request device key buckets app]).groupMode = w.groupMode := rfl
  rw [same]
  split
  · rfl
  · split
    case isFalse => rfl
    case isTrue adds =>
      subst adds
      split <;> rfl

/-- A request to the group service spares a pipeline, unless it is answered at once. -/
theorem requestGroup_spares_iff
    (idle : w.IdleBeside j key)
    (request : GroupRequest)
    (device : String)
    (buckets : List Treatment)
    (app : String) :
    Spares j w (requestGroup (reactTo depth) request device key buckets app) ↔
      ¬(request = .add ∧ w.groupMode = .sync ∧
        Exposed (reactTo depth) .added key j (w.added device key buckets app)) := by
  have asked (v : World) := @runIn_requestGroup key (reactTo depth) request device buckets app v
  have mode : (w.deaf j).groupMode = w.groupMode := rfl
  by_cases answered : request = .add ∧ w.groupMode = .sync
  · obtain ⟨rfl, sync⟩ := answered
    have idle' : (w.added device key buckets app).IdleBeside j key := idle
    simp only [sync, true_and, ← emit_spares_iff idle']
    refine Spares.iff_of_runIn ?_ ?_ rfl
    · rw [asked, sync]
      rfl
    · rw [asked, mode, sync]
      rfl
  · have unanswered : ¬(request = .add ∧ w.groupMode = .sync ∧
        Exposed (reactTo depth) .added key j (w.added device key buckets app)) :=
      fun h => answered ⟨h.1, h.2.1⟩
    refine iff_of_true ?_ unanswered
    by_cases refused : w.groupMode = .refuse
    · refine .of_runIn _ _ ((asked w).trans (if_pos refused)) ?_ rfl
      exact (asked (w.deaf j)).trans (if_pos refused)
    · by_cases adds : request = .add
      · have later : w.groupMode ≠ .sync := fun sync => answered ⟨adds, sync⟩
        refine .of_runIn (.ok ()) (w.added device key buckets app) ?_ ?_ rfl
        · rw [asked, if_neg refused, if_pos adds, if_neg later]
        · rw [asked, mode, if_neg refused, if_pos adds, if_neg later]
          rfl
      · refine .of_runIn (.ok ()) (w.note [.group request device key buckets app]) ?_ ?_ rfl
        · rw [asked, if_neg refused, if_neg adds]
        · rw [asked, mode, if_neg refused, if_neg adds]
          rfl

/-- The contexts that are concerned stay idle when a request with an idle context is made. -/
theorem World.IdleBeside.put
    (idle : w.IdleBeside j key)
    {i : Nat}
    {p : Pipeline}
    {ticket : Ticket}
    (found : w.pipelines[i]? = some p)
    (quiet : ticket.reaction.Idle)
    (id : Value)
    (now : Float) :
    (w.setTracker i (p.tracker.put key { ticket, id } now)).IdleBeside j key := by
  intro k r other live
  by_cases here : i = k
  · subst here
    rw [trackerOf_setTracker found, Tracker.get?_put] at live
    obtain rfl := Option.some.inj live
    exact quiet
  · rw [trackerOf_setTracker_of_ne here] at live
    exact idle k r other live

/--
A next objective spares the pipelines of other devices, unless it adds a group and the group service
answers at once.
-/
theorem next_spares_iff
    (idle : w.IdleBeside j key)
    {i : Nat}
    (other : i ≠ j)
    {p : Pipeline}
    (found : w.pipelines[i]? = some p)
    {o : NextObjective}
    (accepted : keyOfNext p o = .ok key)
    {ticket : Ticket}
    (quiet : ticket.reaction.Idle) :
    Spares j w (next (reactTo depth) i p ticket o) ↔
      ¬(w.clockBroken = false ∧ o.operation = some .add ∧ w.groupMode = .sync ∧
        Exposed (reactTo depth) .added key j
          ((w.setTracker i (p.tracker.put key { ticket, id := o.id } w.time)).added
            p.device key o.members o.app)) := by
  have put (v : World) (there : v.pipelines[i]? = some p) :=
    runIn_discard_put (reactTo depth) there key { ticket, id := o.id }
  unfold next
  rw [accepted]
  cases broken : w.clockBroken with
  | true =>
      have failed (v : World) (there : v.pipelines[i]? = some p) (stuck : v.clockBroken = true) :=
        (put v there).trans (if_pos stuck)
      refine iff_of_true (.of_runIn (.error (.outage .clock)) w ?_ ?_ rfl) (by simp)
      · dsimp only
        rw [Act.runIn_bind, failed w found broken]
      · dsimp only
        rw [Act.runIn_bind, failed (w.deaf j) found broken]
  | false =>
      have made := (put w found).trans (if_neg (by simp [broken]))
      have madeDeaf := (put (w.deaf j) found).trans (if_neg (by simp [World.deaf, broken]))
      have same := trackerOf_setTracker_of_ne other w
        (p.tracker.put key { ticket, id := o.id } w.time)
      have idle' := idle.put found quiet o.id w.time
      have asked := @requestGroup_spares_iff depth j key _ idle'
      refine (Spares.bind_iff made madeDeaf same).trans ?_
      cases o.operation with
      | none => exact iff_of_true (.of_runIn _ _ rfl rfl rfl) (by simp)
      | some operation =>
          cases operation with
          | add =>
              have mode (t : Tracker NextTicket Float) :
                  (w.setTracker i t).groupMode = w.groupMode := rfl
              simpa [mode] using asked .add p.device o.members o.app
          | remove => exact iff_of_true ((asked _ _ _ _).mpr (by simp)) (by simp)
          | addToExisting => exact iff_of_true ((asked _ _ _ _).mpr (by simp)) (by simp)
          | removeFromExisting => exact iff_of_true ((asked _ _ _ _).mpr (by simp)) (by simp)

/-- An event that is reported in a step spares a pipeline unless it is exposed to it. -/
theorem perform_emit_spares_iff
    (idle : w.IdleBeside j key)
    {ref : KeyRef}
    (named : (keyOf ref).runIn w = (.ok key, w))
    (device : String) :
    Spares j w (perform (reactTo depth) (.emit event device ref)) ↔
      ¬Exposed (reactTo depth) event key j w := by
  have deaf : (keyOf ref).runIn (w.deaf j) = (.ok key, w.deaf j) := by
    rw [commutes_keyOf, Act.after, named]
  rw [← emit_spares_iff idle, ← Spares.bind_pure_iff Answer.done]
  exact Spares.bind_iff named deaf rfl

end

/--
With contexts that do nothing further, an event spares a pipeline exactly when it is not exposed to
it, and the device that the event is about plays no part in this.  The same holds of an event that
answers the group request of another pipeline.
-/
theorem spares_iff_not_exposed
    {j : Nat}
    {key : GroupKey}
    {w : World}
    (idle : w.IdleBeside j key)
    (depth : Nat) :
    (∀ event device ref, (keyOf ref).runIn w = (.ok key, w) →
      (Spares j w (perform (reactTo depth) (.emit event device ref)) ↔
        ¬Exposed (reactTo depth) event key j w)) ∧
    (∀ i p ticket o, i ≠ j → w.pipelines[i]? = some p → keyOfNext p o = .ok key →
      ticket.reaction.Idle →
      (Spares j w (next (reactTo depth) i p ticket o) ↔
        ¬(w.clockBroken = false ∧ o.operation = some .add ∧ w.groupMode = .sync ∧
          Exposed (reactTo depth) .added key j
            ((w.setTracker i (p.tracker.put key { ticket, id := o.id } w.time)).added
              p.device key o.members o.app)))) := by
  constructor
  · intro event device ref named
    exact perform_emit_spares_iff idle named device
  · intro i p ticket o other found accepted quiet
    exact next_spares_iff idle other found accepted quiet

/-- A request for the broadcast group of the next objective 42. -/
def groupRequest (name : String) : Step :=
  .submit name
    (.next
      { id := .number 42
        kind := some .broadcast
        members := [{}]
        app := ""
        operation := some .add })
    name (.recording false [] [])

/-- The state in which the pipelines of two devices wait for groups under the same key. -/
def waitingTwice : World :=
  [.build "a" "of:a" {} false, .build "b" "of:b" {} false, groupRequest "a", groupRequest "b"].foldl
    (fun w step => (runStep 1 step w).after) {}

/-- The key that both pipelines use. -/
def sharedKey : GroupKey := (⟨"olt-pipeline", by decide⟩ : KeySpace).keyOf 42

instance : DecidablePred Reaction.Idle := fun r => by
  unfold Reaction.Idle
  split <;> infer_instance

/-- The contexts of all live requests are idle if those of every pipeline are. -/
theorem World.IdleBeside.of_forall
    {w : World}
    (idle : ∀ p ∈ w.pipelines, ∀ r ∈ p.tracker.live, r.subject.ticket.reaction.Idle)
    (j : Nat)
    (key : GroupKey) :
    w.IdleBeside j key := by
  intro i r _ live
  obtain ⟨p, found, live⟩ := exists_of_get?_trackerOf live
  exact idle p (List.mem_of_getElem? found) r (Tracker.mem_of_get? live).1

/-- An event about the group of the first device does not spare the second one, if it confirms. -/
theorem spares_iff_not_exposed_twice :
    ¬Spares 1 waitingTwice (perform (reactTo 1) (.emit .added "of:a" (.key sharedKey))) ∧
    Spares 1 waitingTwice (perform (reactTo 1) (.emit .removed "of:a" (.key sharedKey))) := by
  have idle : waitingTwice.IdleBeside 1 sharedKey := .of_forall (by decide +kernel) _ _
  obtain ⟨events, -⟩ := spares_iff_not_exposed idle 1
  refine ⟨?_, ?_⟩
  · rw [events .added "of:a" (.key sharedKey) rfl, not_not]
    exact ⟨by decide, by decide +kernel, [0], [], by decide +kernel, by decide, by decide +kernel⟩
  · refine (events .removed "of:a" (.key sharedKey) rfl).mpr ?_
    rintro ⟨confirms, -, -⟩
    exact absurd confirms (by decide)

/-- An event about the group of the first device confirms the request of the second one as well. -/
theorem other_device_confirmed :
    waitingTwice.pipelines.map (fun p => (p.device, p.tracker.history.map (·.2))) =
      [("of:a", [.pending]), ("of:b", [.pending])] ∧
    (runStep 1 (.emit .added "of:a" (.key sharedKey)) waitingTwice).after.pipelines.map
      (fun p => (p.device, p.tracker.history.map (·.2))) =
      [("of:a", [.resolved]), ("of:b", [.resolved])] ∧
    (runStep 1 (.emit .added "of:a" (.key sharedKey)) waitingTwice).events.filterMap
      (fun | .ended ticket .success => some ticket.tag | _ => none) = ["a", "b"] := by
  decide +kernel

end Session
end LineTerminal
