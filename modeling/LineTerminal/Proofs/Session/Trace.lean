import LineTerminal.Proofs.Session.Orderly

/-!
# What leaves a trace

Events are only added, requests are never forgotten, and a key space that a pipeline has used stays
in use.  So a step that was under way at one moment is still under way at a later one, or its end
was noted.  The same holds of the event that confirms a request.
-/

namespace LineTerminal
namespace Session

/-- What a pipeline keeps. -/
structure Pipeline.Grows (p q : Pipeline) : Prop where
  keySpace : q.keySpace = p.keySpace
  tracker : p.tracker.Grows q.tracker

/-- What a later state keeps of an earlier one. -/
structure World.Grows (w w' : World) : Prop where
  events : w.events <+: w'.events
  pipelines : ∀ (i : Nat) (p : Pipeline), w.pipelines[i]? = some p →
    ∃ q, w'.pipelines[i]? = some q ∧ p.Grows q

theorem Pipeline.Grows.refl (p : Pipeline) : p.Grows p :=
  ⟨rfl, .refl _⟩

theorem Pipeline.Grows.trans
    {p q r : Pipeline}
    (first : p.Grows q)
    (second : q.Grows r) :
    p.Grows r :=
  ⟨second.keySpace.trans first.keySpace, first.tracker.trans second.tracker⟩

namespace World.Grows
variable {w w' w'' : World}

theorem refl (w : World) : w.Grows w :=
  ⟨List.prefix_rfl, fun _ p found => ⟨p, found, .refl p⟩⟩

theorem trans (first : w.Grows w') (second : w'.Grows w'') : w.Grows w'' where
  events := first.events.trans second.events
  pipelines i p found := by
    obtain ⟨q, kept, grown⟩ := first.pipelines i p found
    obtain ⟨q', kept', grown'⟩ := second.pipelines i q kept
    exact ⟨q', kept', grown.trans grown'⟩

/-- A state grows by events. -/
theorem of_events
    (pipelines : w'.pipelines = w.pipelines)
    (events : w.events <+: w'.events) :
    w.Grows w' where
  events := events
  pipelines i p found := by
    refine ⟨p, ?_, .refl p⟩
    rwa [pipelines]

/-- A state grows when one of its trackers does. -/
theorem setTracker
    {i : Nat}
    {p : Pipeline}
    (found : w.pipelines[i]? = some p)
    {t : Tracker NextTicket Float}
    (grows : p.tracker.Grows t) :
    w.Grows (w.setTracker i t) where
  events := List.prefix_rfl
  pipelines j q at_j := by
    have here : (w.setTracker i t).pipelines[j]? =
        some (if i = j then { q with tracker := t } else q) := by
      rw [World.setTracker, List.getElem?_modify, at_j]
      by_cases same : i = j <;> simp [same]
    refine ⟨_, here, ?_⟩
    by_cases same : i = j
    · subst same
      obtain rfl := Option.some.inj (at_j.symm.trans found)
      rw [if_pos rfl]
      exact ⟨rfl, grows⟩
    · rw [if_neg same]
      exact .refl q

/-- Every pipeline of an earlier state has grown. -/
theorem of_mem
    (grows : w.Grows w')
    {p : Pipeline}
    (member : p ∈ w.pipelines) :
    ∃ q ∈ w'.pipelines, p.Grows q := by
  obtain ⟨i, found⟩ := List.mem_iff_getElem?.mp member
  obtain ⟨q, kept, grown⟩ := grows.pipelines i p found
  exact ⟨q, List.mem_of_getElem? kept, grown⟩

end World.Grows

/-- A move only adds to a state. -/
theorem Move.grows {m m' : Moment} (move : Move m m') : m.world.Grows m'.world := by
  cases move with
  | @quiet d w w' quiet =>
      refine ⟨quiet.events ▸ List.prefix_rfl, ?_⟩
      intro i p found
      have mapped := congrArg (·[i]?) quiet.pipelines
      simp only [List.getElem?_map, found, Option.map_some, Option.map_eq_some_iff] at mapped
      obtain ⟨q, later, same⟩ := mapped
      have core : p.core.Grows q.core := by
        rw [same]
        exact .refl _
      exact ⟨q, later, core.keySpace, core.tracker⟩
  | @build d w device settings =>
      refine ⟨List.prefix_rfl, fun i p found => ⟨p, ?_, .refl p⟩⟩
      obtain ⟨inside, -⟩ := List.getElem?_eq_some_iff.mp found
      rw [List.getElem?_append_left inside]
      exact found
  | note plain => exact .of_events rfl (List.prefix_append _ _)
  | finish answer => exact .of_events rfl (List.prefix_append _ _)
  | send b => exact .of_events rfl (List.prefix_append _ _)
  | tell => exact .of_events rfl (List.prefix_append _ _)
  | begin step => exact .refl _
  | advance asked => exact .of_events rfl List.prefix_rfl
  | clock asked => exact .of_events rfl List.prefix_rfl
  | mode asked => exact .of_events rfl List.prefix_rfl
  | putRecord asked => exact .of_events rfl List.prefix_rfl
  | issue tag reaction => exact .of_events rfl List.prefix_rfl
  | abandon => exact .refl _
  | answer e => exact .refl _
  | relay e found open_ => exact .of_events rfl List.prefix_rfl
  | dealt => exact .refl _
  | report cause => exact .refl _
  | reported => exact .refl _
  | enter found named accepts =>
      exact .trans (.setTracker found (.put _ _ _ _)) (.of_events rfl (List.prefix_append _ _))
  | confirm reported confirms found live early =>
      exact .trans (.setTracker found (.trans (.erase _ _) (.settle _ _ _)))
        (.of_events rfl (List.prefix_append _ _))
  | lapse reported confirms found live late =>
      exact .setTracker found (.trans (.erase _ _) (.settle _ _ _))
  | lose reported confirms found broken => exact .setTracker found (.erase _ _)
  | sweep found => exact .setTracker found (.sweep _ _)

theorem Path.grows {m m' : Moment} (path : Path m m') : m.world.Grows m'.world := by
  induction path with
  | refl => exact .refl _
  | tail _ move ih => exact ih.trans move.grows

/-- The time of a request has elapsed at a reading of the clock. -/
def World.Late (w : World) (now : Float) (r : Request NextTicket Float) : Prop :=
  ∃ p ∈ w.pipelines, r ∈ p.tracker.requests ∧ p.tracker.Due now r

/-- The time of a request has not elapsed at a reading of the clock. -/
def World.Timely (w : World) (now : Float) (r : Request NextTicket Float) : Prop :=
  ∃ p ∈ w.pipelines, r ∈ p.tracker.requests ∧ ¬p.tracker.Due now r

section
variable {w w' : World}
variable {now : Float}
variable {r : Request NextTicket Float}

theorem Pipeline.Grows.due_iff
    {p q : Pipeline}
    (grows : p.Grows q) :
    q.tracker.Due now r ↔ p.tracker.Due now r := by
  unfold Tracker.Due
  rw [grows.tracker.timeToLive]

theorem World.Late.mono (late : w.Late now r) (grows : w.Grows w') : w'.Late now r := by
  obtain ⟨p, member, made, due⟩ := late
  obtain ⟨q, kept, grown⟩ := grows.of_mem member
  exact ⟨q, kept, grown.tracker.requests made, grown.due_iff.mpr due⟩

theorem World.Timely.mono (timely : w.Timely now r) (grows : w.Grows w') : w'.Timely now r := by
  obtain ⟨p, member, made, early⟩ := timely
  obtain ⟨q, kept, grown⟩ := grows.of_mem member
  exact ⟨q, kept, grown.tracker.requests made, mt grown.due_iff.mp early⟩

theorem KeyRef.Names.mono
    {ref : KeyRef}
    {key : GroupKey}
    (names : ref.Names w key)
    (grows : w.Grows w') :
    ref.Names w' key := by
  cases ref with
  | key k => exact names
  | ofId name id =>
      obtain ⟨p, member, found⟩ := names
      obtain ⟨q, kept, grown⟩ := grows.of_mem member
      exact ⟨q, kept, grown.keySpace ▸ found⟩

end

/-! ### What the steps of a run explain -/

/-- The readings of a clock that starts with one and is set forward by some steps. -/
inductive Reading (start : Float) (performed : Step → Prop) : Float → Prop where
  | start : Reading start performed start
  | advance {now seconds : Float} (reading : Reading start performed now)
      (asked : performed (.advance seconds)) : Reading start performed (now + seconds)

/-- The group service answers at once, as it did in the state `base` or since a step said so. -/
def AnswersAtOnce (base : World) (performed : Step → Prop) : Prop :=
  base.groupMode = .sync ∨ ∃ flow storeFails, performed (.mode flow (some .sync) storeFails)

/--
An event that confirms a key is reported: a step says so, or a group is requested and the group
service answers at once.
-/
def Announced
    (base w : World)
    (performed : Step → Prop)
    (noted : List Event)
    (key : GroupKey) : Prop :=
  (∃ event device ref, event.Confirms ∧ performed (.emit event device ref) ∧ ref.Names w key) ∨
  (AnswersAtOnce base performed ∧
    ∃ device buckets app, .group .add device key buckets app ∈ noted)

section
variable {performed performed' : Step → Prop}
variable {base w w' : World}

theorem Reading.mono
    (more : ∀ s, performed s → performed' s)
    {start now : Float}
    (reading : Reading start performed now) :
    Reading start performed' now := by
  induction reading with
  | start => exact .start
  | advance _ asked ih => exact .advance ih (more _ asked)

theorem AnswersAtOnce.mono
    (more : ∀ s, performed s → performed' s)
    (answers : AnswersAtOnce base performed) :
    AnswersAtOnce base performed' := by
  rcases answers with always | ⟨flow, storeFails, asked⟩
  · exact .inl always
  · exact .inr ⟨flow, storeFails, more _ asked⟩

theorem Announced.mono
    {noted noted' : List Event}
    {key : GroupKey}
    (more : ∀ s, performed s → performed' s)
    (longer : noted ⊆ noted')
    (grows : w.Grows w')
    (announced : Announced base w performed noted key) :
    Announced base w' performed' noted' key := by
  rcases announced with ⟨event, device, ref, confirms, asked, names⟩ |
    ⟨answers, device, buckets, app, asked⟩
  · exact .inl ⟨event, device, ref, confirms, more _ asked, names.mono grows⟩
  · exact .inr ⟨answers.mono more, device, buckets, app, longer asked⟩

end

/-! ### Steps under way -/

/-- A step is under way, or its end was noted after the first `n` events. -/
def Carried (n : Nat) (m : Moment) (step : Step) : Prop :=
  .doing step ∈ m.duties ∨ ∃ answer, .stepped step answer ∈ m.world.events.drop n

theorem drop_subset_drop
    {es es' : List Event}
    (grown : es <+: es')
    (n : Nat) :
    es.drop n ⊆ es'.drop n := by
  obtain ⟨later, rfl⟩ := grown
  rw [List.drop_append]
  exact List.subset_append_left _ _

theorem mem_drop_append_singleton
    {n : Nat}
    {es : List Event}
    (early : n ≤ es.length)
    (e : Event) :
    e ∈ (es ++ [e]).drop n := by
  rw [List.drop_append_of_le_length early]
  exact List.mem_append_right _ (List.mem_singleton.mpr rfl)

section
variable {m m' : Moment}
variable {n : Nat}
variable {base : World}

/-- A step that is under way stays so until its end is noted. -/
theorem Move.carried
    (move : Move m m')
    (early : n ≤ m.world.events.length)
    (step : Step)
    (carried : Carried n m step) :
    Carried n m' step := by
  rcases carried with doing | ⟨answer, noted⟩
  · cases move with
    | finish answer =>
        rcases List.mem_cons.mp doing with first | later
        · cases first
          exact .inr ⟨answer, mem_drop_append_singleton early _⟩
        · exact .inl later
    | begin | issue | relay | report | lapse => exact .inl (List.mem_cons_of_mem _ doing)
    | abandon | send | tell | dealt | reported => exact .inl (by simpa using doing)
    | answer | enter => exact .inl (by simpa using doing)
    | quiet | note | build | advance | clock | mode | putRecord | confirm | lose => exact .inl doing
    | sweep => exact .inl (List.mem_append_right _ doing)
  · exact .inr ⟨answer, drop_subset_drop move.grows.events n noted⟩

/-- What is true of the history of one pipeline is true of all entries. -/
theorem mem_entries_setTracker
    {w : World}
    {i : Nat}
    {p : Pipeline}
    (found : w.pipelines[i]? = some p)
    {t : Tracker NextTicket Float}
    {entry : Request NextTicket Float × Fate}
    {Q : Prop}
    (member : entry ∈ (w.setTracker i t).entries)
    (here : entry ∈ t.history → entry ∈ p.tracker.history ∨ Q) :
    entry ∈ w.entries ∨ Q := by
  obtain ⟨others, before, after⟩ := entries_setTracker_perm found
  rw [(after t).mem_iff, List.mem_append] at member
  rw [before.mem_iff, List.mem_append]
  rcases member with member | there
  · rcases here member with kept | new
    · exact .inl (.inl kept)
    · exact .inr new
  · exact .inl (.inr there)

/-- The request that an event finds is the only one that it settles. -/
theorem eq_of_mem_settle
    {t : Tracker NextTicket Float}
    (sound : t.Sound)
    {q r : Request NextTicket Float}
    {fate : Fate}
    (live : t.get? q.key = some q)
    (entry : (r, fate) ∈ ((t.erase q.key).settle q fate).history) :
    (r, fate) ∈ t.history ∨ r = q := by
  obtain ⟨old, earlier, same⟩ := Tracker.mem_settle.mp entry
  split at same
  · next serial =>
    have equal := sound.numbered.eq_of_serial_eq earlier (sound.pending_of_get? live) serial
    exact .inr (Prod.mk.inj equal).1
  · rw [same]
    exact .inl earlier

/-- A request is only resolved by an event for its key that is being reported in time. -/
theorem Move.resolved
    (move : Move m m')
    (orderly : m.Orderly)
    {r : Request NextTicket Float}
    (member : (r, Fate.resolved) ∈ m'.world.entries) :
    (r, Fate.resolved) ∈ m.world.entries ∨
      (∃ event, event.Confirms ∧ .reporting event r.key ∈ m.duties) ∧
        m.world.Timely m.world.time r := by
  cases move with
  | quiet quiet =>
      rw [quiet.entries] at member
      exact .inl member
  | build device settings =>
      rw [entries_build] at member
      exact .inl member
  | enter found named accepts =>
      exact mem_entries_setTracker found member fun entry =>
        .inl (Tracker.mem_of_mem_put (by decide) (by decide) entry)
  | @confirm d w event i p q reported confirms found live early =>
      refine mem_entries_setTracker found member fun entry => ?_
      have here := List.mem_of_getElem? found
      obtain ⟨sound, -⟩ := orderly.pipelines p here
      have made := List.mem_map_of_mem (f := Prod.fst) (sound.pending_of_get? live)
      rcases eq_of_mem_settle sound live entry with earlier | rfl
      · exact .inl earlier
      · exact .inr ⟨⟨event, confirms, reported⟩, p, here, made, early⟩
  | lapse reported confirms found live late =>
      exact mem_entries_setTracker found member fun entry =>
        .inl (Tracker.mem_of_mem_settle (by decide) entry)
  | lose reported confirms found broken => exact mem_entries_setTracker found member .inl
  | sweep found =>
      exact mem_entries_setTracker found member fun entry =>
        .inl (Tracker.mem_of_mem_expireAll (by decide) entry)
  | _ => exact .inl member

/-- A request only expires when its time has elapsed. -/
theorem Move.expired
    (move : Move m m')
    (orderly : m.Orderly)
    {r : Request NextTicket Float}
    (member : (r, Fate.expired) ∈ m'.world.entries) :
    (r, Fate.expired) ∈ m.world.entries ∨ m.world.Late m.world.time r := by
  cases move with
  | quiet quiet =>
      rw [quiet.entries] at member
      exact .inl member
  | build device settings =>
      rw [entries_build] at member
      exact .inl member
  | enter found named accepts =>
      exact mem_entries_setTracker found member fun entry =>
        .inl (Tracker.mem_of_mem_put (by decide) (by decide) entry)
  | confirm reported confirms found live early =>
      exact mem_entries_setTracker found member fun entry =>
        .inl (Tracker.mem_of_mem_settle (by decide) entry)
  | @lapse d w event i p q reported confirms found live late =>
      refine mem_entries_setTracker found member fun entry => ?_
      have here := List.mem_of_getElem? found
      obtain ⟨sound, -⟩ := orderly.pipelines p here
      have made := List.mem_map_of_mem (f := Prod.fst) (sound.pending_of_get? live)
      rcases eq_of_mem_settle sound live entry with earlier | rfl
      · exact .inl earlier
      · exact .inr ⟨p, here, made, late⟩
  | lose reported confirms found broken => exact mem_entries_setTracker found member .inl
  | @sweep d w i p found =>
      refine mem_entries_setTracker found member fun entry => ?_
      have here := List.mem_of_getElem? found
      obtain ⟨sound, -⟩ := orderly.pipelines p here
      obtain ⟨old, earlier, same⟩ := Tracker.mem_expireAll.mp entry
      split at same
      · next settled =>
        obtain ⟨q, due, serial⟩ := settled
        have equal := sound.numbered.eq_of_serial_eq earlier (sound.steady.pending_of_mem_due due) serial
        obtain ⟨rfl, -⟩ := Prod.mk.inj equal
        have made := List.mem_map_of_mem (f := Prod.fst) earlier
        exact .inr ⟨p, here, made, (Tracker.mem_due.mp due).2⟩
      · rw [same]
        exact .inl earlier
  | _ => exact .inl member

/--
What has left a trace since a state `base` with `n` events: the readings of the clock, the way in
which the group service answers, the requests that are being dealt with, the events that are being
reported, and the requests that were resolved or have expired.
-/
structure Traced (n : Nat) (base : World) (m : Moment) : Prop where
  early : n ≤ m.world.events.length
  time : Reading base.time (Carried n m) m.world.time
  mode : m.world.groupMode = .sync → AnswersAtOnce base (Carried n m)
  requesting : ∀ e, .requesting e ∈ m.duties → e ∈ m.world.events.drop n
  reporting : ∀ event key, .reporting event key ∈ m.duties → event.Confirms →
    Announced base m.world (Carried n m) (m.world.events.drop n) key
  resolved : ∀ r, (r, Fate.resolved) ∈ m.world.entries →
    (r, Fate.resolved) ∈ base.entries ∨
      Announced base m.world (Carried n m) (m.world.events.drop n) r.key ∧
        ∃ now, Reading base.time (Carried n m) now ∧ m.world.Timely now r
  expired : ∀ r, (r, Fate.expired) ∈ m.world.entries →
    (r, Fate.expired) ∈ base.entries ∨
      ∃ now, Reading base.time (Carried n m) now ∧ m.world.Late now r

/-- What was announced before a move is announced after it. -/
theorem Move.announced
    (move : Move m m')
    (early : n ≤ m.world.events.length)
    {key : GroupKey}
    (announced : Announced base m.world (Carried n m) (m.world.events.drop n) key) :
    Announced base m'.world (Carried n m') (m'.world.events.drop n) key :=
  announced.mono (move.carried early) (drop_subset_drop move.grows.events n) move.grows

/-- The clock changes only when a step sets it forward. -/
theorem Move.time
    (move : Move m m')
    (traced : Traced n base m) :
    Reading base.time (Carried n m') m'.world.time := by
  have kept := traced.time.mono (move.carried traced.early)
  cases move with
  | quiet quiet =>
      rw [quiet.time]
      exact kept
  | advance asked => exact .advance kept (.inl asked)
  | _ => exact kept

/-- The group service answers at once only after a step has said so, if it did not before. -/
theorem Move.sync
    (move : Move m m')
    (traced : Traced n base m)
    (sync : m'.world.groupMode = .sync) :
    AnswersAtOnce base (Carried n m') := by
  have kept (same : m'.world.groupMode = m.world.groupMode) : AnswersAtOnce base (Carried n m') :=
    (traced.mode (same ▸ sync)).mono (move.carried traced.early)
  cases move with
  | quiet quiet => exact kept quiet.groupMode
  | @mode d w flow groups storeFails asked =>
      cases groups with
      | none => exact kept rfl
      | some g =>
          obtain rfl : g = .sync := sync
          exact .inr ⟨flow, storeFails, .inl asked⟩
  | _ => exact kept rfl

/-- A request that is being dealt with was noted. -/
theorem Move.requesting
    (move : Move m m')
    (traced : Traced n base m)
    {e : Event}
    (requesting : .requesting e ∈ m'.duties) :
    e ∈ m'.world.events.drop n := by
  have kept (member : .requesting e ∈ m.duties) : e ∈ m'.world.events.drop n :=
    drop_subset_drop move.grows.events n (traced.requesting e member)
  cases move with
  | enter =>
      rcases List.mem_cons.mp requesting with first | later
      · cases first
        exact mem_drop_append_singleton traced.early _
      · exact kept (List.mem_cons_of_mem _ later)
  | begin | issue | relay | report | lapse => exact kept (by simpa using requesting)
  | finish | abandon | send | tell | dealt | reported =>
      exact kept (List.mem_cons_of_mem _ requesting)
  | answer | sweep => exact kept (by simpa using requesting)
  | quiet | note | build | advance | clock | mode | putRecord | confirm | lose =>
      exact kept requesting

/-- An event that is being reported was announced. -/
theorem Move.reporting
    (move : Move m m')
    (traced : Traced n base m)
    {event : GroupEvent}
    {key : GroupKey}
    (reporting : .reporting event key ∈ m'.duties)
    (confirms : event.Confirms) :
    Announced base m'.world (Carried n m') (m'.world.events.drop n) key := by
  have kept (member : .reporting event key ∈ m.duties) :
      Announced base m'.world (Carried n m') (m'.world.events.drop n) key :=
    move.announced traced.early (traced.reporting event key member confirms)
  cases move with
  | report cause =>
      rcases List.mem_cons.mp reporting with first | later
      · cases first
        rcases cause with ⟨device, ref, doing, names⟩ | ⟨rfl, sync, device, buckets, app, asked⟩
        · exact .inl ⟨event, device, ref, confirms, .inl (List.mem_cons_of_mem _ doing), names⟩
        · have answers := (traced.mode sync).mono
            (Move.carried (.report (.inr ⟨rfl, sync, device, buckets, app, asked⟩)) traced.early)
          exact .inr ⟨answers, device, buckets, app, traced.requesting _ asked⟩
      · exact kept later
  | begin | issue | relay | enter | lapse => exact kept (by simpa using reporting)
  | finish | abandon | send | tell | dealt | reported =>
      exact kept (List.mem_cons_of_mem _ reporting)
  | answer | sweep => exact kept (by simpa using reporting)
  | quiet | note | build | advance | clock | mode | putRecord | confirm | lose =>
      exact kept reporting

/-- Every move leaves its traces. -/
theorem Move.traced
    (move : Move m m')
    (orderly : m.Orderly)
    (traced : Traced n base m) :
    Traced n base m' where
  early := Nat.le_trans traced.early move.grows.events.length_le
  time := move.time traced
  mode sync := move.sync traced sync
  requesting _ member := move.requesting traced member
  reporting _ _ member confirms := move.reporting traced member confirms
  resolved r member := by
    have more := move.carried traced.early
    rcases move.resolved orderly member with earlier | ⟨⟨event, confirms, reporting⟩, timely⟩
    · rcases traced.resolved r earlier with old | ⟨announced, now, reading, timely⟩
      · exact .inl old
      · exact .inr ⟨move.announced traced.early announced, now, reading.mono more,
          timely.mono move.grows⟩
    · exact .inr ⟨move.announced traced.early (traced.reporting event r.key reporting confirms),
        m.world.time, traced.time.mono more, timely.mono move.grows⟩
  expired r member := by
    have more := move.carried traced.early
    rcases move.expired orderly member with earlier | late
    · rcases traced.expired r earlier with old | ⟨now, reading, late⟩
      · exact .inl old
      · exact .inr ⟨now, reading.mono more, late.mono move.grows⟩
    · exact .inr ⟨m.world.time, traced.time.mono more, late.mono move.grows⟩

/-- What holds of moves holds along a path, unless the clock is broken on the way. -/
theorem Path.orderly
    (path : Path m m')
    (orderly : m.Orderly)
    (traced : Traced n base m) :
    m'.Orderly ∧ Traced n base m' ∨ Carried n m' (.clock true) := by
  induction path with
  | refl => exact .inl ⟨orderly, traced⟩
  | @tail v v' path move ih =>
      have early : n ≤ v.world.events.length :=
        Nat.le_trans traced.early (Path.grows path).events.length_le
      rcases ih with ⟨orderly, traced⟩ | broken
      · rcases move.orderly orderly with still | breaking
        · exact .inl ⟨still, move.traced orderly traced⟩
        · exact .inr (move.carried early _ (.inl breaking))
      · exact .inr (move.carried early _ broken)

end
end Session
end LineTerminal
