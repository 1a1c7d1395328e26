import LineTerminal.Proofs.Session.Tickets

/-!
# Confirmed next objectives

Whatever the clock does, no two accepted next objectives have the same number, and the number of one
is not used for anything else.  So the success of a next objective is reported by its confirmation
alone, which stores the record of its group first.  The record is found until another one is put for
the same identifier.
-/

namespace LineTerminal
namespace Session

/-- The numbers of the accepted next objectives. -/
def filed (t : Tracker NextTicket Float) : List Nat :=
  t.requests.map (·.subject.ticket.serial)

/-- The numbers of the next objectives that any pipeline has accepted. -/
def World.filed (w : World) : List Nat := w.pipelines.flatMap fun p => Session.filed p.tracker

/-- A pipeline whose requests have the keys of their identifiers. -/
structure Pipeline.Filed (p : Pipeline) : Prop where
  live : p.tracker.live ⊆ p.tracker.requests
  keyed : ∀ r ∈ p.tracker.requests, p.keySpace.keyFor? r.subject.id = some r.key

/-- A moment at which the number of an accepted next objective is used for nothing else. -/
structure Moment.Filed (m : Moment) : Prop where
  issued : ∀ s ∈ m.world.filed, s < m.world.tickets
  distinct : m.world.filed.Nodup
  unused : ∀ s ∈ m.world.filed, s ∉ m.used
  /-- No duty has to tell of the success of an accepted next objective. -/
  unowed : ∀ t, .telling t .success ∈ m.duties → t.serial ∉ m.world.filed
  pipelines : ∀ p ∈ m.world.pipelines, p.Filed

/-! ### Trackers -/

/-- What is live was requested, also after another request. -/
theorem live_put_subset
    {t : Tracker NextTicket Float}
    (live : t.live ⊆ t.requests)
    (key : GroupKey)
    (subject : NextTicket)
    (now : Float) :
    (t.put key subject now).live ⊆ (t.put key subject now).requests := by
  intro r member
  rw [Tracker.requests_put]
  rcases List.mem_cons.mp ((Tracker.place_subperm _ t.live).subset member) with rfl | earlier
  · exact List.mem_append_right _ (List.mem_singleton.mpr rfl)
  · exact List.mem_append_left _ (live earlier)

/-- A request that is taken out and settled stays one of the requests. -/
theorem requests_conclude
    (t : Tracker NextTicket Float)
    (r : Request NextTicket Float)
    (fate : Fate) :
    ((t.erase r.key).settle r fate).requests = t.requests :=
  Tracker.requests_settle r fate

theorem live_conclude
    (t : Tracker NextTicket Float)
    (r : Request NextTicket Float)
    (fate : Fate) :
    ((t.erase r.key).settle r fate).live ⊆ t.live :=
  List.filter_sublist.subset

theorem World.Quiet.filed {w w' : World} (quiet : w.Quiet w') : w'.filed = w.filed :=
  quiet.flatMap_tracker Session.filed

theorem Pipeline.Filed.of_core_eq
    {p q : Pipeline}
    (filed : p.Filed)
    (same : p.core = q.core) :
    q.Filed := by
  obtain ⟨live, keyed⟩ := filed
  constructor
  · rwa [tracker_eq_of_core_eq same]
  · rwa [tracker_eq_of_core_eq same, keySpace_eq_of_core_eq same]

/-- Requests may be taken out of a tracker, and their fates noted. -/
theorem Moment.Filed.setTracker
    {d d' : List Duty}
    {w : World}
    (filed : Moment.Filed ⟨d, w⟩)
    {i : Nat}
    {p : Pipeline}
    (found : w.pipelines[i]? = some p)
    {t : Tracker NextTicket Float}
    (requests : t.requests = p.tracker.requests)
    (live : t.live ⊆ p.tracker.live)
    (held : d'.filterMap Duty.held? = d.filterMap Duty.held?)
    (owes : ∀ u, .telling u .success ∈ d' → .telling u .success ∈ d) :
    Moment.Filed ⟨d', w.setTracker i t⟩ := by
  obtain ⟨issued, distinct, unused, unowed, pipelines⟩ := filed
  obtain ⟨others, before, after⟩ := flatMap_setTracker_perm found Session.filed
  have numbers : Session.filed t = Session.filed p.tracker := by
    rw [Session.filed, Session.filed, requests]
  have same : (w.setTracker i t).filed.Perm w.filed := by
    refine (after t).trans ?_
    rw [numbers]
    exact before.symm
  refine ⟨fun s member => issued s (same.subset member), same.nodup_iff.mpr distinct, ?_, ?_, ?_⟩
  · intro s member
    unfold Moment.used
    rw [held]
    exact unused s (same.subset member)
  · exact fun u owed member => unowed u (owes u owed) (same.subset member)
  · intro q member
    rcases mem_pipelines_setTracker found member with earlier | rfl
    · exact pipelines q earlier
    · obtain ⟨within, keyed⟩ := pipelines p (List.mem_of_getElem? found)
      exact ⟨requests ▸ List.Subset.trans live within, requests ▸ keyed⟩

/-! ### Moves -/

/-- As long as no objective is accepted, fresh numbers may be issued, and old ones be told. -/
theorem Moment.Filed.of_pipelines_eq
    {m m' : Moment}
    (filed : m.Filed)
    (same : m'.world.pipelines = m.world.pipelines)
    (more : m.world.tickets ≤ m'.world.tickets)
    (used : ∀ s ∈ m'.used, s ∈ m.used ∨ m.world.tickets ≤ s)
    (owed : ∀ t, .telling t .success ∈ m'.duties →
      .telling t .success ∈ m.duties ∨ t.serial ∈ m.used) :
    m'.Filed := by
  obtain ⟨issued, distinct, unused, unowed, pipelines⟩ := filed
  have numbers : m'.world.filed = m.world.filed := by rw [World.filed, World.filed, same]
  refine ⟨?_, numbers ▸ distinct, ?_, ?_, same ▸ pipelines⟩
  · rw [numbers]
    exact fun s member => Nat.lt_of_lt_of_le (issued s member) more
  · rw [numbers]
    intro s member again
    rcases used s again with earlier | fresh
    · exact unused s member earlier
    · exact absurd (issued s member) (Nat.not_lt.mpr fresh)
  · rw [numbers]
    intro t tells member
    rcases owed t tells with earlier | old
    · exact unowed t earlier member
    · exact unused _ member old

/-- An objective whose number was held is accepted. -/
theorem Moment.Filed.enter
    {d : List Duty}
    {w : World}
    {t : Ticket}
    (filed : Moment.Filed ⟨.holding t :: d, w⟩)
    (tallied : Moment.Tallied ⟨.holding t :: d, w⟩)
    {i : Nat}
    {p : Pipeline}
    (found : w.pipelines[i]? = some p)
    {id : Value}
    {key : GroupKey}
    (named : p.keySpace.keyFor? id = some key) :
    Moment.Filed ⟨d, w.setTracker i (p.tracker.put key { ticket := t, id } w.time)⟩ := by
  obtain ⟨issued, distinct, unused, unowed, pipelines⟩ := filed
  obtain ⟨others, before, after⟩ := flatMap_setTracker_perm found Session.filed
  have numbers : (w.setTracker i (p.tracker.put key { ticket := t, id } w.time)).filed.Perm
      (t.serial :: w.filed) := by
    refine (after _).trans ?_
    rw [Session.filed, Tracker.requests_put, List.map_append, List.append_assoc]
    exact List.perm_middle.trans (before.symm.cons _)
  have held : t.serial ∈ Moment.used ⟨.holding t :: d, w⟩ :=
    List.mem_append_right _ List.mem_cons_self
  have alone : t.serial ∉ Moment.outstanding ⟨d, w⟩ := tallied.not_mem_outstanding rfl
  refine ⟨?_, ?_, ?_, ?_, ?_⟩
  · intro s member
    rcases List.mem_cons.mp (numbers.subset member) with rfl | earlier
    · exact tallied.issued List.mem_cons_self
    · exact issued s earlier
  · refine numbers.nodup_iff.mpr (List.nodup_cons.mpr ⟨?_, distinct⟩)
    exact fun earlier => unused _ earlier held
  · intro s member used
    rcases List.mem_cons.mp (numbers.subset member) with rfl | earlier
    · exact (List.nodup_cons.mp (List.perm_middle.nodup_iff.mp tallied.apart)).1 used
    · exact unused s earlier (List.perm_middle.symm.subset (List.mem_cons_of_mem _ used))
  · intro u tells member
    rcases List.mem_cons.mp (numbers.subset member) with same | earlier
    · refine alone (List.mem_append_left _ (List.mem_filterMap.mpr ⟨_, tells, ?_⟩))
      exact congrArg some same
    · exact unowed u (List.mem_cons_of_mem _ tells) earlier
  · intro q member
    rcases mem_pipelines_setTracker found member with earlier | rfl
    · exact pipelines q earlier
    · obtain ⟨live, keyed⟩ := pipelines p (List.mem_of_getElem? found)
      refine ⟨live_put_subset live key _ w.time, fun r requested => ?_⟩
      rw [Tracker.requests_put] at requested
      rcases List.mem_append.mp requested with earlier | new
      · exact keyed r earlier
      · rw [List.mem_singleton.mp new]
        exact named

/-- Every move keeps the numbers of accepted next objectives apart. -/
theorem Move.filed
    {m m' : Moment}
    (move : Move m m')
    (tallied : m.Tallied)
    (filed : m.Filed) :
    m'.Filed := by
  cases move with
  | @quiet d w w' quiet =>
      obtain ⟨issued, distinct, unused, unowed, pipelines⟩ := filed
      have used : Moment.used ⟨d, w'⟩ = Moment.used ⟨d, w⟩ := by
        rw [Moment.used, Moment.used, quiet.batches]
      refine ⟨?_, ?_, ?_, ?_, ?_⟩
      · rw [quiet.filed, quiet.tickets]
        exact issued
      · rw [quiet.filed]
        exact distinct
      · rw [quiet.filed, used]
        exact unused
      · rw [quiet.filed]
        exact unowed
      · exact quiet.forall_pipelines pipelines fun _ _ => Pipeline.Filed.of_core_eq
  | @build d w device settings =>
      obtain ⟨issued, distinct, unused, unowed, pipelines⟩ := filed
      have same : World.filed
          { w with pipelines := w.pipelines ++ [({ device, settings } : Pipeline)] } = w.filed := by
        simp [World.filed, Session.filed, Tracker.requests]
      refine ⟨same ▸ issued, same ▸ distinct, same ▸ unused, same ▸ unowed, ?_⟩
      intro p member
      rcases List.mem_append.mp member with earlier | new
      · exact pipelines p earlier
      · rw [List.mem_singleton.mp new]
        exact ⟨List.Subset.refl _, by simp [Tracker.requests]⟩
  | @issue d w tag reaction =>
      refine filed.of_pipelines_eq rfl (Nat.le_succ _) (fun s used => ?_) (by simp +contextual)
      rcases List.mem_cons.mp (List.perm_middle.subset used) with rfl | earlier
      · exact .inr (Nat.le_refl _)
      · exact .inl earlier
  | abandon =>
      refine filed.of_pipelines_eq rfl (Nat.le_refl _) (fun s used => .inl ?_) (by simp +contextual)
      exact ((List.sublist_cons_self _ _).append_left _).subset used
  | @answer d w t e =>
      refine filed.of_pipelines_eq rfl (Nat.le_refl _) (fun s used => .inl ?_) (fun u tells => ?_)
      · exact ((List.sublist_cons_self _ _).append_left _).subset used
      · rcases List.mem_cons.mp tells with first | later
        · cases first
          exact .inr (List.mem_append_right _ List.mem_cons_self)
        · exact .inl (List.mem_cons_of_mem _ later)
  | @send d w t b =>
      refine filed.of_pipelines_eq rfl (Nat.le_refl _) (fun s used => .inl ?_) (by simp +contextual)
      unfold Moment.used at used
      rwa [List.map_append, List.append_assoc] at used
  | @relay d w number sent e found open_ =>
      refine filed.of_pipelines_eq rfl (Nat.le_refl _) (fun s used => .inl ?_) (fun u tells => ?_)
      · unfold Moment.used at used
        rwa [map_settle found (·.ticket.serial) rfl] at used
      · rcases List.mem_cons.mp tells with first | later
        · cases first
          have batched := List.mem_map_of_mem (f := (·.ticket.serial)) (List.mem_of_getElem? found)
          exact .inr (List.mem_append_left _ batched)
        · exact .inl later
  | enter found named accepts =>
      obtain ⟨issued, distinct, unused, unowed, pipelines⟩ := filed.enter tallied found named
      exact ⟨issued, distinct, unused, fun u tells => unowed u (by simpa using tells), pipelines⟩
  | confirm reported confirms found live early =>
      obtain ⟨issued, distinct, unused, unowed, pipelines⟩ :=
        filed.setTracker found (requests_conclude _ _ .resolved) (live_conclude _ _ .resolved) rfl
          fun _ => id
      exact ⟨issued, distinct, unused, unowed, pipelines⟩
  | lapse reported confirms found live late =>
      exact filed.setTracker found (requests_conclude _ _ .expired) (live_conclude _ _ .expired) rfl
        (by simp)
  | lose reported confirms found broken =>
      exact filed.setTracker found rfl List.filter_sublist.subset rfl fun _ => id
  | sweep found =>
      exact filed.setTracker found (Tracker.requests_expireAll _) List.filter_sublist.subset
        (held_sweep _ _) (by simp)
  | _ => exact filed.of_pipelines_eq rfl (Nat.le_refl _) (fun s => .inl) (by simp +contextual)

/-- At a visited moment the numbers of accepted next objectives are apart. -/
theorem Visited.filed {m : Moment} (visited : Visited m) : m.Filed := by
  induction visited with
  | refl =>
      have none : World.filed {} = [] := rfl
      exact ⟨by simp [none], by simp [none], by simp [none], by simp, by simp⟩
  | tail visited turn ih =>
      cases turn with
      | move move => exact move.filed (Visited.tallied visited) ih
      | leave => exact ih.of_pipelines_eq rfl (Nat.le_refl _) (fun s => .inl) (by simp)

/-! ### Stored records -/

/-- What is found after an entry has been put. -/
theorem lookupPair?_insertPair
    {κ α : Type}
    [DecidableEq κ]
    (key other : κ)
    (a : α)
    (entries : List (κ × α)) :
    lookupPair? other (insertPair key a entries) =
      if key = other then some a else lookupPair? other entries := by
  unfold lookupPair?
  induction entries with
  | nil =>
      by_cases same : key = other <;> simp [insertPair, same]
  | cons entry rest ih =>
      unfold insertPair
      by_cases here : entry.1 = key
      · by_cases same : key = other <;> simp [here, same]
      · rw [if_neg here, List.find?_cons, List.find?_cons]
        by_cases first : entry.1 = other
        · have apart : key ≠ other := fun same => here (first.trans same.symm)
          simp [first, apart]
        · simpa [first] using ih

section
variable {m m' : Moment}
variable {q : Pipeline}
variable {r : Request NextTicket Float}

theorem mem_filed
    {w : World}
    (owner : q ∈ w.pipelines)
    (accepted : r ∈ q.tracker.requests) :
    r.subject.ticket.serial ∈ w.filed :=
  List.mem_flatMap.mpr ⟨q, owner, List.mem_map.mpr ⟨r, accepted, rfl⟩⟩

/-- Accepted next objectives with the same number are the same. -/
theorem Moment.Filed.eq_of_serial_eq
    (filed : m.Filed)
    {p : Pipeline}
    {s : Request NextTicket Float}
    (first : p ∈ m.world.pipelines)
    (one : s ∈ p.tracker.requests)
    (second : q ∈ m.world.pipelines)
    (other : r ∈ q.tracker.requests)
    (same : s.subject.ticket.serial = r.subject.ticket.serial) :
    s = r := by
  have distinct := filed.distinct
  have numbers : m.world.filed =
      (m.world.pipelines.flatMap (·.tracker.requests)).map (·.subject.ticket.serial) := by
    rw [List.map_flatMap]
    rfl
  rw [numbers] at distinct
  exact List.inj_on_of_nodup_map distinct (List.mem_flatMap.mpr ⟨p, first, one⟩)
    (List.mem_flatMap.mpr ⟨q, second, other⟩) same

theorem eq_of_mem_told
    {t u : Ticket}
    {e f : Ending}
    (told : .ended t e ∈ u.told f) :
    t = u ∧ e = f := by
  unfold Ticket.told at told
  split at told
  · cases told
  · cases List.mem_singleton.mp told
    exact ⟨rfl, rfl⟩

/-- A request is confirmed by telling the context of its own objective. -/
theorem eq_of_mem_confirmation
    {fails : Bool}
    {t : Ticket}
    {e : Ending}
    (told : .ended t e ∈ confirmation fails r) :
    t = r.subject.ticket ∧
      e = if fails then .failure .groupInstallationFailed else .success := by
  unfold confirmation at told
  rcases List.mem_cons.mp told with store | later
  · cases store
  · cases fails with
    | true =>
        rcases List.mem_cons.mp later with notice | told
        · cases notice
        · exact eq_of_mem_told told
    | false => exact eq_of_mem_told later

/-- A move that ends an objective tells its context, or confirms its request. -/
theorem Move.of_ended
    (move : Move m m')
    {t : Ticket}
    {e : Ending}
    (reported : .ended t e ∈ m'.world.events.drop m.world.events.length) :
    (.telling t e ∈ m.duties ∧ m'.world.pipelines = m.world.pipelines) ∨
      ∃ i p s, m.world.pipelines[i]? = some p ∧ p.tracker.get? s.key = some s ∧
        .ended t e ∈ confirmation m.world.storeFails s ∧
        m'.world.pipelines =
          (m.world.setTracker i ((p.tracker.erase s.key).settle s .resolved)).pipelines ∧
        m'.world.records = recordsAfter m.world s := by
  cases move with
  | quiet quiet => simp [quiet.events] at reported
  | note plain =>
      rw [World.note, List.drop_left, List.mem_singleton] at reported
      rw [← reported] at plain
      exact plain.elim
  | enter found named accepts =>
      rw [World.note, World.setTracker, List.drop_left, List.mem_singleton] at reported
      rcases accepts with ⟨request, buckets, app, rfl⟩ | rfl <;> cases reported
  | @tell d w u f =>
      rw [World.note, List.drop_left] at reported
      obtain ⟨rfl, rfl⟩ := eq_of_mem_told reported
      exact .inl ⟨List.mem_cons_self, rfl⟩
  | @confirm d w event i p s announced confirms found live early =>
      refine .inr ⟨i, p, s, found, live, ?_, rfl, rfl⟩
      simpa [World.note, World.setTracker] using reported
  | _ => simp [World.note, World.setTracker] at reported

/-- When the success of a next objective is reported, the record of its group has been stored. -/
theorem Visited.stored_of_reported
    (visited : Visited m)
    (turn : Turn m m')
    (owner : q ∈ m'.world.pipelines)
    (accepted : r ∈ q.tracker.requests)
    (reported : .ended r.subject.ticket .success ∈
      m'.world.events.drop m.world.events.length) :
    lookupPair? r.subject.id m'.world.records = some (.group r.key) := by
  have filed := visited.filed
  have filed' := Visited.filed (visited.tail turn)
  cases turn with
  | leave => simp at reported
  | move move =>
      rcases move.of_ended reported with
        ⟨owed, same⟩ | ⟨i, p, s, found, live, told, same, records⟩
      · rw [same] at owner
        exact absurd (mem_filed owner accepted) (filed.unowed _ owed)
      · obtain ⟨ticket, ending⟩ := eq_of_mem_confirmation told
        have stores : m.world.storeFails = false := by
          by_contra fails
          rw [Bool.not_eq_false] at fails
          rw [fails] at ending
          cases ending
        -- The request that was confirmed is the one of the objective, which is the only one.
        have taken := getElem?_setTracker found ((p.tracker.erase s.key).settle s .resolved)
        rw [← same] at taken
        have requested : s ∈ p.tracker.requests :=
          (filed.pipelines p (List.mem_of_getElem? found)).live (Tracker.mem_of_get? live).1
        have again : s ∈ ((p.tracker.erase s.key).settle s .resolved).requests := by
          rwa [requests_conclude]
        obtain rfl := filed'.eq_of_serial_eq (List.mem_of_getElem? taken) again owner accepted
          (congrArg Ticket.serial ticket.symm)
        rw [records, recordsAfter, stores, if_neg Bool.false_ne_true, lookupPair?_insertPair,
          if_pos rfl]

/-- What happens next puts no record for an identifier. -/
structure LeavesRecord (id : Value) (m m' : Moment) : Prop where
  turn : Turn m m'
  /-- A step that asks for it fails. -/
  asked : ∀ ref, .doing (.putRecord id ref) ∈ m.duties → m'.world.records = m.world.records
  /-- The store takes no record for it from a confirmation. -/
  refused : ∀ key, .store id key false ∉ m'.world.events.drop m.world.events.length

/-- A record is found as long as none is put for its identifier. -/
theorem LeavesRecord.lookup
    {id : Value}
    (leaves : LeavesRecord id m m') :
    lookupPair? id m'.world.records = lookupPair? id m.world.records := by
  obtain ⟨turn, asked, refused⟩ := leaves
  cases turn with
  | leave => rfl
  | move move =>
      cases move with
      | quiet quiet => rw [quiet.records]
      | @putRecord d w other ref stored doing =>
          by_cases same : other = id
          · rw [asked ref (same ▸ doing)]
          · exact (lookupPair?_insertPair other id stored w.records).trans (if_neg same)
      | @confirm d w event i p s announced confirms found live early =>
          dsimp only
          unfold recordsAfter
          cases fails : w.storeFails with
          | true => rfl
          | false =>
              rw [if_neg Bool.false_ne_true, lookupPair?_insertPair]
              refine if_neg fun same => refused s.key ?_
              rw [World.note, World.setTracker, List.drop_left, ← same, fails]
              exact List.mem_cons_self
      | _ => rfl

/-- A record is found through everything that puts none for its identifier. -/
theorem lookup_of_leavesRecord
    {id : Value}
    (since : Relation.ReflTransGen (LeavesRecord id) m m') :
    lookupPair? id m'.world.records = lookupPair? id m.world.records := by
  induction since with
  | refl => rfl
  | tail _ leaves ih => exact leaves.lookup.trans ih

end

end Session
end LineTerminal
