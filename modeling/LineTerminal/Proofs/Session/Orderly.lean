import LineTerminal.Proofs.Pending.Tracker
import LineTerminal.Proofs.Session.Books

/-!
# Orderly moments

A moment is orderly while the clock works, the trackers are sound, every request has the key of its
identifier, and the books are balanced.  Every move keeps a moment orderly unless it breaks the
clock, which only a step that says so can do.
-/

namespace LineTerminal
namespace Session

/-- The accepted next objectives of all pipelines, and their fates. -/
def World.entries (w : World) : List (Request NextTicket Float × Fate) :=
  w.pipelines.flatMap (·.tracker.history)

/-- The number that a duty holds. -/
def Duty.held? : Duty → Option Nat
  | .holding t => some t.serial
  | _ => none

/-- What a duty has to tell. -/
def Duty.owed? : Duty → Option (Ticket × Ending)
  | .telling t e => some (t, e)
  | _ => none

/-- The number that a batch under way holds. -/
def SentBatch.held? (sent : SentBatch) : Option Nat :=
  if sent.settled then none else some sent.ticket.serial

/-- The books at a moment. -/
def Moment.books (m : Moment) : Books where
  tickets := m.world.tickets
  held := m.duties.filterMap Duty.held? ++ m.world.batches.filterMap SentBatch.held?
  owed := m.duties.filterMap Duty.owed?
  entries := m.world.entries
  events := m.world.events

/-- A pipeline with a sound tracker whose requests have the keys of their identifiers. -/
structure Pipeline.Orderly (p : Pipeline) : Prop where
  sound : p.tracker.Sound
  keyed : ∀ r ∈ p.tracker.requests, p.keySpace.keyFor? r.subject.id = some r.key

/-- A moment at which everything is in order. -/
structure Moment.Orderly (m : Moment) : Prop where
  clock : m.world.clockBroken = false
  pipelines : ∀ p ∈ m.world.pipelines, p.Orderly
  balanced : m.books.Balanced

/-- A step that is under way has nothing to do with the order. -/
theorem Moment.orderly_doing {d : List Duty} {w : World} {step : Step} :
    Moment.Orderly ⟨.doing step :: d, w⟩ ↔ Moment.Orderly ⟨d, w⟩ :=
  ⟨fun ⟨clock, pipelines, balanced⟩ => ⟨clock, pipelines, balanced⟩,
    fun ⟨clock, pipelines, balanced⟩ => ⟨clock, pipelines, balanced⟩⟩

/-! ### Pipelines of a state -/

theorem Pipeline.tracker_eq_of_core_eq {p q : Pipeline} (same : p.core = q.core) :
    q.tracker = p.tracker :=
  (congrArg Pipeline.tracker same).symm

theorem Pipeline.keySpace_eq_of_core_eq {p q : Pipeline} (same : p.core = q.core) :
    q.keySpace = p.keySpace :=
  (congrArg Pipeline.keySpace same).symm

/-- What says whether a pipeline listens and sweeps has nothing to do with its order. -/
theorem Pipeline.Orderly.of_core_eq
    {p q : Pipeline}
    (orderly : p.Orderly)
    (same : p.core = q.core) :
    q.Orderly := by
  obtain ⟨sound, keyed⟩ := orderly
  constructor
  · rwa [tracker_eq_of_core_eq same]
  · rwa [tracker_eq_of_core_eq same, keySpace_eq_of_core_eq same]

/-- What a tracker shows stays the same when it is not touched. -/
theorem World.Quiet.flatMap_tracker
    {α : Type}
    {w w' : World}
    (quiet : w.Quiet w')
    (f : Tracker NextTicket Float → List α) :
    (w'.pipelines.flatMap fun p => f p.tracker) = w.pipelines.flatMap fun p => f p.tracker := by
  have viewed (v : World) :
      (v.pipelines.flatMap fun p => f p.tracker) =
        (v.pipelines.map Pipeline.core).flatMap fun p => f p.tracker := by
    rw [List.flatMap_map]
    rfl
  rw [viewed, viewed, quiet.pipelines]

theorem World.Quiet.entries {w w' : World} (quiet : w.Quiet w') : w'.entries = w.entries :=
  quiet.flatMap_tracker (·.history)

/-- What a quiet change leaves of all pipelines, as far as listening and sweeping do not matter. -/
theorem World.Quiet.forall_pipelines
    {P : Pipeline → Prop}
    {w w' : World}
    (quiet : w.Quiet w')
    (all : ∀ p ∈ w.pipelines, P p)
    (of_core_eq : ∀ p q, P p → p.core = q.core → P q) :
    ∀ p ∈ w'.pipelines, P p := by
  intro q member
  have mapped := List.mem_map_of_mem (f := Pipeline.core) member
  rw [quiet.pipelines] at mapped
  obtain ⟨p, earlier, same⟩ := List.mem_map.mp mapped
  exact of_core_eq p q (all p earlier) same

section
variable {w : World}
variable {i : Nat}
variable {p : Pipeline}

theorem mem_pipelines_setTracker
    (found : w.pipelines[i]? = some p)
    {t : Tracker NextTicket Float}
    {q : Pipeline}
    (member : q ∈ (w.setTracker i t).pipelines) :
    q ∈ w.pipelines ∨ q = { p with tracker := t } := by
  obtain ⟨j, at_j⟩ := List.mem_iff_getElem?.mp member
  rw [World.setTracker, List.getElem?_modify] at at_j
  by_cases here : i = j
  · subst here
    rw [found] at at_j
    simp only [if_true, Option.map_eq_map, Option.map_some, Option.some.injEq] at at_j
    exact .inr at_j.symm
  · simp only [if_neg here, Option.map_eq_map, Option.map_id_fun', id] at at_j
    exact .inl (List.mem_of_getElem? at_j)

/-- What the tracker of one pipeline shows stands beside what those of the others show. -/
theorem flatMap_setTracker_perm
    {α : Type}
    (found : w.pipelines[i]? = some p)
    (f : Tracker NextTicket Float → List α) :
    ∃ others,
      (w.pipelines.flatMap fun q => f q.tracker).Perm (f p.tracker ++ others) ∧
      ∀ t, ((w.setTracker i t).pipelines.flatMap fun q => f q.tracker).Perm (f t ++ others) := by
  obtain ⟨inside, rfl⟩ := List.getElem?_eq_some_iff.mp found
  have split := List.take_append_drop i w.pipelines
  rw [List.drop_eq_getElem_cons inside] at split
  refine ⟨(w.pipelines.take i ++ w.pipelines.drop (i + 1)).flatMap fun q => f q.tracker, ?_, ?_⟩
  · conv => lhs; rw [← split]
    simp only [List.flatMap_append, List.flatMap_cons]
    exact List.perm_append_comm_assoc _ _ _
  · intro t
    unfold World.setTracker
    rw [List.modify_eq_take_cons_drop inside]
    simp only [List.flatMap_append, List.flatMap_cons]
    exact List.perm_append_comm_assoc _ _ _

/-- The entries of one pipeline stand beside those of the others. -/
theorem entries_setTracker_perm (found : w.pipelines[i]? = some p) :
    ∃ others,
      w.entries.Perm (p.tracker.history ++ others) ∧
      ∀ t, (w.setTracker i t).entries.Perm (t.history ++ others) :=
  flatMap_setTracker_perm found (·.history)

/-- All pipelines stay orderly when one of them gets an orderly tracker. -/
theorem orderly_setTracker
    (orderly : ∀ p ∈ w.pipelines, p.Orderly)
    (found : w.pipelines[i]? = some p)
    {t : Tracker NextTicket Float}
    (sound : t.Sound)
    (keyed : ∀ r ∈ t.requests, p.keySpace.keyFor? r.subject.id = some r.key) :
    ∀ q ∈ (w.setTracker i t).pipelines, q.Orderly := by
  intro q member
  rcases mem_pipelines_setTracker found member with earlier | rfl
  · exact orderly q earlier
  · exact ⟨sound, keyed⟩

end

/-! ### Trackers and books -/

namespace Books.Balanced
variable {tickets : Nat}
variable {held : List Nat}
variable {owed : List (Ticket × Ending)}
variable {others : List (Request NextTicket Float × Fate)}
variable {events : List Event}
variable {t : Tracker NextTicket Float}

/-- One entry of a tracker is brought to the front of the books. -/
theorem front
    {earlier later : List (Request NextTicket Float × Fate)}
    {entry : Request NextTicket Float × Fate}
    (split : t.history = earlier ++ entry :: later) :
    (t.history ++ others).Perm (entry :: (earlier ++ later ++ others)) := by
  rw [split, List.append_assoc, List.cons_append, List.append_assoc]
  exact List.perm_middle

/-- A request of a tracker expires, and its context is to be told. -/
theorem settle_expired
    (balanced : (⟨tickets, held, owed, t.history ++ others, events⟩ : Books).Balanced)
    (numbered : t.Numbered)
    {r : Request NextTicket Float}
    (pending : (r, Fate.pending) ∈ t.history) :
    (⟨tickets, held, (r.subject.ticket, .failure .groupInstallationFailed) :: owed,
      (t.settle r .expired).history ++ others, events⟩ : Books).Balanced := by
  obtain ⟨earlier, later, before, after⟩ := numbered.settle_split pending .expired
  have first := balanced.perm_entries (front before)
  exact (first.expire).perm_entries (front after).symm

/-- A request of a tracker is confirmed, and its context is told. -/
theorem settle_resolved
    (balanced : (⟨tickets, held, owed, t.history ++ others, events⟩ : Books).Balanced)
    (numbered : t.Numbered)
    {r : Request NextTicket Float}
    (pending : (r, Fate.pending) ∈ t.history)
    (fails : Bool) :
    (⟨tickets, held, owed, (t.settle r .resolved).history ++ others,
      events ++ confirmation fails r⟩ : Books).Balanced := by
  obtain ⟨earlier, later, before, after⟩ := numbered.settle_split pending .resolved
  have first := balanced.perm_entries (front before)
  exact (first.confirm fails).perm_entries (front after).symm

/-- A request of a tracker is superseded. -/
theorem settle_superseded
    (balanced : (⟨tickets, held, owed, t.history ++ others, events⟩ : Books).Balanced)
    (numbered : t.Numbered)
    {r : Request NextTicket Float}
    (pending : (r, Fate.pending) ∈ t.history) :
    (⟨tickets, held, owed, (t.settle r .superseded).history ++ others, events⟩ : Books).Balanced := by
  obtain ⟨earlier, later, before, after⟩ := numbered.settle_split pending .superseded
  have first := balanced.perm_entries (front before)
  exact (first.supersede).perm_entries (front after).symm

/-- A next objective is accepted, and takes the place of a live request with the same key. -/
theorem put
    {ticket : Ticket}
    (balanced :
      (⟨tickets, ticket.serial :: held, owed, t.history ++ others, events⟩ : Books).Balanced)
    (sound : t.Sound)
    {key : GroupKey}
    {e : Event}
    {device : String}
    (accepts : e.Accepts device key)
    (id : Value)
    (now : Float) :
    (⟨tickets, held, owed, (t.put key { ticket, id } now).history ++ others,
      events ++ [e]⟩ : Books).Balanced := by
  have added (u : List (Request NextTicket Float × Fate)) (r : Request NextTicket Float) :
      ((r, Fate.pending) :: (u ++ others)).Perm (u ++ [(r, .pending)] ++ others) := by
    rw [List.append_assoc]
    exact List.perm_middle.symm
  cases found : t.get? key with
  | none =>
      rw [Tracker.history_put_of_get?_eq_none found]
      have entered := balanced.enter (r := ⟨t.history.length, key, { ticket, id }, now⟩) accepts
      exact entered.perm_entries (added _ _)
  | some previous =>
      rw [Tracker.history_put_of_get?_eq_some found]
      have superseded := balanced.settle_superseded sound.numbered (sound.pending_of_get? found)
      have entered := superseded.enter (r := ⟨t.history.length, key, { ticket, id }, now⟩) accepts
      exact entered.perm_entries (added _ _)

/-- Several requests of a tracker expire, and their contexts are to be told. -/
theorem expireAll
    {rs : List (Request NextTicket Float)}
    (balanced : (⟨tickets, held, owed, t.history ++ others, events⟩ : Books).Balanced)
    (numbered : t.Numbered)
    (pending : ∀ r ∈ rs, (r, Fate.pending) ∈ t.history)
    (distinct : (rs.map (·.serial)).Nodup) :
    (⟨tickets, held,
      (rs.map fun r => (r.subject.ticket, .failure .groupInstallationFailed)) ++ owed,
      (t.expireAll rs).history ++ others, events⟩ : Books).Balanced := by
  induction rs generalizing t owed with
  | nil => exact balanced
  | cons r rest ih =>
      simp only [List.map_cons, List.nodup_cons, List.mem_map, not_exists, not_and] at distinct
      obtain ⟨apart, distinct⟩ := distinct
      have first := balanced.settle_expired numbered (pending r List.mem_cons_self)
      have still : ∀ q ∈ rest, (q, Fate.pending) ∈ (t.settle r .expired).history := by
        intro q later
        rw [Tracker.mem_settle]
        refine ⟨.pending, pending q (List.mem_cons_of_mem _ later), ?_⟩
        rw [if_neg (apart q later)]
      have all := ih first (numbered.settle r .expired) still distinct
      exact all.perm_owed List.perm_middle

end Books.Balanced
/-! ### Moves -/

/-- The numbers of the batches under way, when one of them is settled. -/
theorem held_settle_perm
    {batches : List SentBatch}
    {number : Nat}
    {sent : SentBatch}
    (found : batches[number]? = some sent)
    (open_ : sent.settled = false) :
    (batches.filterMap SentBatch.held?).Perm
      (sent.ticket.serial ::
        (batches.set number { sent with settled := true }).filterMap SentBatch.held?) := by
  obtain ⟨inside, rfl⟩ := List.getElem?_eq_some_iff.mp found
  have split := List.take_append_drop number batches
  rw [List.drop_eq_getElem_cons inside] at split
  conv => lhs; rw [← split]
  rw [List.set_eq_take_append_cons_drop, if_pos inside]
  simp only [List.filterMap_append, List.filterMap_cons, SentBatch.held?, open_, if_true,
    Bool.false_eq_true, if_false]
  exact List.perm_middle

theorem entries_build (w : World) (device : String) (settings : Settings) :
    World.entries { w with pipelines := w.pipelines ++ [({ device, settings } : Pipeline)] } =
      w.entries := by
  simp [World.entries]

/-- The duties of a sweep are to tell the contexts of the requests that are due. -/
theorem owed_sweep (rs : List (Request NextTicket Float)) (d : List Duty) :
    (rs.map (fun r => Duty.telling r.subject.ticket (.failure .groupInstallationFailed)) ++
        d).filterMap Duty.owed? =
      rs.map (fun r => (r.subject.ticket, .failure .groupInstallationFailed)) ++
        d.filterMap Duty.owed? := by
  simp [List.filterMap_map, Duty.owed?, Function.comp_def]

theorem held_sweep (rs : List (Request NextTicket Float)) (d : List Duty) :
    (rs.map (fun r => Duty.telling r.subject.ticket (.failure .groupInstallationFailed)) ++
        d).filterMap Duty.held? =
      d.filterMap Duty.held? := by
  simp [List.filterMap_map, Duty.held?, Function.comp_def]

/-- A move keeps a moment orderly, unless a step is under way that breaks the clock. -/
theorem Move.orderly
    {m m' : Moment}
    (move : Move m m')
    (orderly : m.Orderly) :
    m'.Orderly ∨ .doing (.clock true) ∈ m.duties := by
  obtain ⟨clock, pipelines, balanced⟩ := orderly
  cases move with
  | @clock d w broken asked =>
      cases broken with
      | true => exact .inr asked
      | false => exact .inl ⟨rfl, pipelines, balanced⟩
  | quiet quiet =>
      refine .inl ⟨quiet.clockBroken.trans clock,
        quiet.forall_pipelines pipelines fun _ _ => Pipeline.Orderly.of_core_eq, ?_⟩
      rw [Moment.books, quiet.tickets, quiet.batches, quiet.entries, quiet.events]
      exact balanced
  | note plain => exact .inl ⟨clock, pipelines, balanced.note plain.neutral⟩
  | build device settings =>
      refine .inl ⟨clock, ?_, ?_⟩
      · intro p member
        rcases List.mem_append.mp member with earlier | new
        · exact pipelines p earlier
        · rw [List.mem_singleton.mp new]
          exact ⟨Tracker.Sound.empty _, by simp [Tracker.requests]⟩
      · rw [Moment.books, entries_build]
        exact balanced
  | begin step => exact .inl ⟨clock, pipelines, balanced⟩
  | finish answer => exact .inl ⟨clock, pipelines, balanced.note trivial⟩
  | advance asked => exact .inl ⟨clock, pipelines, balanced⟩
  | mode asked => exact .inl ⟨clock, pipelines, balanced⟩
  | putRecord asked => exact .inl ⟨clock, pipelines, balanced⟩
  | issue tag reaction => exact .inl ⟨clock, pipelines, balanced.issue⟩
  | abandon => exact .inl ⟨clock, pipelines, balanced.release⟩
  | answer e => exact .inl ⟨clock, pipelines, balanced.owe e⟩
  | @send d w t b =>
      let sent : SentBatch := { batch := b, ticket := t }
      have moved :
          (t.serial :: (d.filterMap Duty.held? ++ w.batches.filterMap SentBatch.held?)).Perm
          (d.filterMap Duty.held? ++ (w.batches ++ [sent]).filterMap SentBatch.held?) := by
        rw [List.filterMap_append, ← List.append_assoc]
        exact (List.perm_append_singleton _ _).symm
      exact .inl ⟨clock, pipelines, (balanced.perm_held moved).note trivial⟩
  | @relay d w number sent e found open_ =>
      have settled := ((held_settle_perm found open_).append_left (d.filterMap Duty.held?)).trans
        List.perm_middle
      exact .inl ⟨clock, pipelines, (balanced.perm_held settled).owe e⟩
  | tell => exact .inl ⟨clock, pipelines, balanced.tell⟩
  | @enter d w t i p id key e found named accepts =>
      obtain ⟨sound, keyed⟩ := pipelines p (List.mem_of_getElem? found)
      obtain ⟨others, before, after⟩ := entries_setTracker_perm found
      have entered := (balanced.perm_entries before).put sound accepts id w.time
      refine .inl ⟨clock, ?_, entered.perm_entries (after _).symm⟩
      refine orderly_setTracker pipelines found (sound.put _ _ _) ?_
      intro r member
      rw [Tracker.requests_put] at member
      rcases List.mem_append.mp member with earlier | new
      · exact keyed r earlier
      · rw [List.mem_singleton.mp new]
        exact named
  | dealt => exact .inl ⟨clock, pipelines, balanced⟩
  | report cause => exact .inl ⟨clock, pipelines, balanced⟩
  | reported => exact .inl ⟨clock, pipelines, balanced⟩
  | @confirm d w event i p r reported confirms found live early =>
      obtain ⟨sound, keyed⟩ := pipelines p (List.mem_of_getElem? found)
      obtain ⟨others, before, after⟩ := entries_setTracker_perm found
      have resolved := Books.Balanced.settle_resolved (t := p.tracker.erase r.key)
        (balanced.perm_entries before) sound.numbered (sound.pending_of_get? live) w.storeFails
      refine .inl ⟨clock, ?_, resolved.perm_entries (after _).symm⟩
      refine orderly_setTracker pipelines found (sound.conclude live (by decide)) ?_
      rwa [Tracker.requests_settle]
  | @lapse d w event i p r reported confirms found live late =>
      obtain ⟨sound, keyed⟩ := pipelines p (List.mem_of_getElem? found)
      obtain ⟨others, before, after⟩ := entries_setTracker_perm found
      have expired := Books.Balanced.settle_expired (t := p.tracker.erase r.key)
        (balanced.perm_entries before) sound.numbered (sound.pending_of_get? live)
      refine .inl ⟨clock, ?_, expired.perm_entries (after _).symm⟩
      refine orderly_setTracker pipelines found (sound.conclude live (by decide)) ?_
      rwa [Tracker.requests_settle]
  | lose reported confirms found broken =>
      rw [clock] at broken
      exact absurd broken Bool.false_ne_true
  | @sweep d w i p found =>
      obtain ⟨sound, keyed⟩ := pipelines p (List.mem_of_getElem? found)
      obtain ⟨others, before, after⟩ := entries_setTracker_perm found
      have expired := (balanced.perm_entries before).expireAll sound.numbered
        (fun r due => sound.steady.pending_of_mem_due due) (sound.steady.nodup_serial_due w.time)
      refine .inl ⟨clock, ?_, ?_⟩
      · refine orderly_setTracker pipelines found (sound.sweep w.time) ?_
        have same : (p.tracker.sweep w.time).requests = p.tracker.requests :=
          Tracker.requests_expireAll (p.tracker.due w.time)
        rwa [same]
      · have settled := expired.perm_entries (after (p.tracker.sweep w.time)).symm
        rw [Moment.books, owed_sweep, held_sweep]
        exact settled

end Session
end LineTerminal
