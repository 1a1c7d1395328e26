import LineTerminal.Proofs.Session.Reached
import LineTerminal.Proofs.Session.Trace

/-!
# Every context is told once at most

Whatever the clock does, the number of a ticket is kept in one place at a time: by a duty, by a
batch that is under way, or by a request that can still be confirmed.  When its context is told, the
number is given up.  So a context that has been told once is not told again.
-/

namespace LineTerminal
namespace Session

/-- The number that a duty keeps: of an objective it holds, or of a context it has to tell. -/
def Duty.serial? : Duty → Option Nat
  | .holding t => some t.serial
  | .telling t _ => some t.serial
  | _ => none

/-- The numbers that the requests keep that can still be confirmed. -/
def waiting (t : Tracker NextTicket Float) : List Nat := t.live.map (·.subject.ticket.serial)

/-- The numbers whose contexts can still be told, once for each place that they are kept in. -/
def Moment.outstanding (m : Moment) : List Nat :=
  m.duties.filterMap Duty.serial? ++
    (m.world.batches.filterMap SentBatch.held? ++
      m.world.pipelines.flatMap fun p => waiting p.tracker)

/-- The numbers of the objectives that have been handed on in a batch, or still can be. -/
def Moment.used (m : Moment) : List Nat :=
  m.world.batches.map (·.ticket.serial) ++ m.duties.filterMap Duty.held?

/-- In how many places a number is kept, and how often its context was told. -/
def Moment.tally (s : Nat) (m : Moment) : Nat :=
  m.outstanding.count s + (endings s m.world.events).length

/-- A moment at which every number that was issued is kept in one place or told, once in all. -/
structure Moment.Tallied (m : Moment) : Prop where
  /-- A number is kept or told once, and not before it was issued. -/
  once : ∀ s, m.tally s ≤ if s < m.world.tickets then 1 else 0
  /-- The numbers of the batches were issued. -/
  sent : ∀ b ∈ m.world.batches, b.ticket.serial < m.world.tickets
  /-- No two batches are for the same objective. -/
  apart : m.used.Nodup

/-! ### Live requests -/

/-- Requests that are some of others keep some of their numbers. -/
theorem numbers_subperm
    {rs qs : List (Request NextTicket Float)}
    (some_ : rs.Subperm qs) :
    (rs.map (·.subject.ticket.serial)).Subperm (qs.map (·.subject.ticket.serial)) := by
  obtain ⟨chosen, same, among⟩ := some_
  exact ⟨_, same.map _, among.map _⟩

theorem waiting_put_subperm
    (t : Tracker NextTicket Float)
    (key : GroupKey)
    (subject : NextTicket)
    (now : Float) :
    (waiting (t.put key subject now)).Subperm (subject.ticket.serial :: waiting t) :=
  numbers_subperm (Tracker.place_subperm ⟨t.history.length, key, subject, now⟩ t.live)

/-- A request that is taken out gives up its number. -/
theorem waiting_erase_subperm
    {t : Tracker NextTicket Float}
    {r : Request NextTicket Float}
    (live : t.get? r.key = some r) :
    (r.subject.ticket.serial :: waiting (t.erase r.key)).Subperm (waiting t) := by
  have others : (t.live.filter fun q => q.key ≠ r.key).Subperm t.live := List.filter_sublist.subperm
  have gone : r ∉ t.live.filter fun q => q.key ≠ r.key := by simp
  exact numbers_subperm
    (List.cons_subperm_of_not_mem_of_mem gone (Tracker.mem_of_get? live).1 others)

/-- A sweep gives up the numbers of the requests that are due. -/
theorem waiting_sweep_perm (t : Tracker NextTicket Float) (now : Float) :
    ((t.due now).map (·.subject.ticket.serial) ++ waiting (t.sweep now)).Perm (waiting t) := by
  have parted := List.filter_append_perm (fun r => decide (t.Due now r)) t.live
  have moved := parted.map (·.subject.ticket.serial)
  rw [List.map_append] at moved
  simpa [waiting, Tracker.due, Tracker.sweep] using moved

/-! ### Moves -/

/-- Numbers may be given up while no context is told. -/
theorem tally_le_of_subperm
    {m m' : Moment}
    (less : m'.outstanding.Subperm m.outstanding)
    (untold : ∀ s, endings s m'.world.events = endings s m.world.events)
    (s : Nat) :
    m'.tally s ≤ m.tally s := by
  unfold Moment.tally
  rw [untold s]
  exact Nat.add_le_add_right (less.count_le s) _

theorem endings_note_of_neutral
    {e : Event}
    (neutral : e.Neutral)
    (s : Nat)
    (w : World) :
    endings s (w.note [e]).events = endings s w.events := by
  rw [World.note, endings_append, neutral.endings_singleton, List.append_nil]

/-- A tracker that changes gives the numbers of its pipeline up, or keeps them. -/
theorem outstanding_setTracker
    {d d' : List Duty}
    {w : World}
    {i : Nat}
    {p : Pipeline}
    {t : Tracker NextTicket Float}
    (found : w.pipelines[i]? = some p)
    (less : (d'.filterMap Duty.serial? ++ waiting t).Subperm
      (d.filterMap Duty.serial? ++ waiting p.tracker)) :
    (Moment.outstanding ⟨d', w.setTracker i t⟩).Subperm (Moment.outstanding ⟨d, w⟩) := by
  obtain ⟨others, before, after⟩ := flatMap_setTracker_perm found waiting
  have beside (held kept : List Nat) {all : List Nat} (split : all.Perm (kept ++ others)) :
      (held ++ (w.batches.filterMap SentBatch.held? ++ all)).Perm
        ((held ++ kept) ++ (w.batches.filterMap SentBatch.held? ++ others)) := by
    refine (((split.append_left _).trans (List.perm_append_comm_assoc _ _ _)).append_left _).trans ?_
    rw [List.append_assoc]
  exact (beside _ _ (after t)).subperm.trans
    (((List.subperm_append_right _).mpr less).trans (beside _ _ before).symm.subperm)

/-- A move gives numbers up or tells their contexts, unless it issues a number. -/
theorem Move.tally_le
    {m m' : Moment}
    (move : Move m m')
    (s : Nat) :
    m'.tally s ≤ m.tally s +
      if m.world.tickets ≤ s ∧ s < m'.world.tickets then 1 else 0 := by
  -- Most moves only give numbers up.
  have fewer {m m' : Moment} (less : m'.outstanding.Subperm m.outstanding)
      (untold : ∀ s, endings s m'.world.events = endings s m.world.events) :
      m'.tally s ≤ m.tally s +
        if m.world.tickets ≤ s ∧ s < m'.world.tickets then 1 else 0 :=
    Nat.le_add_right_of_le (tally_le_of_subperm less untold s)
  cases move with
  | @quiet d w w' quiet =>
      have same : Moment.outstanding ⟨d, w'⟩ = Moment.outstanding ⟨d, w⟩ := by
        unfold Moment.outstanding
        rw [quiet.batches, quiet.flatMap_tracker]
      refine fewer (same ▸ .refl _) fun s => ?_
      rw [quiet.events]
  | note plain => exact fewer (.refl _) (endings_note_of_neutral plain.neutral · _)
  | @build d w device settings =>
      have same : (w.pipelines ++ [({ device, settings } : Pipeline)]).flatMap
          (fun p => waiting p.tracker) = w.pipelines.flatMap fun p => waiting p.tracker := by
        simp [waiting]
      refine fewer ?_ fun _ => rfl
      rw [Moment.outstanding, same]
      exact .refl _
  | begin step => exact fewer (.refl _) fun _ => rfl
  | finish answer => exact fewer (.refl _) (endings_note_of_neutral (by trivial) · _)
  | advance asked => exact fewer (.refl _) fun _ => rfl
  | clock asked => exact fewer (.refl _) fun _ => rfl
  | mode asked => exact fewer (.refl _) fun _ => rfl
  | putRecord asked => exact fewer (.refl _) fun _ => rfl
  | @issue d w tag reaction =>
      change (w.tickets :: Moment.outstanding ⟨d, w⟩).count s + (endings s w.events).length ≤
        (Moment.outstanding ⟨d, w⟩).count s + (endings s w.events).length +
          if w.tickets ≤ s ∧ s < w.tickets + 1 then 1 else 0
      rw [List.count_cons]
      simp only [beq_iff_eq]
      split_ifs <;> omega
  | abandon => exact fewer (List.sublist_cons_self _ _).subperm fun _ => rfl
  | answer e => exact fewer (.refl _) fun _ => rfl
  | @send d w t b =>
      refine fewer ?_ (endings_note_of_neutral (by trivial) · w)
      unfold Moment.outstanding
      rw [List.filterMap_append, List.append_assoc]
      exact ((List.perm_middle.append_left _).trans List.perm_middle).subperm
  | @relay d w number batch e found open_ =>
      have settled := (held_settle_perm found open_).append_right
        (w.pipelines.flatMap fun p => waiting p.tracker)
      exact fewer ((settled.append_left _).trans List.perm_middle).symm.subperm fun _ => rfl
  | @tell d w t e =>
      refine Nat.le_add_right_of_le ?_
      change (Moment.outstanding ⟨d, w⟩).count s + (endings s (w.events ++ t.told e)).length ≤
        (t.serial :: Moment.outstanding ⟨d, w⟩).count s + (endings s w.events).length
      have once := length_heard_le t e
      simp only [endings_append, endings_told, List.length_append, List.count_cons, beq_iff_eq]
      by_cases same : t.serial = s
      · simp only [if_pos same]
        omega
      · simp [if_neg same]
  | @enter d w t i p id key e found named accepts =>
      have untold (s : Nat) : endings s [e] = [] := by
        rcases accepts with ⟨request, buckets, app, rfl⟩ | rfl <;> rfl
      refine fewer (outstanding_setTracker found ?_) fun s => ?_
      · exact ((List.subperm_append_left _).mpr (waiting_put_subperm p.tracker key _ w.time)).trans
          List.perm_middle.subperm
      · rw [World.note, endings_append, untold s, List.append_nil]
        rfl
  | dealt => exact fewer (.refl _) fun _ => rfl
  | report cause => exact fewer (.refl _) fun _ => rfl
  | reported => exact fewer (.refl _) fun _ => rfl
  | @confirm d w event i p r reported confirms found live early =>
      have taken := @tally_le_of_subperm ⟨d, w⟩
        ⟨.telling r.subject.ticket .success :: d,
          w.setTracker i ((p.tracker.erase r.key).settle r .resolved)⟩
        (outstanding_setTracker found (List.perm_middle.symm.subperm.trans
          ((List.subperm_append_left _).mpr (waiting_erase_subperm live)))) (fun _ => rfl) s
      have once := length_heard_le r.subject.ticket
        (if w.storeFails then .failure .groupInstallationFailed else .success)
      change (r.subject.ticket.serial :: Moment.outstanding ⟨d, w.setTracker i _⟩).count s +
        (endings s w.events).length ≤ _ at taken
      refine Nat.le_add_right_of_le (Nat.le_trans ?_ taken)
      change (Moment.outstanding ⟨d, w.setTracker i _⟩).count s +
        (endings s (w.events ++ _)).length ≤ _
      rw [List.count_cons, endings_append, endings_confirmation, List.length_append]
      simp only [beq_iff_eq]
      by_cases same : r.subject.ticket.serial = s
      · rw [if_pos same, if_pos same]
        omega
      · rw [if_neg same, if_neg same, List.length_nil]
        omega
  | @lapse d w event i p r reported confirms found live late =>
      refine fewer (outstanding_setTracker found ?_) fun _ => rfl
      exact List.perm_middle.symm.subperm.trans
        ((List.subperm_append_left _).mpr (waiting_erase_subperm live))
  | lose reported confirms found broken =>
      refine fewer (outstanding_setTracker found ?_) fun _ => rfl
      exact (List.subperm_append_left _).mpr (numbers_subperm List.filter_sublist.subperm)
  | @sweep d w i p found =>
      refine fewer (outstanding_setTracker found ?_) fun _ => rfl
      have tellings : ((p.tracker.due w.time).map fun r =>
          Duty.telling r.subject.ticket (.failure .groupInstallationFailed)).filterMap
            Duty.serial? = (p.tracker.due w.time).map (·.subject.ticket.serial) := by
        simp [List.filterMap_map, Duty.serial?, Function.comp_def]
      have swept := (waiting_sweep_perm p.tracker w.time).append_left (d.filterMap Duty.serial?)
      rw [List.filterMap_append, tellings, List.append_assoc]
      exact ((List.perm_append_comm_assoc _ _ _).trans swept).subperm

theorem Move.tickets_le {m m' : Moment} (move : Move m m') : m.world.tickets ≤ m'.world.tickets := by
  cases move with
  | quiet quiet => exact Nat.le_of_eq quiet.tickets.symm
  | issue tag reaction => exact Nat.le_succ _
  | _ => exact Nat.le_refl _

/-- A number that is kept was issued. -/
theorem Moment.Tallied.issued
    {m : Moment}
    (tallied : m.Tallied)
    {s : Nat}
    (kept : s ∈ m.outstanding) :
    s < m.world.tickets := by
  have once := tallied.once s
  have counted := List.count_pos_iff.mpr kept
  unfold Moment.tally at once
  by_contra unissued
  rw [if_neg unissued] at once
  omega

/-- An outcome that is passed on changes nothing else of a batch. -/
theorem map_settle
    {α : Type}
    {batches : List SentBatch}
    {number : Nat}
    {sent : SentBatch}
    (found : batches[number]? = some sent)
    (f : SentBatch → α)
    (same : f { sent with settled := true } = f sent) :
    (batches.set number { sent with settled := true }).map f = batches.map f := by
  obtain ⟨inside, rfl⟩ := List.getElem?_eq_some_iff.mp found
  apply List.ext_getElem?
  intro k
  rw [List.getElem?_map, List.getElem?_map, List.getElem?_set]
  by_cases here : number = k
  · subst here
    simp [inside, same]
  · rw [if_neg here]

/-- A number that a duty holds is kept. -/
theorem Moment.mem_outstanding_of_held
    {m : Moment}
    {s : Nat}
    (held : s ∈ m.duties.filterMap Duty.held?) :
    s ∈ m.outstanding := by
  obtain ⟨duty, member, found⟩ := List.mem_filterMap.mp held
  cases duty with
  | holding t => exact List.mem_append_left _ (List.mem_filterMap.mpr ⟨_, member, found⟩)
  | doing | requesting | reporting | telling => cases found

/-- A move uses no number twice. -/
theorem Move.apart
    {m m' : Moment}
    (move : Move m m')
    (tallied : m.Tallied) :
    m'.used.Nodup := by
  have apart := tallied.apart
  cases move with
  | quiet quiet =>
      unfold Moment.used
      rw [quiet.batches]
      exact apart
  | @issue d w tag reaction =>
      have fresh : w.tickets ∉ Moment.used ⟨d, w⟩ := by
        intro used
        rcases List.mem_append.mp used with sent | held
        · obtain ⟨b, member, same⟩ := List.mem_map.mp sent
          exact absurd (tallied.sent b member) (Nat.not_lt.mpr (Nat.le_of_eq same.symm))
        · exact Nat.lt_irrefl _ (tallied.issued (Moment.mem_outstanding_of_held held))
      exact List.perm_middle.nodup_iff.mpr (List.nodup_cons.mpr ⟨fresh, apart⟩)
  | abandon => exact apart.sublist ((List.sublist_cons_self _ _).append_left _)
  | answer e => exact apart.sublist ((List.sublist_cons_self _ _).append_left _)
  | @send d w t b =>
      unfold Moment.used
      rw [List.map_append, List.append_assoc]
      exact apart
  | @relay d w number sent e found open_ =>
      unfold Moment.used
      rw [map_settle found (·.ticket.serial) rfl]
      exact apart
  | enter found named accepts => exact apart.sublist ((List.sublist_cons_self _ _).append_left _)
  | sweep found =>
      unfold Moment.used
      rw [held_sweep]
      exact apart
  | _ => exact apart

/-- Every move keeps a moment tallied. -/
theorem Move.tallied
    {m m' : Moment}
    (move : Move m m')
    (tallied : m.Tallied) :
    m'.Tallied := by
  refine ⟨fun s => ?_, ?_, move.apart tallied⟩
  · have before := tallied.once s
    have step := move.tally_le s
    have later := move.tickets_le
    split_ifs at before step ⊢ <;> omega
  · have sent := tallied.sent
    have kept := fun b member => Nat.lt_of_lt_of_le (sent b member) move.tickets_le
    cases move with
    | quiet quiet =>
        rw [quiet.batches]
        exact kept
    | @send d w t b =>
        have issued : t.serial < w.tickets := tallied.issued List.mem_cons_self
        intro b member
        rcases List.mem_append.mp member with earlier | new
        · exact sent b earlier
        · rw [List.mem_singleton.mp new]
          exact issued
    | @relay d w number batch e found open_ =>
        intro b member
        rcases List.mem_or_eq_of_mem_set member with earlier | rfl
        · exact sent b earlier
        · exact sent batch (List.mem_of_getElem? found)
    | _ => exact kept

/-- A visited moment is tallied. -/
theorem Visited.tallied {m : Moment} (visited : Visited m) : m.Tallied := by
  induction visited with
  | refl => exact ⟨fun s => by simp [Moment.tally, Moment.outstanding], by simp, .nil⟩
  | tail _ turn ih =>
      cases turn with
      | move move => exact move.tallied ih
      | leave => exact ⟨ih.once, ih.sent, ih.apart⟩

namespace Moment.Tallied
variable {m : Moment}

/-- A context whose number is kept has not been told anything. -/
theorem endings_eq_nil
    (tallied : m.Tallied)
    {s : Nat}
    (kept : s ∈ m.outstanding) :
    endings s m.world.events = [] := by
  have once := tallied.once s
  have counted := List.count_pos_iff.mpr kept
  have none : (endings s m.world.events).length = 0 := by
    unfold tally at once
    split_ifs at once <;> omega
  exact List.length_eq_zero_iff.mp none

/-- A number that a duty keeps is kept nowhere else. -/
theorem not_mem_outstanding
    {duty : Duty}
    {d : List Duty}
    {w : World}
    (tallied : Moment.Tallied ⟨duty :: d, w⟩)
    {s : Nat}
    (keeps : duty.serial? = some s) :
    s ∉ Moment.outstanding ⟨d, w⟩ := by
  have once := tallied.once s
  have both : Moment.outstanding ⟨duty :: d, w⟩ = s :: Moment.outstanding ⟨d, w⟩ := by
    unfold Moment.outstanding
    rw [List.filterMap_cons_some keeps, List.cons_append]
  unfold Moment.tally at once
  rw [both, List.count_cons_self] at once
  refine List.count_eq_zero.mp ?_
  split_ifs at once <;> omega

end Moment.Tallied

/-- A number that is not kept any longer stays so, and its context is told nothing more. -/
theorem Turn.gone
    {m m' : Moment}
    (turn : Turn m m')
    {s : Nat}
    (issued : s < m.world.tickets)
    (gone : s ∉ m.outstanding) :
    s < m'.world.tickets ∧ s ∉ m'.outstanding ∧
      endings s m'.world.events = endings s m.world.events := by
  cases turn with
  | leave => exact ⟨issued, gone, rfl⟩
  | move move =>
      have step := move.tally_le s
      obtain ⟨others, split⟩ := (Path.grows (.single move)).events
      rw [if_neg (by omega), Moment.tally, Moment.tally, List.count_eq_zero.mpr gone, ← split,
        endings_append, List.length_append] at step
      refine ⟨Nat.lt_of_lt_of_le issued move.tickets_le, List.count_eq_zero.mp (by omega), ?_⟩
      have quiet : (endings s others).length = 0 := by omega
      rw [← split, endings_append, List.length_eq_zero_iff.mp quiet, List.append_nil]

theorem endings_eq_of_gone
    {m m' : Moment}
    (later : Relation.ReflTransGen Turn m m')
    {s : Nat}
    (issued : s < m.world.tickets)
    (gone : s ∉ m.outstanding) :
    endings s m'.world.events = endings s m.world.events := by
  have all : s < m'.world.tickets ∧ s ∉ m'.outstanding ∧
      endings s m'.world.events = endings s m.world.events := by
    induction later with
    | refl => exact ⟨issued, gone, rfl⟩
    | tail _ turn ih =>
        obtain ⟨issued', gone', same⟩ := ih
        obtain ⟨still, away, again⟩ := turn.gone issued' gone'
        exact ⟨still, away, again.trans same⟩
  exact all.2.2

/-- A path of moves leads from turn to turn. -/
theorem Path.turns {m m' : Moment} (path : Path m m') : Relation.ReflTransGen Turn m m' :=
  Relation.ReflTransGen.mono (fun _ _ => Turn.move) _ _ path

/-! ### Batches of a ticket -/

/-- The batches that were handed to the flow rule service for the objective with a number. -/
def World.batchesFor (w : World) (s : Nat) : List Batch :=
  w.batches.filterMap fun sent => if sent.ticket.serial = s then some sent.batch else none

/-- An objective that no duty holds any longer, so that no batch can be handed over for it. -/
structure Moment.Released (s : Nat) (m : Moment) : Prop where
  issued : s < m.world.tickets
  free : ∀ t, .holding t ∈ m.duties → t.serial ≠ s

theorem batchesFor_send (w : World) (t : Ticket) (b : Batch) (s : Nat) :
    (w.send t b).batchesFor s = w.batchesFor s ++ if t.serial = s then [b] else [] := by
  unfold World.batchesFor World.send
  rw [List.filterMap_append]
  by_cases same : t.serial = s <;> simp [same]

/-- An outcome that is passed on changes no batch. -/
theorem batchesFor_settle
    {w : World}
    {number : Nat}
    {sent : SentBatch}
    (found : w.batches[number]? = some sent)
    (s : Nat) :
    World.batchesFor { w with batches := w.batches.set number { sent with settled := true } } s =
      w.batchesFor s := by
  let shown (sent : SentBatch) := if sent.ticket.serial = s then some sent.batch else none
  have viewed (batches : List SentBatch) :
      batches.filterMap shown = (batches.map shown).filterMap id := by
    rw [List.filterMap_map, Function.id_comp]
  exact (viewed _).trans ((congrArg _ (map_settle found shown rfl)).trans (viewed _).symm)

/-- No batch is handed over for an objective that no duty holds. -/
theorem Move.released
    {m m' : Moment}
    {s : Nat}
    (move : Move m m')
    (released : m.Released s) :
    m'.Released s ∧ m'.world.batchesFor s = m.world.batchesFor s := by
  obtain ⟨issued, free⟩ := released
  -- A duty may go, or one come that holds nothing.
  have fewer {d d' : List Duty} (free : ∀ t, .holding t ∈ d → t.serial ≠ s)
      (less : ∀ t, Duty.holding t ∈ d' → .holding t ∈ d) : ∀ t, .holding t ∈ d' → t.serial ≠ s :=
    fun t member => free t (less t member)
  cases move with
  | quiet quiet =>
      refine ⟨⟨quiet.tickets ▸ issued, free⟩, ?_⟩
      unfold World.batchesFor
      rw [quiet.batches]
  | @issue d w tag reaction =>
      refine ⟨⟨Nat.lt_succ_of_lt issued, ?_⟩, rfl⟩
      intro t member
      rcases List.mem_cons.mp member with first | later
      · rw [(Duty.holding.inj first)]
        exact Nat.ne_of_gt issued
      · exact free t later
  | @send d w t b =>
      refine ⟨⟨issued, fewer free fun _ => List.mem_cons_of_mem _⟩, ?_⟩
      have other : t.serial ≠ s := free t List.mem_cons_self
      exact (batchesFor_send w t b s).trans (by rw [if_neg other, List.append_nil])
  | relay e found open_ => exact ⟨⟨issued, fewer free (by simp)⟩, batchesFor_settle found s⟩
  | _ => exact ⟨⟨issued, fewer free (by simp +contextual)⟩, rfl⟩

theorem Path.released
    {m m' : Moment}
    {s : Nat}
    (path : Path m m')
    (released : m.Released s) :
    m'.Released s ∧ m'.world.batchesFor s = m.world.batchesFor s := by
  induction path with
  | refl => exact ⟨released, rfl⟩
  | tail _ move ih =>
      obtain ⟨before, same⟩ := ih
      obtain ⟨after, kept⟩ := move.released before
      exact ⟨after, kept.trans same⟩

/-- No batch was handed over for a number that was not issued. -/
theorem Moment.Tallied.batchesFor_eq_nil
    {m : Moment}
    (tallied : m.Tallied)
    {s : Nat}
    (unissued : m.world.tickets ≤ s) :
    m.world.batchesFor s = [] := by
  refine List.filterMap_eq_nil_iff.mpr fun sent member => ?_
  have issued := tallied.sent sent member
  exact if_neg (by omega)

/-! ### Objectives that are held -/

/-- The state in which one more ticket has been issued. -/
def World.issued (w : World) : World := { w with tickets := w.tickets + 1 }

/-- What has been submitted under a fresh ticket is held. -/
theorem Visited.issue
    {d : List Duty}
    {w : World}
    (visited : Visited ⟨d, w⟩)
    (tag : String)
    (reaction : Reaction) :
    Visited ⟨.holding ⟨w.tickets, tag, reaction⟩ :: d, w.issued⟩ :=
  .tail visited (.move (.issue tag reaction))

theorem Moment.serial_mem_outstanding
    {m : Moment}
    {t : Ticket}
    (held : .holding t ∈ m.duties) :
    t.serial ∈ m.outstanding :=
  List.mem_append_left _ (List.mem_filterMap.mpr ⟨_, held, rfl⟩)

section
variable {d : List Duty}
variable {w : World}
variable {t : Ticket}
variable (visited : Visited ⟨.holding t :: d, w⟩)
include visited

/-- The number of an objective that is held is kept nowhere else. -/
theorem Visited.not_mem_outstanding : t.serial ∉ Moment.outstanding ⟨d, w⟩ :=
  visited.tallied.not_mem_outstanding rfl

/-- Once an objective is handed on, no other batch is handed over for it. -/
theorem Visited.released : Moment.Released t.serial ⟨d, w⟩ where
  issued := visited.tallied.issued List.mem_cons_self
  free u held same := by
    have kept := Moment.serial_mem_outstanding held
    rw [same] at kept
    exact visited.not_mem_outstanding kept

variable {nested : Nested}
variable (within : ∀ d script, (nested script).Follows (Path.Along d))
include within

/-- The context of an objective that is held is told once how it ended, without a batch. -/
theorem Visited.callBack (e : Ending) :
    let after := (callBack nested t e).after w
    endings t.serial after.events = t.heard e ∧ after.batchesFor t.serial = w.batchesFor t.serial := by
  have path := along_callBack within d t e w
  have untold := visited.tallied.endings_eq_nil List.mem_cons_self
  have told : endings t.serial (w.note (t.told e)).events = t.heard e := by
    rw [World.note, endings_append, untold, endings_told, if_pos rfl, List.nil_append]
  have gone : t.serial ∉ Moment.outstanding ⟨d, w.note (t.told e)⟩ := visited.not_mem_outstanding
  have released : Moment.Released t.serial ⟨d, w.note (t.told e)⟩ :=
    ⟨visited.released.issued, visited.released.free⟩
  exact ⟨(endings_eq_of_gone path.turns released.issued gone).trans told, (path.released released).2⟩

/-- A batch that is handed over for an objective that is held is the only one. -/
theorem Visited.applyBatch (b : Batch) :
    ((applyBatch nested t b).after w).batchesFor t.serial = w.batchesFor t.serial ++ [b] := by
  have path := along_applyBatch within d t b w
  have released : Moment.Released t.serial ⟨d, w.send t b⟩ :=
    ⟨visited.released.issued, visited.released.free⟩
  rw [(path.released released).2]
  exact (batchesFor_send w t b t.serial).trans (by rw [if_pos rfl])

/-- A batch is handed over unless it is empty. -/
theorem Visited.submitBatch (b : Batch) :
    ((submitBatch nested t b).after w).batchesFor t.serial =
      w.batchesFor t.serial ++ if b = [] then [] else [b] := by
  unfold Session.submitBatch
  cases b with
  | nil =>
      simp only [List.isEmpty_nil, if_true, List.append_nil]
      exact (visited.callBack within .success).2
  | cons entry rest => exact visited.applyBatch within (entry :: rest)

end
end Session
end LineTerminal
