import LineTerminal.Proofs.Pending.ExtraSweep
import LineTerminal.Proofs.Pending.Steady

/-!
# When the clock cannot be read

A new request and a sweep read the clock before they change anything.  When the reading
fails, it is as if they had never been tried.  A confirmation takes its request out first,
and nobody puts it back: the request stays pending for ever, and no later call hands it
over.
-/

namespace LineTerminal
namespace Usage
variable {ο τ : Type} [Sub τ] [LE τ] [DecidableLE τ]

/-- What calls in turn conclude. -/
def concludedBy (t : Tracker ο τ) : List (Call ο × τ) → List (Fate × Request ο τ)
  | [] => []
  | (c, now) :: rest => c.concluded t now ++ concludedBy (c.outcome t now).tracker rest

/-- A request can still be concluded: by the next confirmation of its key, whatever the
clock reads, and by a sweep when its time has elapsed. -/
structure Recoverable (t : Tracker ο τ) (r : Request ο τ) : Prop where
  confirmed : ∀ now,
    (if t.Due now r then .expired else .resolved, r) ∈ (Call.resolve r.key).concluded t now
  swept : ∀ now, t.Due now r → (.expired, r) ∈ (Call.expire : Call ο).concluded t now

/-- Whatever is called later, a request stays pending and is not handed over. -/
structure Lost (t : Tracker ο τ) (r : Request ο τ) : Prop where
  pending : ∀ turns, (r, Fate.pending) ∈ (trackerAfter t turns).history
  silent : ∀ turns fate, (fate, r) ∉ concludedBy t turns

variable {t : Tracker ο τ} {r : Request ο τ}

/-- A live request can still be concluded. -/
theorem recoverable_of_live
    (steady : t.Steady)
    (live : r ∈ t.live) :
    Recoverable t r where
  confirmed now := by
    rw [concluded_resolve, steady.get?_eq_some_iff.mpr ⟨live, rfl⟩]
    exact List.mem_singleton_self _
  swept now late := by
    rw [mem_concluded_iff steady]
    exact ⟨live, if_pos late⟩

/-- A lost request cannot be concluded any more. -/
theorem Lost.not_recoverable (lost : Lost t r) : ¬Recoverable t r := by
  intro recoverable
  have concluded := recoverable.confirmed r.createdAt
  exact lost.silent [(.resolve r.key, r.createdAt)] _ (List.mem_append_left _ concluded)

/-- A call makes no request live but the one that it makes. -/
theorem live_outcome
    (steady : t.Steady)
    {c : Call ο}
    {now : τ}
    (live : r ∈ (c.outcome t now).tracker.live) :
    r ∈ t.live ∨ c.made? t now = some r := by
  cases c with
  | put key subject =>
      rcases (Tracker.mem_place steady.keys_nodup).mp live with rfl | ⟨member, -⟩
      · exact .inr rfl
      · exact .inl member
  | resolve key =>
      cases found : t.get? key with
      | none =>
          rw [outcome_resolve_of_none found] at live
          exact .inl live
      | some q =>
          rw [tracker_resolve_of_some found, steady.mem_live_conclude found] at live
          exact .inl live.2
  | expire => exact .inl (Tracker.mem_live_sweep.mp live).2
  | get | contains | size => exact .inl live

/-- A pending request that is not live is passed over by every call. -/
theorem passed_over
    (steady : t.Steady)
    (pending : (r, Fate.pending) ∈ t.history)
    (gone : r ∉ t.live)
    (c : Call ο)
    (now : τ) :
    (∀ fate, (fate, r) ∉ c.concluded t now) ∧
      (r, Fate.pending) ∈ (c.outcome t now).tracker.history ∧
      r ∉ (c.outcome t now).tracker.live := by
  have silent (fate : Fate) : (fate, r) ∉ c.concluded t now :=
    fun concluded => gone (live_of_mem_concluded steady concluded)
  refine ⟨silent, (mem_history_outcome steady).mpr (.inr (.inl ⟨pending, silent⟩)), ?_⟩
  intro live
  rcases live_outcome steady live with earlier | made
  · exact gone earlier
  · have known : r ∈ t.requests := List.mem_map_of_mem pending
    exact Nat.lt_irrefl _ (serial_lt_of_made? steady known made)

/-- A pending request that is not live is lost. -/
theorem lost_of_not_live
    (steady : t.Steady)
    (pending : (r, Fate.pending) ∈ t.history)
    (gone : r ∉ t.live) :
    Lost t r := by
  have run (turns : List (Call ο × τ)) :
      (r, Fate.pending) ∈ (trackerAfter t turns).history ∧
        ∀ fate, (fate, r) ∉ concludedBy t turns := by
    induction turns generalizing t with
    | nil => exact ⟨pending, fun _ => List.not_mem_nil⟩
    | cons turn rest ih =>
        obtain ⟨silent, pending, gone⟩ := passed_over steady pending gone turn.1 turn.2
        obtain ⟨still, later⟩ := ih (steady_outcome steady turn.1) pending gone
        refine ⟨still, fun fate concluded => ?_⟩
        rcases List.mem_append.mp concluded with now | then_
        · exact silent fate now
        · exact later fate then_
  exact ⟨fun turns => (run turns).1, fun turns => (run turns).2⟩

end Usage

namespace Keeper
open Usage
variable {σ ο τ : Type} (k : Keeper σ ο τ)

/-- The clock of a state cannot be read, whatever tracker is kept there. -/
structure Stopped (f : Fault) (s : σ) : Prop where
  /-- A reading ends in a fault and changes nothing. -/
  reads : ∀ t, k.now.runIn (k.setTracker t s) = (.error f, k.setTracker t s)
  /-- The tracker is the one that was set. -/
  kept : ∀ t, k.tracker (k.setTracker t s) = t
  /-- Setting the tracker that is there changes nothing. -/
  same : k.setTracker (k.tracker s) s = s

/-- An act ends in a fault as if it had never been tried: it has changed nothing and told
nobody, and every live request can still be concluded. -/
structure Atomic [Sub τ] [LE τ] [DecidableLE τ] {α : Type} (act : Act σ α) (f : Fault)
    (s : σ) : Prop where
  unchanged : act.runIn s = (.error f, s)
  recoverable : ∀ r ∈ (k.tracker s).live, Recoverable (k.tracker (act.after s)) r

variable {k} {f : Fault} {s : σ}

theorem Stopped.runIn_now (stopped : k.Stopped f s) : k.now.runIn s = (.error f, s) := by
  have read := stopped.reads (k.tracker s)
  rwa [stopped.same] at read

variable [Sub τ] [LE τ] [DecidableLE τ]

/--
When the clock cannot be read, a new request and a sweep fail as if they had never been tried.
A confirmation of a key without a live request does not read the clock.  With a live request it
fails and leaves a tracker without the request, which is lost; all others can still be
concluded.
-/
theorem atomic_unless_resolve
    (stopped : k.Stopped f s)
    (steady : (k.tracker s).Steady) :
    (∀ key subject, k.Atomic (k.put key subject) f s) ∧
      k.Atomic k.expire f s ∧
      ∀ key,
        ((k.tracker s).get? key = none → (k.resolve key).runIn s = (.ok none, s)) ∧
        ∀ r, (k.tracker s).get? key = some r →
          (k.resolve key).runIn s = (.error f, k.setTracker ((k.tracker s).erase key) s) ∧
          ¬k.Atomic (k.resolve key) f s ∧
          Lost (k.tracker ((k.resolve key).after s)) r ∧
          ∀ q ∈ (k.tracker s).live, q ≠ r →
            Recoverable (k.tracker ((k.resolve key).after s)) q := by
  have atomic {α : Type} {act : Act σ α} (failed : act.runIn s = (.error f, s)) :
      k.Atomic act f s := by
    refine ⟨failed, fun r live => ?_⟩
    rw [Act.after, failed]
    exact recoverable_of_live steady live
  refine ⟨fun key subject => atomic (runIn_put_of_error stopped.runIn_now key subject),
    atomic (runIn_expire_of_error stopped.runIn_now),
    fun key => ⟨runIn_resolve_of_none, fun r found => ?_⟩⟩
  have failed := runIn_resolve_of_error found (stopped.reads _)
  have taken : k.tracker ((k.resolve key).after s) = (k.tracker s).erase key := by
    rw [Act.after, failed]
    exact stopped.kept _
  rw [taken]
  obtain ⟨live, rfl⟩ := Tracker.mem_of_get? found
  have gone : r ∉ ((k.tracker s).erase r.key).live :=
    fun member => (Tracker.mem_live_erase.mp member).2 rfl
  have lost := lost_of_not_live (steady.erase r.key) (steady.pending r live) gone
  refine ⟨failed, fun kept => ?_, lost, fun q member other => ?_⟩
  · have recoverable := kept.recoverable r live
    rw [taken] at recoverable
    exact lost.not_recoverable recoverable
  · refine recoverable_of_live (steady.erase r.key) (Tracker.mem_live_erase.mpr ⟨member, ?_⟩)
    exact fun same => other (steady.eq_of_key_eq member live same)

end Keeper

/-! ### Rehearsals -/

namespace Rehearsal

/-- The clock of a rehearsal can be broken. -/
theorem stopped_of_clockBroken
    {τ : Type}
    {s : Stage τ}
    (broken : s.clockBroken = true)
    (listener : Listener) :
    (keeper listener).Stopped (.outage .clock) s where
  reads t := by
    change (Act.runIn (if s.clockBroken then _ else _) _) = _
    rw [if_pos broken]
    rfl
  kept _ := rfl
  same := rfl

/-- A key. -/
def someKey : GroupKey := ⟨[1]⟩

/-- Another key. -/
def otherKey : GroupKey := ⟨[2]⟩

/-- Two requests have been made on a rehearsal, and now its clock is broken. -/
def twoWaiting : Stage Int :=
  stageAfter { tracker := { timeToLive := 20 }, time := 0, listener := .recording }
    [.put someKey "a", .put otherKey "b", .clock true]

theorem atomic_unless_resolve_twoWaiting :
    (keeper .recording).Atomic ((keeper .recording).put otherKey "c") (.outage .clock)
        twoWaiting ∧
      (keeper .recording).Atomic (keeper .recording).expire (.outage .clock) twoWaiting ∧
      Usage.Lost (((keeper .recording).resolve someKey).after twoWaiting).tracker
        ⟨0, someKey, "a", 0⟩ ∧
      Usage.Recoverable (((keeper .recording).resolve someKey).after twoWaiting).tracker
        ⟨1, otherKey, "b", 0⟩ := by
  have waiting : twoWaiting.tracker.live = [⟨0, someKey, "a", 0⟩, ⟨1, otherKey, "b", 0⟩] := rfl
  have steady : twoWaiting.tracker.Steady :=
    steady_stageAfter (Tracker.Sound.empty 20).steady _
  have stopped : (keeper .recording).Stopped (.outage .clock) twoWaiting :=
    stopped_of_clockBroken rfl .recording
  obtain ⟨put, expire, resolve⟩ := Keeper.atomic_unless_resolve stopped steady
  obtain ⟨-, -, lost, others⟩ := (resolve someKey).2 ⟨0, someKey, "a", 0⟩ rfl
  refine ⟨put otherKey "c", expire, lost, others ⟨1, otherKey, "b", 0⟩ ?_ (by simp)⟩
  change _ ∈ twoWaiting.tracker.live
  simp [waiting]

/-- The clock is broken while the group of the only request is confirmed.  The confirmation
fails, and when it is tried again with a working clock it finds nothing, though the request
is still pending. -/
theorem confirmation_lost_in_outage :
    (performAll
        [.put someKey "a", .clock true, .resolve someKey, .clock false, .resolve someKey]
        ({ tracker := { timeToLive := 20 }, time := 0, listener := .recording } :
          Stage Int)).map (fun o => (o.answer, o.size, o.history)) =
      [(.ok (.request none), 1, [("a", .pending)]),
        (.ok .done, 1, [("a", .pending)]),
        (.error (.outage .clock), 0, [("a", .pending)]),
        (.ok .done, 0, [("a", .pending)]),
        (.ok (.request none), 0, [("a", .pending)])] := by
  rfl

end Rehearsal
end LineTerminal
