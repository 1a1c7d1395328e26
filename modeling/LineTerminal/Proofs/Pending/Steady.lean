import LineTerminal.Pending.Rehearsal
import LineTerminal.Proofs.Pending.Keeper
import LineTerminal.Proofs.Pending.Tracker

/-!
# Trackers stay steady

A confirmation takes its request out before it reads the clock, so a tracker need not stay
sound when the clock cannot be read: there may be pending requests that are not live any
more.  It stays steady whatever is done with it, and whatever the clock does.
-/

namespace LineTerminal
namespace Keeper
variable {σ ο τ : Type} (k : Keeper σ ο τ)

/-- The tracker of the second state is steady if that of the first is. -/
def KeepsSteady (s s' : σ) : Prop :=
  (k.tracker s).Steady → (k.tracker s').Steady

instance : Std.Refl k.KeepsSteady := ⟨fun _ steady => steady⟩

instance : IsTrans σ k.KeepsSteady := ⟨fun _ _ _ first second steady => second (first steady)⟩

/-- A keeper that changes its tracker as it is told to, and in no other way that matters. -/
structure Lawful : Prop where
  /-- The tracker is the one that was set. -/
  tracker_setTracker : ∀ t s, k.tracker (k.setTracker t s) = t
  /-- The clock is only read. -/
  now_after : ∀ s, k.now.after s = s
  /-- Whoever hears of a request leaves a steady tracker. -/
  hears : ∀ hear, k.onExpired = some hear → ∀ r, (hear r).Follows k.KeepsSteady
  /-- So does whoever takes a notice. -/
  logs : ∀ n, (k.log n).Follows k.KeepsSteady

namespace Lawful
variable {k} (lawful : k.Lawful)
include lawful

theorem follows_update
    {f : Tracker ο τ → Tracker ο τ}
    (keeps : ∀ t, t.Steady → (f t).Steady) :
    (k.update f).Follows k.KeepsSteady := by
  intro s steady
  change (k.tracker (k.setTracker (f (k.tracker s)) s)).Steady
  rw [lawful.tracker_setTracker]
  exact keeps _ steady

theorem follows_announce (r : Request ο τ) : (k.announce r).Follows k.KeepsSteady := by
  unfold announce
  cases heard : k.onExpired with
  | none => exact .pure _
  | some hear =>
      refine .bind (.of_after_eq fun _ => rfl) fun t => ?_
      refine .bind (lawful.logs _) fun _ => ?_
      refine .bind (lawful.hears hear heard r).attempt fun outcome => ?_
      cases outcome with
      | ok _ => exact .pure _
      | error f => exact lawful.logs _

theorem follows_announceAll (rs : List (Request ο τ)) :
    (k.announceAll rs).Follows k.KeepsSteady := by
  induction rs with
  | nil => exact .pure _
  | cons r rest ih => exact .bind (lawful.follows_announce r) fun _ => ih

/-- A new request leaves a steady tracker, also if it cannot be made. -/
theorem follows_put (key : GroupKey) (subject : ο) :
    (k.put key subject).Follows k.KeepsSteady := by
  refine .bind (.of_after_eq lawful.now_after) fun now => ?_
  refine .bind (.of_after_eq fun _ => rfl) fun t => ?_
  exact .bind (lawful.follows_update fun t steady => steady.put key subject now) fun _ => .pure _

variable [Sub τ] [LE τ] [DecidableLE τ]

/-- A sweep leaves a steady tracker. -/
theorem follows_expire : k.expire.Follows k.KeepsSteady := by
  refine .bind (.of_after_eq lawful.now_after) fun now => ?_
  refine .bind (.of_after_eq fun _ => rfl) fun t => ?_
  refine .bind (lawful.follows_update fun t steady => steady.sweep now) fun _ => ?_
  exact .bind (lawful.follows_announceAll _) fun _ => .pure _

/-- A confirmation leaves a steady tracker, also if it stops half-way. -/
theorem follows_resolve (key : GroupKey) : (k.resolve key).Follows k.KeepsSteady := by
  intro s steady
  cases found : (k.tracker s).get? key with
  | none =>
      rw [Act.after, runIn_resolve_of_none found]
      exact steady
  | some r =>
      let taken : σ := k.setTracker ((k.tracker s).erase key) s
      have without : k.tracker taken = (k.tracker s).erase key := lawful.tracker_setTracker _ _
      -- The request got its fate when it was live, not in the tracker that it was taken out of.
      have concluded (fate : Fate) (final : fate ≠ .pending) :
          (k.tracker ((k.update fun t => t.settle r fate).after taken)).Steady := by
        change (k.tracker (k.setTracker ((k.tracker taken).settle r fate) taken)).Steady
        rw [lawful.tracker_setTracker, without]
        exact steady.conclude found final
      have read := lawful.now_after taken
      unfold Act.after at read
      cases reading : k.now.runIn taken with
      | mk outcome s' =>
          rw [reading] at read
          obtain rfl : s' = taken := read
          cases outcome with
          | error f =>
              rw [Act.after, runIn_resolve_of_error found reading, without]
              exact steady.erase key
          | ok now =>
              by_cases late : (k.tracker taken).Due now r
              · rw [Act.after, runIn_resolve_of_due found reading late]
                exact Act.Follows.bind (lawful.follows_announce r)
                  (fun _ => .pure _) _ (concluded .expired (by decide))
              · rw [Act.after, runIn_resolve_of_not_due found reading late]
                exact concluded .resolved (by decide)

/-- A round of the sweeper leaves a steady tracker. -/
theorem follows_rounds
    {pause : Act σ Unit}
    (pauses : pause.Follows k.KeepsSteady)
    (n : Nat) :
    (k.rounds pause n).Follows k.KeepsSteady := by
  induction n with
  | zero => exact .pure _
  | succ n ih =>
      refine .bind (.bind lawful.follows_expire.attempt fun outcome => ?_) fun _ => ih
      cases outcome with
      | ok _ => exact pauses
      | error f => exact .bind (lawful.logs _) fun _ => pauses

end Lawful
end Keeper

/-! ### Rehearsals -/

namespace Rehearsal
variable {τ : Type}

/-- The tracker of a later stage is steady if that of an earlier one is. -/
def Stage.KeepsSteady (s s' : Stage τ) : Prop := s.tracker.Steady → s'.tracker.Steady

instance : Std.Refl (Stage.KeepsSteady (τ := τ)) := ⟨fun _ steady => steady⟩

instance : IsTrans (Stage τ) Stage.KeepsSteady :=
  ⟨fun _ _ _ first second steady => second (first steady)⟩

theorem follows_report (r : Request String τ) : (report r).Follows Stage.KeepsSteady :=
  .of_after_eq fun _ => rfl

/-- A rehearsed tracker is changed by its operations only. -/
theorem lawful_keeper (listener : Listener) : (keeper (τ := τ) listener).Lawful where
  tracker_setTracker _ _ := rfl
  now_after s := by
    change (Act.after (if s.clockBroken then _ else _) s) = s
    split <;> rfl
  hears hear heard r := by
    cases listener with
    | nobody => cases heard
    | recording => cases heard; exact fun _ steady => steady
    | failing => cases heard; exact fun _ steady => steady
  logs _ := fun _ steady => steady

variable [Add τ] [Sub τ] [LE τ] [DecidableLE τ]

/-- A step leaves a steady tracker. -/
theorem follows_perform (step : Step τ) : (perform step).Follows Stage.KeepsSteady := by
  have reported (r : Option (Request String τ)) :
      ((r.mapM report) >>= fun answer => pure (.request answer) : Act (Stage τ) Answer).Follows
        Stage.KeepsSteady := by
    cases r with
    | none => exact .pure _
    | some r => exact fun _ steady => steady
  refine .bind .get fun s => ?_
  have lawful := lawful_keeper (τ := τ) s.listener
  cases step with
  | put key tag => exact .bind (lawful.follows_put key tag) reported
  | resolve key => exact .bind (lawful.follows_resolve key) reported
  | get key => exact .bind (.of_after_eq fun _ => rfl) fun t => reported (t.get? key)
  | contains key => exact fun _ steady => steady
  | expire =>
      refine .bind lawful.follows_expire fun expired => ?_
      exact .bind (.mapM follows_report expired) fun _ => .pure _
  | advance seconds => exact fun _ steady => steady
  | clock broken => exact fun _ steady => steady
  | run rounds advance interval =>
      refine .bind (lawful.follows_rounds ?_ rounds) fun _ => .pure _
      exact fun _ steady => steady
  | illegible e => exact .throw _

/-- The stage that steps lead to, one after the other. -/
def stageAfter (s : Stage τ) (steps : List (Step τ)) : Stage τ :=
  steps.foldl (fun s step => (perform step).after { s with events := [] }) s

/-- A tracker that is rehearsed from the start is always steady. -/
theorem steady_stageAfter
    {s : Stage τ}
    (steady : s.tracker.Steady)
    (steps : List (Step τ)) :
    (stageAfter s steps).tracker.Steady := by
  induction steps generalizing s with
  | nil => exact steady
  | cons step rest ih => exact ih (follows_perform step { s with events := [] } steady)

end Rehearsal
end LineTerminal
