import LineTerminal.Pending.Keeper
import LineTerminal.Proofs.Act

/-!
# What the operations on a tracker come to

Each operation reads the clock once at most.  How it is carried out follows from that reading,
whatever the state is and whoever listens.
-/

namespace LineTerminal
namespace Keeper
variable {σ ο τ : Type} {k : Keeper σ ο τ} {s t : σ} {f : Fault} {now : τ}

theorem runIn_current (s : σ) : k.current.runIn s = (.ok (k.tracker s), s) := rfl

/-- Nobody can make a request when the clock cannot be read. -/
theorem runIn_put_of_error
    (failed : k.now.runIn s = (.error f, t))
    (key : GroupKey)
    (subject : ο) :
    (k.put key subject).runIn s = (.error f, t) := by
  unfold put
  rw [Act.runIn_bind, failed]

/-- A request is made at the time of the clock. -/
theorem runIn_put_of_ok
    (read : k.now.runIn s = (.ok now, t))
    (key : GroupKey)
    (subject : ο) :
    (k.put key subject).runIn s =
      (.ok ((k.tracker t).get? key), k.setTracker ((k.tracker t).put key subject now) t) := by
  unfold put
  rw [Act.runIn_bind, read]
  rfl

section
variable {hear : Request ο τ → Act σ Unit}

/-- Whoever hears of a request may fail, but the announcement does not. -/
theorem runIn_announce_of_some
    (heard : k.onExpired = some hear)
    (silent : ∀ n s, (k.log n).runIn s = (.ok (), s))
    (r : Request ο τ)
    (s : σ) :
    (k.announce r).runIn s = (.ok (), (hear r).after s) := by
  unfold announce
  rw [heard]
  dsimp only
  rw [Act.runIn_bind_ok _ (runIn_current _), Act.runIn_bind_ok _ (silent _ _),
    Act.runIn_bind_ok _ (Act.runIn_attempt _ _)]
  cases ((hear r).runIn s).1 with
  | ok _ => rfl
  | error f => exact silent _ _

/-- Requests are announced one after the other. -/
theorem runIn_announceAll_of_some
    (heard : k.onExpired = some hear)
    (silent : ∀ n s, (k.log n).runIn s = (.ok (), s))
    (rs : List (Request ο τ))
    (s : σ) :
    (k.announceAll rs).runIn s = (.ok (), rs.foldl (fun s r => (hear r).after s) s) := by
  induction rs generalizing s with
  | nil => rfl
  | cons r rest ih =>
      unfold announceAll
      rw [Act.runIn_bind, runIn_announce_of_some heard silent]
      exact ih _

end

variable [Sub τ] [LE τ] [DecidableLE τ]

/-- There is no sweep when the clock cannot be read. -/
theorem runIn_expire_of_error (failed : k.now.runIn s = (.error f, t)) :
    k.expire.runIn s = (.error f, t) := by
  unfold expire
  rw [Act.runIn_bind, failed]

/-- A sweep is made at the time of the clock, and then announced. -/
theorem runIn_expire_of_ok (read : k.now.runIn s = (.ok now, t)) :
    k.expire.runIn s =
      (k.announceAll ((k.tracker t).due now) >>= fun _ => pure ((k.tracker t).due now)).runIn
        (k.setTracker ((k.tracker t).sweep now) t) := by
  unfold expire
  rw [Act.runIn_bind, read]
  rfl

section
variable {key : GroupKey}

/-- A confirmation of a key without a live request does not read the clock. -/
theorem runIn_resolve_of_none (missing : (k.tracker s).get? key = none) :
    (k.resolve key).runIn s = (.ok none, s) := by
  unfold resolve
  rw [Act.runIn_bind_ok _ (runIn_current _), missing]
  rfl

variable {r : Request ο τ}

/-- A confirmation has taken its request out when it reads the clock. -/
theorem runIn_resolve_of_some (found : (k.tracker s).get? key = some r) :
    (k.resolve key).runIn s =
      (k.now >>= fun now => k.current >>= fun tracker =>
        if tracker.Due now r then
          k.update (·.settle r .expired) >>= fun _ => k.announce r >>= fun _ => pure none
        else k.update (·.settle r .resolved) >>= fun _ => pure (some r)).runIn
        (k.setTracker ((k.tracker s).erase key) s) := by
  unfold resolve
  rw [Act.runIn_bind_ok _ (runIn_current _), found]
  rfl

/-- A confirmation that cannot read the clock stops there. -/
theorem runIn_resolve_of_error
    (found : (k.tracker s).get? key = some r)
    (failed : k.now.runIn (k.setTracker ((k.tracker s).erase key) s) = (.error f, t)) :
    (k.resolve key).runIn s = (.error f, t) := by
  rw [runIn_resolve_of_some found, Act.runIn_bind, failed]

/-- A confirmation that comes too late lets its request expire. -/
theorem runIn_resolve_of_due
    (found : (k.tracker s).get? key = some r)
    (read : k.now.runIn (k.setTracker ((k.tracker s).erase key) s) = (.ok now, t))
    (late : (k.tracker t).Due now r) :
    (k.resolve key).runIn s =
      (k.announce r >>= fun _ => pure none).runIn
        (k.setTracker ((k.tracker t).settle r .expired) t) := by
  rw [runIn_resolve_of_some found, Act.runIn_bind_ok _ read, Act.runIn_bind_ok _ (runIn_current _),
    if_pos late]
  rfl

/-- A confirmation that comes in time yields its request. -/
theorem runIn_resolve_of_not_due
    (found : (k.tracker s).get? key = some r)
    (read : k.now.runIn (k.setTracker ((k.tracker s).erase key) s) = (.ok now, t))
    (early : ¬(k.tracker t).Due now r) :
    (k.resolve key).runIn s =
      (.ok (some r), k.setTracker ((k.tracker t).settle r .resolved) t) := by
  rw [runIn_resolve_of_some found, Act.runIn_bind_ok _ read, Act.runIn_bind_ok _ (runIn_current _),
    if_neg early]
  rfl

end
end Keeper
end LineTerminal
