import LineTerminal.Proofs.Pending.Usage
import Mathlib.Order.Basic

/-!
# An extra sweep

Two runs of the same calls, of which one is swept once more, confirm the same requests.  The sweep
lets requests expire before their time is noticed to have elapsed: what the other run does with such
a request later is to let it expire too, to supersede it, or nothing.

The trackers of the two runs differ from the sweep on.  They are related by `Thinned`: fates differ
only for requests that were taken out by the sweep.
-/

namespace LineTerminal
namespace Usage
variable {ο τ : Type}

/-- A plan in which every call is made after the one before has ended, whatever it replies. -/
inductive InTurn : Plan ο τ → List (Call ο × τ) → Prop where
  | stop (ending : Except Fault Unit) : InTurn (.stop ending) []
  | call
      {c : Call ο}
      {now : τ}
      {reaction : Request ο τ → Plan ο τ}
      {next : Except Fault (Reply ο τ) → Plan ο τ}
      {turns : List (Call ο × τ)}
      (still : ∀ r, ∃ ending, reaction r = .stop ending)
      (continues : ∀ reply, InTurn (next reply) turns) :
      InTurn (.call c now reaction next) ((c, now) :: turns)

/-- The plan to make calls in turn.  Whoever hears of an expired request does so in one way. -/
def Plan.inTurn (hearing : Except Fault Unit) : List (Call ο × τ) → Plan ο τ
  | [] => .stop (.ok ())
  | (c, now) :: rest => .call c now (fun _ => .stop hearing) fun _ => inTurn hearing rest

theorem InTurn.inTurn (hearing : Except Fault Unit) (turns : List (Call ο × τ)) :
    InTurn (Plan.inTurn hearing turns) turns := by
  induction turns with
  | nil => exact .stop _
  | cons turn rest ih => exact .call (fun _ => ⟨hearing, rfl⟩) fun _ => ih

/-- Whether a call confirms a group. -/
def Call.isResolve : Call ο → Bool
  | resolve _ => true
  | _ => false

/-- The calls that were replied to, in order. -/
def Desk.replies (d : Desk ο τ) : List (Call ο × τ × Reply ο τ) :=
  d.journal.filterMap fun
    | (.replied c now (.ok reply), _) => some (c, now, reply)
    | _ => none

theorem replies_write (d : Desk ο τ) (c : Call ο) (now : τ) (reply : Reply ο τ) :
    (d.write (.replied c now (.ok reply))).replies = d.replies ++ [(c, now, reply)] := by
  simp [Desk.replies, Desk.write]

section
variable [Sub τ] [LE τ] [DecidableLE τ]

/-- The tracker after calls in turn. -/
def trackerAfter (t : Tracker ο τ) : List (Call ο × τ) → Tracker ο τ
  | [] => t
  | (c, now) :: rest => trackerAfter (c.outcome t now).tracker rest

/-- The replies to calls in turn. -/
def repliesTo (t : Tracker ο τ) : List (Call ο × τ) → List (Call ο × τ × Reply ο τ)
  | [] => []
  | (c, now) :: rest =>
    (c, now, (c.outcome t now).reply) :: repliesTo (c.outcome t now).tracker rest

/-- Whoever only hears of expired requests leaves the tracker alone. -/
theorem tells_still
    (hears : Bool)
    {reaction : Request ο τ → Plan ο τ}
    (still : ∀ r, ∃ ending, reaction r = .stop ending)
    (rs : List (Request ο τ))
    (d : Desk ο τ) :
    (rs.foldl (tell (hearing hears reaction)) d).tracker = d.tracker ∧
      (rs.foldl (tell (hearing hears reaction)) d).replies = d.replies := by
  induction rs generalizing d with
  | nil => exact ⟨rfl, rfl⟩
  | cons r rest ih =>
      obtain ⟨ending, stops⟩ := still r
      rw [List.foldl_cons, tell_hearing, stops, after_stop]
      cases hears with
      | false => exact ih d
      | true =>
          obtain ⟨tracker, replies⟩ := ih (d.write (.told r))
          refine ⟨tracker, replies.trans ?_⟩
          simp [Desk.replies, Desk.write]

/-- Calls in turn come down to their outcomes. -/
theorem after_inTurn
    {plan : Plan ο τ}
    {turns : List (Call ο × τ)}
    (inTurn : InTurn plan turns)
    (hears : Bool)
    (d : Desk ο τ) :
    ((plan.perform hears).after d).tracker = trackerAfter d.tracker turns ∧
      ((plan.perform hears).after d).replies = d.replies ++ repliesTo d.tracker turns := by
  induction inTurn generalizing d with
  | stop ending =>
      rw [after_stop]
      exact ⟨rfl, (List.append_nil _).symm⟩
  | @call c now reaction next turns still continues ih =>
      rw [after_call]
      let outcome := c.outcome d.tracker now
      obtain ⟨tracker, replies⟩ :=
        tells_still hears still outcome.expired { d with tracker := outcome.tracker }
      obtain ⟨tracker', replies'⟩ := ih (.ok outcome.reply)
        ((outcome.expired.foldl (tell (hearing hears reaction))
          { d with tracker := outcome.tracker }).write (.replied c now (.ok outcome.reply)))
      rw [Desk.tracker_write, tracker] at tracker' replies'
      refine ⟨tracker', replies'.trans ?_⟩
      rw [replies_write, replies, List.append_assoc]
      rfl

variable {t u : Tracker ο τ}
variable {now : τ}

/-- A confirmation is answered with the live request of the key, unless its time has elapsed. -/
theorem reply_resolve (key : GroupKey) :
    ((Call.resolve key).outcome t now).reply =
      .request ((t.get? key).filter fun r => ¬t.Due now r) := by
  cases found : t.get? key with
  | none =>
      rw [outcome_resolve_of_none found]
      rfl
  | some r =>
      by_cases late : t.Due now r
      · rw [outcome_resolve_of_due found late, Option.filter_some_neg (by simpa using late)]
      · rw [outcome_resolve_of_not_due found late, Option.filter_some_pos (by simpa using late)]

/-! ### Trackers that differ by a sweep -/

/--
A request that a sweep took out.  A run without the sweep left it pending, or superseded it when its
time had elapsed.
-/
structure TakenOut (timeToLive swept : τ) (log : List (Call ο × τ × Reply ο τ)) (r : Request ο τ)
    (fate fate' : Fate) : Prop where
  /-- The time of the request had elapsed. -/
  late : timeToLive ≤ swept - r.createdAt
  /-- It has expired. -/
  expired : fate' = .expired
  /-- What has become of it without the sweep. -/
  left : fate = .pending ∨ fate = .superseded ∧ ∃ subject later,
    (.put r.key subject, later, .request (some r)) ∈ log ∧ timeToLive ≤ later - r.createdAt

/-- The second of two trackers was swept once more. -/
structure Thinned (timeToLive swept : τ) (log : List (Call ο × τ × Reply ο τ))
    (t u : Tracker ο τ) : Prop where
  sound : t.Sound
  sound' : u.Sound
  timeToLive_eq : t.timeToLive = timeToLive
  timeToLive_eq' : u.timeToLive = timeToLive
  requests : u.requests = t.requests
  fates : ∀ r fate fate', (r, fate) ∈ t.history → (r, fate') ∈ u.history →
    fate = fate' ∨ TakenOut timeToLive swept log r fate fate'

omit [Sub τ] [LE τ] [DecidableLE τ] in
/-- Trackers with the same requests differ in the fates alone. -/
theorem exists_fate
    (requests : u.requests = t.requests)
    {r : Request ο τ}
    {fate : Fate}
    (entry : (r, fate) ∈ t.history) :
    ∃ fate', (r, fate') ∈ u.history := by
  have made : r ∈ u.requests := by
    rw [requests]
    exact List.mem_map.mpr ⟨_, entry, rfl⟩
  obtain ⟨⟨q, fate'⟩, entry', rfl⟩ := List.mem_map.mp made
  exact ⟨fate', entry'⟩

/-- What has become of an earlier request after a call. -/
theorem fate_outcome
    (sound : t.Sound)
    {c : Call ο}
    {r : Request ο τ}
    {old fate : Fate}
    (earlier : (r, old) ∈ t.history)
    (entry : (r, fate) ∈ (c.outcome t now).tracker.history) :
    fate = if old = .pending then (c.fate? t.timeToLive now r).getD .pending else old := by
  have live_iff := sound.mem_live_iff_of_entry earlier
  rcases (mem_history_outcome sound.steady).mp entry with concluded | ⟨kept, apart⟩ | ⟨made, -⟩
  · obtain ⟨live, given⟩ := (mem_concluded_iff sound.steady).mp concluded
    rw [if_pos (live_iff.mp live), given]
    rfl
  · have same := (Prod.mk.inj (sound.numbered.eq_of_serial_eq earlier kept rfl)).2
    subst same
    split
    · next pending =>
      have none_given : c.fate? t.timeToLive now r = none := by
        apply Option.eq_none_iff_forall_ne_some.mpr
        intro other given
        exact apart other ((mem_concluded_iff sound.steady).mpr ⟨live_iff.mpr pending, given⟩)
      rw [none_given, pending]
      rfl
    · rfl
  · have made_earlier : r ∈ t.requests := List.mem_map.mpr ⟨_, earlier, rfl⟩
    exact absurd (serial_lt_of_made? sound.steady made_earlier made) (Nat.lt_irrefl _)

namespace Thinned
variable {timeToLive swept : τ}
variable {log : List (Call ο × τ × Reply ο τ)}

/-- The sweep tells two trackers apart. -/
theorem sweep
    (sound : t.Sound)
    (swept : τ)
    (log : List (Call ο × τ × Reply ο τ)) :
    Thinned t.timeToLive swept log t ((Call.expire : Call ο).outcome t swept).tracker where
  sound := sound
  sound' := sound_outcome sound .expire
  timeToLive_eq := rfl
  timeToLive_eq' := timeToLive_outcome .expire
  requests := (requests_outcome .expire).trans (List.append_nil _)
  fates r fate fate' entry entry' := by
    have becomes := fate_outcome sound entry entry'
    by_cases pending : fate = .pending
    · rw [if_pos pending] at becomes
      by_cases late : t.timeToLive ≤ swept - r.createdAt
      · exact .inr ⟨late, by simpa [Call.fate?, late] using becomes, .inl pending⟩
      · exact .inl (pending.trans (by simpa [Call.fate?, late] using becomes.symm))
    · rw [if_neg pending] at becomes
      exact .inl becomes.symm

omit [Sub τ] [LE τ] [DecidableLE τ] in
theorem made?_eq (requests : u.requests = t.requests) (c : Call ο) :
    c.made? u now = c.made? t now := by
  have counted := congrArg List.length requests
  rw [Tracker.requests, Tracker.requests, List.length_map, List.length_map] at counted
  unfold Call.made?
  rw [counted]

omit [DecidableLE τ] in
theorem live_of_live
    (thinned : Thinned timeToLive swept log t u)
    {r : Request ο τ}
    (live : r ∈ u.live) :
    r ∈ t.live := by
  have pending := (thinned.sound'.mem_live r).mp live
  obtain ⟨fate, entry⟩ := exists_fate thinned.requests.symm pending
  rw [thinned.sound.mem_live_iff_of_entry entry]
  rcases thinned.fates r fate _ entry pending with same | taken
  · exact same
  · cases taken.expired

omit [DecidableLE τ] in
/-- A live request is live in the other tracker, unless its time had elapsed at the sweep. -/
theorem live_of_early
    (thinned : Thinned timeToLive swept log t u)
    {r : Request ο τ}
    (live : r ∈ t.live)
    (early : ¬timeToLive ≤ swept - r.createdAt) :
    r ∈ u.live := by
  have pending := (thinned.sound.mem_live r).mp live
  obtain ⟨fate, entry⟩ := exists_fate thinned.requests pending
  rw [thinned.sound'.mem_live_iff_of_entry entry]
  rcases thinned.fates r _ fate pending entry with same | taken
  · exact same.symm
  · exact absurd taken.late early

omit [DecidableLE τ] in
theorem resolved_iff
    (thinned : Thinned timeToLive swept log t u)
    {r : Request ο τ} :
    (r, Fate.resolved) ∈ u.history ↔ (r, Fate.resolved) ∈ t.history := by
  constructor
  · intro entry'
    obtain ⟨fate, entry⟩ := exists_fate thinned.requests.symm entry'
    rcases thinned.fates r fate _ entry entry' with rfl | taken
    · exact entry
    · cases taken.expired
  · intro entry
    obtain ⟨fate', entry'⟩ := exists_fate thinned.requests entry
    rcases thinned.fates r _ fate' entry entry' with rfl | taken
    · exact entry'
    · rcases taken.left with open_fate | ⟨superseded, -⟩
      · cases open_fate
      · cases superseded

/-- A confirmation is answered alike. -/
theorem reply_resolve_eq
    (thinned : Thinned timeToLive swept log t u)
    (later : ∀ c, timeToLive ≤ swept - c → timeToLive ≤ now - c)
    (key : GroupKey) :
    ((Call.resolve key).outcome u now).reply = ((Call.resolve key).outcome t now).reply := by
  rw [reply_resolve, reply_resolve]
  congr 1
  ext r
  simp only [Option.filter_eq_some_iff, thinned.sound.get?_eq_some_iff,
    thinned.sound'.get?_eq_some_iff, Tracker.Due, thinned.timeToLive_eq, thinned.timeToLive_eq',
    decide_eq_true_eq]
  constructor
  · rintro ⟨⟨live, named⟩, early⟩
    exact ⟨⟨thinned.live_of_live live, named⟩, early⟩
  · rintro ⟨⟨live, named⟩, early⟩
    exact ⟨⟨thinned.live_of_early live (mt (later _) early), named⟩, early⟩

/-- What becomes of an earlier request in both runs. -/
theorem fates_step
    (thinned : Thinned timeToLive swept log t u)
    (later : ∀ c, timeToLive ≤ swept - c → timeToLive ≤ now - c)
    (c : Call ο)
    {r : Request ο τ}
    {old fate fate' : Fate}
    (earlier : (r, old) ∈ t.history)
    (entry : (r, fate) ∈ (c.outcome t now).tracker.history)
    (entry' : (r, fate') ∈ (c.outcome u now).tracker.history) :
    fate = fate' ∨
      TakenOut timeToLive swept (log ++ [(c, now, (c.outcome t now).reply)]) r fate fate' := by
  obtain ⟨old', earlier'⟩ := exists_fate thinned.requests earlier
  have becomes := fate_outcome thinned.sound earlier entry
  have becomes' := fate_outcome thinned.sound' earlier' entry'
  rw [thinned.timeToLive_eq] at becomes
  rw [thinned.timeToLive_eq'] at becomes'
  rcases thinned.fates r old old' earlier earlier' with rfl | ⟨late, rfl, left⟩
  · exact .inl (becomes.trans becomes'.symm)
  -- The request is gone from the swept tracker, and its time has elapsed in the other one as well.
  have elapsed := later _ late
  have gone : fate' = .expired := becomes'
  rcases left with rfl | ⟨rfl, subject, time, put_in, overdue⟩
  · have live := (thinned.sound.mem_live r).mpr earlier
    rw [if_pos rfl] at becomes
    cases c with
    | put key subject =>
        by_cases named : r.key = key
        · have superseded : fate = .superseded := by simpa [Call.fate?, named] using becomes
          have found : t.get? key = some r := thinned.sound.get?_eq_some_iff.mpr ⟨live, named⟩
          refine .inr ⟨late, gone, .inr ⟨superseded, subject, now, ?_, elapsed⟩⟩
          rw [named, ← found]
          exact List.mem_append_right _ (List.mem_singleton_self _)
        · have untouched : fate = .pending := by simpa [Call.fate?, named] using becomes
          exact .inr ⟨late, gone, .inl untouched⟩
    | resolve key =>
        by_cases named : r.key = key
        · have expired : fate = .expired := by simpa [Call.fate?, named, elapsed] using becomes
          exact .inl (expired.trans gone.symm)
        · have untouched : fate = .pending := by simpa [Call.fate?, named] using becomes
          exact .inr ⟨late, gone, .inl untouched⟩
    | expire =>
        have expired : fate = .expired := by simpa [Call.fate?, elapsed] using becomes
        exact .inl (expired.trans gone.symm)
    | get | contains | size => exact .inr ⟨late, gone, .inl becomes⟩
  · have gone' : fate = .superseded := becomes
    exact .inr ⟨late, gone, .inr ⟨gone', subject, time, List.mem_append_left _ put_in, overdue⟩⟩

theorem step
    (thinned : Thinned timeToLive swept log t u)
    (later : ∀ c, timeToLive ≤ swept - c → timeToLive ≤ now - c)
    (c : Call ο) :
    Thinned timeToLive swept (log ++ [(c, now, (c.outcome t now).reply)])
      (c.outcome t now).tracker (c.outcome u now).tracker where
  sound := sound_outcome thinned.sound c
  sound' := sound_outcome thinned.sound' c
  timeToLive_eq := (timeToLive_outcome c).trans thinned.timeToLive_eq
  timeToLive_eq' := (timeToLive_outcome c).trans thinned.timeToLive_eq'
  requests := by
    rw [requests_outcome, requests_outcome, made?_eq thinned.requests,
      thinned.requests]
  fates r fate fate' entry entry' := by
    rcases (mem_history_outcome thinned.sound.steady).mp entry with concluded | ⟨old, -⟩ | ⟨made, rfl⟩
    · have live := live_of_mem_concluded thinned.sound.steady concluded
      exact thinned.fates_step later c ((thinned.sound.mem_live r).mp live) entry entry'
    · exact thinned.fates_step later c old entry entry'
    · -- The request is made in both runs, so it is pending in both.
      have made' : c.made? u now = some r := (made?_eq thinned.requests c).trans made
      have added := (mem_history_outcome thinned.sound'.steady).mpr (.inr (.inr ⟨made', rfl⟩))
      have sound' : (c.outcome u now).tracker.Sound := sound_outcome thinned.sound' c
      exact .inl (Prod.mk.inj (sound'.numbered.eq_of_serial_eq added entry' rfl)).2

/-- Trackers stay related through calls in turn, and all confirmations are answered alike. -/
theorem run
    (thinned : Thinned timeToLive swept log t u)
    {turns : List (Call ο × τ)}
    (later : ∀ turn ∈ turns, ∀ c, timeToLive ≤ swept - c → timeToLive ≤ turn.2 - c) :
    Thinned timeToLive swept (log ++ repliesTo t turns) (trackerAfter t turns)
        (trackerAfter u turns) ∧
      (repliesTo u turns).filter (·.1.isResolve) = (repliesTo t turns).filter (·.1.isResolve) := by
  induction turns generalizing t u log with
  | nil =>
      refine ⟨?_, rfl⟩
      rw [repliesTo, List.append_nil]
      exact thinned
  | cons turn rest ih =>
      obtain ⟨c, now⟩ := turn
      obtain ⟨now_later, rest_later⟩ := List.forall_mem_cons.mp later
      obtain ⟨related, alike⟩ := ih (thinned.step now_later c) rest_later
      rw [List.append_assoc] at related
      refine ⟨related, ?_⟩
      rw [repliesTo, repliesTo, List.filter_cons, List.filter_cons, alike]
      cases c with
      | resolve key => rw [thinned.reply_resolve_eq now_later key]
      | put | expire | get | contains | size => rfl

end Thinned

/-! ### Two runs -/

theorem trackerAfter_append (t : Tracker ο τ) (before after : List (Call ο × τ)) :
    trackerAfter t (before ++ after) = trackerAfter (trackerAfter t before) after := by
  induction before generalizing t with
  | nil => rfl
  | cons turn rest ih => exact ih _

theorem repliesTo_append (t : Tracker ο τ) (before after : List (Call ο × τ)) :
    repliesTo t (before ++ after) = repliesTo t before ++ repliesTo (trackerAfter t before) after := by
  induction before generalizing t with
  | nil => rfl
  | cons turn rest ih => exact congrArg _ (ih _)

theorem sound_trackerAfter (sound : t.Sound) (turns : List (Call ο × τ)) :
    (trackerAfter t turns).Sound := by
  induction turns generalizing t with
  | nil => exact sound
  | cons turn rest ih => exact ih (sound_outcome sound turn.1)

theorem timeToLive_trackerAfter (t : Tracker ο τ) (turns : List (Call ο × τ)) :
    (trackerAfter t turns).timeToLive = t.timeToLive := by
  induction turns generalizing t with
  | nil => rfl
  | cons turn rest ih => exact (ih _).trans (timeToLive_outcome turn.1)

/-- What two runs have in common if the second one was swept once more. -/
structure Unaffected (timeToLive swept : τ) (d e : Desk ο τ) : Prop where
  /-- The same requests were made. -/
  requests : e.tracker.requests = d.tracker.requests
  /-- All confirmations were answered alike. -/
  resolutions : e.replies.filter (·.1.isResolve) = d.replies.filter (·.1.isResolve)
  /-- The same requests were confirmed. -/
  resolved : ∀ r, (r, Fate.resolved) ∈ e.tracker.history ↔ (r, Fate.resolved) ∈ d.tracker.history
  /-- A request with two fates was taken out by the sweep. -/
  fates : ∀ r fate fate', (r, fate) ∈ d.tracker.history → (r, fate') ∈ e.tracker.history →
    fate ≠ fate' → TakenOut timeToLive swept d.replies r fate fate'

/--
An extra sweep does not change which requests are confirmed, as long as a time that has elapsed at
the sweep stays elapsed in what follows.
-/
theorem unaffected_of_inTurn
    {timeToLive swept : τ}
    {before after : List (Call ο × τ)}
    {plan sweptPlan : Plan ο τ}
    (hears : Bool)
    (inTurn : InTurn plan (before ++ after))
    (inTurn' : InTurn sweptPlan (before ++ (.expire, swept) :: after))
    (forward : ∀ turn ∈ after, swept ≤ turn.2)
    (steady : ∀ {a b c : τ}, a ≤ b → timeToLive ≤ a - c → timeToLive ≤ b - c) :
    Unaffected timeToLive swept
      ((plan.perform hears).after { tracker := { timeToLive } })
      ((sweptPlan.perform hears).after { tracker := { timeToLive } }) := by
  obtain ⟨tracker, replies⟩ := after_inTurn inTurn hears { tracker := { timeToLive } }
  obtain ⟨tracker', replies'⟩ := after_inTurn inTurn' hears { tracker := { timeToLive } }
  generalize (plan.perform hears).after { tracker := { timeToLive } } = d at tracker replies ⊢
  generalize (sweptPlan.perform hears).after { tracker := { timeToLive } } = e
    at tracker' replies' ⊢
  have sound := sound_trackerAfter (.empty timeToLive) before
  have split := Thinned.sweep sound swept (repliesTo { timeToLive } before)
  rw [timeToLive_trackerAfter] at split
  -- The runs are the same up to the sweep, and related from there on.
  obtain ⟨thinned, alike⟩ := split.run fun turn member c => steady (forward turn member)
  rw [trackerAfter_append, trackerAfter] at tracker'
  rw [repliesTo_append, repliesTo] at replies'
  rw [← repliesTo_append, ← trackerAfter_append, ← tracker, ← tracker'] at thinned
  change d.replies = repliesTo _ (before ++ after) at replies
  change e.replies = repliesTo _ before ++ _ at replies'
  rw [← replies] at thinned
  refine ⟨thinned.requests, ?_, fun r => thinned.resolved_iff, ?_⟩
  · rw [replies, replies', repliesTo_append, List.filter_append, List.filter_append,
      List.filter_cons_of_neg Bool.false_ne_true, alike]
  · intro r fate fate' entry entry' differ
    exact (thinned.fates r fate fate' entry entry').resolve_left differ

/-- A request that is superseded late has expired if there is a sweep in between. -/
theorem unaffected_of_inTurn_superseded :
    let before : List (Call Unit × Int) := [(.put ⟨[1]⟩ (), 0)]
    let after : List (Call Unit × Int) := [(.put ⟨[1]⟩ (), 25), (.resolve ⟨[1]⟩, 30)]
    let plan : Plan Unit Int := .inTurn (.error .notNumeric) (before ++ after)
    let sweptPlan : Plan Unit Int := .inTurn (.ok ()) (before ++ (.expire, 20) :: after)
    let d := (plan.perform true).after { tracker := { timeToLive := 20 } }
    let e := (sweptPlan.perform true).after { tracker := { timeToLive := 20 } }
    Unaffected 20 20 d e ∧ d.tracker.history.map (·.2) = [.superseded, .resolved] ∧
      e.tracker.history.map (·.2) = [.expired, .resolved] :=
  ⟨unaffected_of_inTurn true (.inTurn _ _) (.inTurn _ _) (by decide) (by omega), by decide, by decide⟩

end
end Usage
end LineTerminal
