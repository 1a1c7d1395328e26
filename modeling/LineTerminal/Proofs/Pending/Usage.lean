import LineTerminal.Proofs.Pending.Keeper
import LineTerminal.Proofs.Pending.Tracker

/-!
# Using a tracker

Whoever uses a tracker calls its operations in turn, and whoever hears of an expired request may call
them again before the call that let it expire has ended.  A plan lays down both, up to any depth,
and what the clock reads during each call.  A call comes down to its outcome: a reply, a change of
the tracker, and the requests whose expiry is announced before the reply is given.
-/

namespace LineTerminal
namespace Usage

/-- A call of an operation of a tracker. -/
inductive Call (ο : Type) where
  | put (key : GroupKey) (subject : ο)
  | resolve (key : GroupKey)
  | expire
  | get (key : GroupKey)
  | contains (key : GroupKey)
  | size

/-- The reply to a call. -/
inductive Reply (ο τ : Type) where
  | request (r : Option (Request ο τ))
  | requests (rs : List (Request ο τ))
  | flag (b : Bool)
  | count (n : Nat)

/--
What is done with a tracker.  Each call has its reading of the clock, a plan for the reaction to every
request that expires during the call, and a plan for what is done after each reply.
-/
inductive Plan (ο τ : Type) where
  /-- Nothing more is done, or a fault ends it. -/
  | stop (ending : Except Fault Unit)
  /-- An operation is called. -/
  | call (c : Call ο) (now : τ) (reaction : Request ο τ → Plan ο τ)
      (next : Except Fault (Reply ο τ) → Plan ο τ)

/-- What is noted while a tracker is used. -/
inductive Note (ο τ : Type) where
  /-- A call has got its reply. -/
  | replied (c : Call ο) (now : τ) (reply : Except Fault (Reply ο τ))
  /-- Somebody begins to hear that a request has expired. -/
  | told (r : Request ο τ)

/-- A tracker in use. -/
structure Desk (ο τ : Type) where
  /-- The tracker. -/
  tracker : Tracker ο τ
  /-- What was noted, in order, and the tracker as it stood at each note. -/
  journal : List (Note ο τ × Tracker ο τ) := []

section
variable {ο τ : Type}

/-- Adds a note. -/
def Desk.write (d : Desk ο τ) (n : Note ο τ) : Desk ο τ :=
  { d with journal := d.journal ++ [(n, d.tracker)] }

@[simp] theorem Desk.tracker_write (d : Desk ο τ) (n : Note ο τ) :
    (d.write n).tracker = d.tracker := rfl

/-- Notes something. -/
def note (n : Note ο τ) : Act (Desk ο τ) Unit :=
  modify fun d => d.write n

/-- How the tracker is kept during a call. -/
def keeper (now : τ) (hear : Option (Request ο τ → Act (Desk ο τ) Unit)) :
    Keeper (Desk ο τ) ο τ where
  tracker := Desk.tracker
  setTracker t d := { d with tracker := t }
  now := pure now
  identifier _ := .absent
  onExpired := hear
  log _ := pure ()

variable [Sub τ] [LE τ] [DecidableLE τ]

/-- Carries out a call. -/
def Call.perform (k : Keeper (Desk ο τ) ο τ) : Call ο → Act (Desk ο τ) (Reply ο τ)
  | put key subject => do return .request (← k.put key subject)
  | resolve key => do return .request (← k.resolve key)
  | expire => do return .requests (← k.expire)
  | get key => do return .request ((← k.current).get? key)
  | contains key => do return .flag ((← k.current).contains key)
  | size => do return .count (← k.current).size

/-- Carries out a plan.  Somebody hears of expired requests, or nobody does. -/
def Plan.perform (hears : Bool) : Plan ο τ → Act (Desk ο τ) Unit
  | stop (.ok _) => pure ()
  | stop (.error f) => throw f
  | call c now reaction next => do
    let hear (r : Request ο τ) : Act (Desk ο τ) Unit := do
      note (.told r)
      (reaction r).perform hears
    let reply ← (c.perform (keeper now (if hears then some hear else none))).attempt
    note (.replied c now reply)
    (next reply).perform hears

end

/-! ### Outcomes -/

/-- What a call comes to. -/
structure Outcome (ο τ : Type) where
  /-- The reply. -/
  reply : Reply ο τ
  /-- The tracker when the call has changed it. -/
  tracker : Tracker ο τ
  /-- The requests whose expiry is announced. -/
  expired : List (Request ο τ)

section
variable {ο τ : Type} [Sub τ] [LE τ] [DecidableLE τ]

/-- The outcome of a call. -/
def Call.outcome (t : Tracker ο τ) (now : τ) : Call ο → Outcome ο τ
  | put key subject => ⟨.request (t.get? key), t.put key subject now, []⟩
  | resolve key =>
    match t.get? key with
    | none => ⟨.request none, t, []⟩
    | some r =>
      if t.Due now r then ⟨.request none, (t.erase key).settle r .expired, [r]⟩
      else ⟨.request (some r), (t.erase key).settle r .resolved, []⟩
  | expire => ⟨.requests (t.due now), t.sweep now, t.due now⟩
  | get key => ⟨.request (t.get? key), t, []⟩
  | contains key => ⟨.flag (t.contains key), t, []⟩
  | size => ⟨.count t.size, t, []⟩

variable {t : Tracker ο τ}
variable {now : τ}
variable {key : GroupKey}
variable {r : Request ο τ}

theorem outcome_resolve_of_none (missing : t.get? key = none) :
    (Call.resolve key).outcome t now = ⟨.request none, t, []⟩ := by
  simp only [Call.outcome, missing]

theorem outcome_resolve_of_due (found : t.get? key = some r) (late : t.Due now r) :
    (Call.resolve key).outcome t now =
      ⟨.request none, (t.erase key).settle r .expired, [r]⟩ := by
  simp only [Call.outcome, found, if_pos late]

theorem outcome_resolve_of_not_due (found : t.get? key = some r) (early : ¬t.Due now r) :
    (Call.resolve key).outcome t now =
      ⟨.request (some r), (t.erase key).settle r .resolved, []⟩ := by
  simp only [Call.outcome, found, if_neg early]

/-- The desk after somebody has heard that a request has expired. -/
def tell (hear : Option (Request ο τ → Act (Desk ο τ) Unit)) (d : Desk ο τ) (r : Request ο τ) :
    Desk ο τ :=
  match hear with
  | none => d
  | some act => (act r).after d

variable {hear : Option (Request ο τ → Act (Desk ο τ) Unit)}

omit [Sub τ] [LE τ] [DecidableLE τ] in
/-- Whoever hears of a request may fail, but the announcement does not. -/
theorem runIn_announce (r : Request ο τ) (d : Desk ο τ) :
    ((keeper now hear).announce r).runIn d = (.ok (), tell hear d r) := by
  cases hear with
  | none => rfl
  | some act => exact Keeper.runIn_announce_of_some rfl (fun _ _ => rfl) r d

omit [Sub τ] [LE τ] [DecidableLE τ] in
theorem runIn_announceAll (rs : List (Request ο τ)) (d : Desk ο τ) :
    ((keeper now hear).announceAll rs).runIn d = (.ok (), rs.foldl (tell hear) d) := by
  induction rs generalizing d with
  | nil => rfl
  | cons r rest ih =>
      unfold Keeper.announceAll
      rw [Act.runIn_bind, runIn_announce]
      exact ih (tell hear d r)

/-- A confirmation of a live request settles it by the clock. -/
theorem runIn_resolve_of_some
    {d : Desk ο τ}
    (found : d.tracker.get? key = some r) :
    ((keeper now hear).resolve key).runIn d =
      if d.tracker.Due now r then
        (.ok none, tell hear { d with tracker := (d.tracker.erase key).settle r .expired } r)
      else
        (.ok (some r), { d with tracker := (d.tracker.erase key).settle r .resolved }) := by
  have clock (v : Desk ο τ) : (keeper now hear).now.runIn v = (.ok now, v) := rfl
  -- Taking a request out leaves the time to live alone, so it is judged as before.
  have judged : (d.tracker.erase key).Due now r ↔ d.tracker.Due now r := .rfl
  by_cases late : d.tracker.Due now r
  · rw [if_pos late, Keeper.runIn_resolve_of_due found (clock _) (judged.mpr late),
      Act.runIn_bind, runIn_announce]
    rfl
  · rw [if_neg late, Keeper.runIn_resolve_of_not_due found (clock _) (mt judged.mp late)]
    rfl

/-- A call changes the tracker, then the announcements are made, and no call fails. -/
theorem runIn_perform (c : Call ο) (d : Desk ο τ) :
    (c.perform (keeper now hear)).runIn d =
      (.ok (c.outcome d.tracker now).reply,
        (c.outcome d.tracker now).expired.foldl (tell hear)
          { d with tracker := (c.outcome d.tracker now).tracker }) := by
  cases c with
  | put | get | contains | size => rfl
  | expire =>
      have clock : (keeper now hear).now.runIn d = (.ok now, d) := rfl
      unfold Call.perform
      rw [Act.runIn_bind, Keeper.runIn_expire_of_ok clock, Act.runIn_bind, runIn_announceAll]
      rfl
  | resolve key =>
      unfold Call.perform
      rw [Act.runIn_bind]
      cases found : d.tracker.get? key with
      | none =>
          rw [Keeper.runIn_resolve_of_none found, outcome_resolve_of_none found]
          rfl
      | some r =>
          rw [runIn_resolve_of_some found]
          by_cases late : d.tracker.Due now r
          · rw [if_pos late, outcome_resolve_of_due found late]
            rfl
          · rw [if_neg late, outcome_resolve_of_not_due found late]
            rfl

/-- Who hears of the requests that expire during a call. -/
def hearing (hears : Bool) (reaction : Request ο τ → Plan ο τ) :
    Option (Request ο τ → Act (Desk ο τ) Unit) :=
  if hears then
    some fun r => do
      note (.told r)
      (reaction r).perform hears
  else none

theorem tell_hearing
    (hears : Bool)
    (reaction : Request ο τ → Plan ο τ)
    (d : Desk ο τ)
    (r : Request ο τ) :
    tell (hearing hears reaction) d r =
      if hears then ((reaction r).perform hears).after (d.write (.told r)) else d := by
  cases hears <;> rfl

theorem after_stop (hears : Bool) (ending : Except Fault Unit) (d : Desk ο τ) :
    ((Plan.stop ending).perform hears).after d = d := by
  cases ending <;> rfl

/-- A plan that calls goes on from the reply. -/
theorem after_call
    (hears : Bool)
    (c : Call ο)
    (now : τ)
    (reaction : Request ο τ → Plan ο τ)
    (next : Except Fault (Reply ο τ) → Plan ο τ)
    (d : Desk ο τ) :
    ((Plan.call c now reaction next).perform hears).after d =
      ((next (.ok (c.outcome d.tracker now).reply)).perform hears).after
        (((c.outcome d.tracker now).expired.foldl (tell (hearing hears reaction))
            { d with tracker := (c.outcome d.tracker now).tracker }).write
          (.replied c now (.ok (c.outcome d.tracker now).reply))) := by
  have called : ((c.perform (keeper now (hearing hears reaction))).attempt).runIn d = _ :=
    Act.runIn_attempt _ d
  rw [Act.after, runIn_perform] at called
  have opened : (Plan.call c now reaction next).perform hears =
      (c.perform (keeper now (hearing hears reaction))).attempt >>= fun reply =>
        note (.replied c now reply) >>= fun _ => (next reply).perform hears := rfl
  rw [opened, Act.after_bind_ok _ called]
  rfl

end

/-! ### What a call does to the requests -/

/-- The requests that a note hands over, with the fate that the note tells. -/
def Note.hands {ο τ : Type} : Note ο τ → List (Fate × Request ο τ)
  | .replied (.put _ _) _ (.ok (.request r)) => r.toList.map (Prod.mk .superseded)
  | .replied (.resolve _) _ (.ok (.request r)) => r.toList.map (Prod.mk .resolved)
  | .told r => [(.expired, r)]
  | _ => []

section
variable {ο τ : Type} [Sub τ] [LE τ] [DecidableLE τ]

/-- The requests that a call concludes, with their fates. -/
def Call.concluded (c : Call ο) (t : Tracker ο τ) (now : τ) : List (Fate × Request ο τ) :=
  (c.outcome t now).expired.map (Prod.mk .expired) ++
    (Note.replied c now (.ok (c.outcome t now).reply)).hands

omit [Sub τ] [LE τ] [DecidableLE τ] in
/-- The request that a call makes. -/
def Call.made? (t : Tracker ο τ) (now : τ) : Call ο → Option (Request ο τ)
  | put key subject => some ⟨t.history.length, key, subject, now⟩
  | _ => none

variable {t : Tracker ο τ}
variable {now : τ}

/-- A live request that is called for gets its fate from the clock. -/
theorem tracker_resolve_of_some
    {key : GroupKey}
    {r : Request ο τ}
    (found : t.get? key = some r) :
    ((Call.resolve key).outcome t now).tracker =
      (t.erase key).settle r (if t.Due now r then .expired else .resolved) := by
  by_cases late : t.Due now r
  · rw [outcome_resolve_of_due found late, if_pos late]
  · rw [outcome_resolve_of_not_due found late, if_neg late]

theorem concluded_put (key : GroupKey) (subject : ο) :
    (Call.put key subject).concluded t now = (t.get? key).toList.map (Prod.mk .superseded) := rfl

theorem concluded_resolve (key : GroupKey) :
    (Call.resolve key).concluded t now =
      (t.get? key).toList.map fun r => (if t.Due now r then .expired else .resolved, r) := by
  unfold Call.concluded
  cases found : t.get? key with
  | none => rw [outcome_resolve_of_none found]; rfl
  | some r =>
      by_cases late : t.Due now r
      · rw [outcome_resolve_of_due found late]
        simp [Note.hands, late]
      · rw [outcome_resolve_of_not_due found late]
        simp [Note.hands, late]

theorem concluded_expire :
    (Call.expire : Call ο).concluded t now = (t.due now).map (Prod.mk .expired) := by
  simp [Call.concluded, Call.outcome, Note.hands]

theorem timeToLive_outcome (c : Call ο) :
    (c.outcome t now).tracker.timeToLive = t.timeToLive := by
  cases c with
  | put key subject => exact (Tracker.Grows.put t key subject now).timeToLive
  | resolve key =>
      cases found : t.get? key with
      | none => rw [outcome_resolve_of_none found]
      | some r => rw [tracker_resolve_of_some found]; rfl
  | expire => exact (Tracker.Grows.sweep t now).timeToLive
  | get | contains | size => rfl

theorem requests_outcome (c : Call ο) :
    (c.outcome t now).tracker.requests = t.requests ++ (c.made? t now).toList := by
  cases c with
  | put key subject => exact Tracker.requests_put key subject now
  | resolve key =>
      refine Eq.trans ?_ (List.append_nil _).symm
      cases found : t.get? key with
      | none => rw [outcome_resolve_of_none found]
      | some r =>
          rw [tracker_resolve_of_some found]
          exact Tracker.requests_settle r _
  | expire => exact (Tracker.requests_expireAll (t.due now)).trans (List.append_nil _).symm
  | get | contains | size => exact (List.append_nil _).symm

omit [Sub τ] [LE τ] [DecidableLE τ] in
/-- A request that is made has a higher number than those before. -/
theorem serial_lt_of_made?
    (steady : t.Steady)
    {c : Call ο}
    {q r : Request ο τ}
    (earlier : q ∈ t.requests)
    (made : c.made? t now = some r) :
    q.serial < r.serial := by
  obtain ⟨entry, member, rfl⟩ := List.mem_map.mp earlier
  have numbered : entry.1.serial ∈ t.history.map (·.1.serial) := List.mem_map_of_mem member
  rw [steady.numbered, List.mem_range] at numbered
  cases c with
  | put key subject =>
      cases made
      exact numbered
  | resolve | expire | get | contains | size => cases made

/-- A tracker stays steady, whatever is called. -/
theorem steady_outcome (steady : t.Steady) (c : Call ο) : (c.outcome t now).tracker.Steady := by
  cases c with
  | put key subject => exact steady.put key subject now
  | resolve key =>
      cases found : t.get? key with
      | none =>
          rw [outcome_resolve_of_none found]
          exact steady
      | some r =>
          rw [tracker_resolve_of_some found]
          refine steady.conclude found ?_
          split <;> decide
  | expire => exact steady.sweep now
  | get | contains | size => exact steady

/-- A tracker stays sound, whatever is called. -/
theorem sound_outcome (sound : t.Sound) (c : Call ο) : (c.outcome t now).tracker.Sound := by
  cases c with
  | put key subject => exact sound.put key subject now
  | resolve key =>
      cases found : t.get? key with
      | none =>
          rw [outcome_resolve_of_none found]
          exact sound
      | some r =>
          rw [tracker_resolve_of_some found]
          refine sound.conclude found ?_
          split <;> decide
  | expire => exact sound.sweep now
  | get | contains | size => exact sound

/-- The fate that a call gives to a live request, if any. -/
def Call.fate? (timeToLive now : τ) (r : Request ο τ) : Call ο → Option Fate
  | put key _ => if r.key = key then some .superseded else none
  | resolve key =>
    if r.key = key then
      some (if timeToLive ≤ now - r.createdAt then .expired else .resolved)
    else none
  | expire => if timeToLive ≤ now - r.createdAt then some .expired else none
  | get _ | contains _ | size => none

/-- What becomes of a live request depends on nothing else in the tracker. -/
theorem mem_concluded_iff
    (steady : t.Steady)
    {c : Call ο}
    {fate : Fate}
    {r : Request ο τ} :
    (fate, r) ∈ c.concluded t now ↔ r ∈ t.live ∧ c.fate? t.timeToLive now r = some fate := by
  cases c with
  | put key subject =>
      simp only [concluded_put, List.mem_map, Option.mem_toList, Prod.mk.injEq,
        steady.get?_eq_some_iff, Call.fate?]
      grind
  | resolve key =>
      simp only [concluded_resolve, List.mem_map, Option.mem_toList, Prod.mk.injEq,
        steady.get?_eq_some_iff, Call.fate?, Tracker.Due]
      grind
  | expire =>
      simp only [concluded_expire, List.mem_map, Prod.mk.injEq, Tracker.mem_due, Tracker.Due,
        Call.fate?]
      grind
  | get | contains | size => simp [Call.concluded, Call.outcome, Note.hands, Call.fate?]

theorem live_of_mem_concluded
    (steady : t.Steady)
    {c : Call ο}
    {fate : Fate}
    {r : Request ο τ}
    (concluded : (fate, r) ∈ c.concluded t now) :
    r ∈ t.live :=
  ((mem_concluded_iff steady).mp concluded).1

/-- No request is concluded twice. -/
theorem nodup_concluded (steady : t.Steady) (c : Call ο) :
    ((c.concluded t now).map (·.2.serial)).Nodup := by
  cases c with
  | put key subject =>
      rw [concluded_put]
      cases t.get? key <;> simp
  | resolve key =>
      rw [concluded_resolve]
      cases t.get? key <;> simp
  | expire =>
      rw [concluded_expire, List.map_map]
      exact steady.nodup_serial_due now
  | get | contains | size => exact List.nodup_nil

/-- Of all requests those that a call concludes get new fates, and it may make one. -/
theorem mem_history_outcome
    (steady : t.Steady)
    {c : Call ο}
    {r : Request ο τ}
    {fate : Fate} :
    (r, fate) ∈ (c.outcome t now).tracker.history ↔
      (fate, r) ∈ c.concluded t now ∨
        ((r, fate) ∈ t.history ∧ ∀ other, (other, r) ∉ c.concluded t now) ∨
        c.made? t now = some r ∧ fate = .pending := by
  cases c with
  | put key subject =>
      have made : (Call.put key subject).made? t now =
          some ⟨t.history.length, key, subject, now⟩ := rfl
      rw [concluded_put, made, Option.some.injEq]
      cases found : t.get? key with
      | none =>
          rw [Call.outcome, Tracker.history_put_of_get?_eq_none found, List.mem_append]
          simp [eq_comm]
      | some q =>
          rw [Call.outcome, Tracker.history_put_of_get?_eq_some found, List.mem_append,
            steady.numbered.mem_settle_iff (steady.pending_of_get? found)]
          simp only [Option.toList_some, List.map_cons, List.map_nil,
            List.mem_singleton, Prod.mk.injEq]
          grind
  | resolve key =>
      rw [concluded_resolve]
      cases found : t.get? key with
      | none =>
          rw [outcome_resolve_of_none found]
          simp [Call.made?]
      | some q =>
          have erased : (t.erase key).Numbered := steady.numbered
          rw [tracker_resolve_of_some found, erased.mem_settle_iff (steady.pending_of_get? found)]
          have same : (t.erase key).history = t.history := rfl
          simp only [Call.made?, same, Option.toList_some, List.map_cons, List.map_nil,
            List.mem_singleton, Prod.mk.injEq]
          grind
  | expire =>
      have due : ∀ q ∈ t.due now, ∃ old, (q, old) ∈ t.history :=
        fun q member => ⟨.pending, steady.pending_of_mem_due member⟩
      rw [concluded_expire, Call.outcome, Tracker.history_sweep,
        steady.numbered.mem_expireAll_iff due]
      simp only [Call.made?, List.mem_map, Prod.mk.injEq]
      grind
  | get | contains | size => simp [Call.concluded, Call.made?, Call.outcome, Note.hands]

end
end Usage
end LineTerminal
