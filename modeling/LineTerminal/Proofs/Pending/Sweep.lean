import LineTerminal.Proofs.Pending.Usage

/-!
# What a sweep takes out

A sweep parts the live requests in two: those whose time has elapsed expire and are the answer, all
others stay as they are, both in the order of their keys.  Only then is anybody told, once of each
expired request and in the same order, whatever whoever hears of it does with the tracker and
whether that fails.  A confirmation draws the same line: it yields its request exactly when a sweep
at the same reading of the clock would leave it.
-/

namespace LineTerminal
namespace Usage
variable {ο τ : Type}

/-! ### What is told -/

/-- The requests that a journal tells of, in order. -/
def told (journal : List (Note ο τ × Tracker ο τ)) : List (Request ο τ) :=
  journal.filterMap fun
    | (.told r, _) => some r
    | _ => none

@[simp] theorem told_append (first second : List (Note ο τ × Tracker ο τ)) :
    told (first ++ second) = told first ++ told second :=
  List.filterMap_append

/-- Whether a request is one of those in a list, by its number. -/
def among (rs : List (Request ο τ)) (r : Request ο τ) : Bool := r.serial ∈ rs.map (·.serial)

theorem among_of_mem {rs : List (Request ο τ)} {r : Request ο τ} (member : r ∈ rs) :
    among rs r = true :=
  decide_eq_true (List.mem_map_of_mem member)

/-- Some requests have expired. -/
structure Past (rs : List (Request ο τ)) (t : Tracker ο τ) : Prop where
  steady : t.Steady
  expired : ∀ r ∈ rs, (r, Fate.expired) ∈ t.history

/-- The journal goes on without a word of some requests, which stay expired. -/
structure Silent (rs : List (Request ο τ)) (d d' : Desk ο τ) : Prop where
  past : Past rs d'.tracker
  journal : ∃ later, d'.journal = d.journal ++ later ∧ ∀ r ∈ told later, among rs r = false

section
variable {rs : List (Request ο τ)} {d d' d'' : Desk ο τ}

theorem Silent.refl (past : Past rs d.tracker) : Silent rs d d where
  past := past
  journal := ⟨[], (List.append_nil _).symm, by simp [told]⟩

theorem Silent.trans (first : Silent rs d d') (second : Silent rs d' d'') : Silent rs d d'' where
  past := second.past
  journal := by
    obtain ⟨later, grown, silent⟩ := first.journal
    obtain ⟨later', grown', silent'⟩ := second.journal
    refine ⟨later ++ later', by rw [grown', grown, List.append_assoc], fun r member => ?_⟩
    rw [told_append, List.mem_append] at member
    exact member.elim (silent r) (silent' r)

/-- The tracker is changed, and nothing is noted. -/
theorem Silent.change {t : Tracker ο τ} (past : Past rs t) :
    Silent rs d { d with tracker := t } where
  past := past
  journal := ⟨[], (List.append_nil _).symm, by simp [told]⟩

/-- A call is replied to. -/
theorem Silent.replied
    (c : Call ο)
    (now : τ)
    (reply : Except Fault (Reply ο τ))
    (past : Past rs d.tracker) :
    Silent rs d (d.write (.replied c now reply)) where
  past := past
  journal := ⟨_, rfl, by simp [told]⟩

/-- Somebody hears of another request. -/
theorem Silent.told
    {r : Request ο τ}
    (past : Past rs d.tracker)
    (other : among rs r = false) :
    Silent rs d (d.write (.told r)) where
  past := past
  journal := ⟨_, rfl, by simpa [Usage.told] using other⟩

end

variable [Sub τ] [LE τ] [DecidableLE τ]

/-- Expired requests stay so, and no call concludes them again. -/
theorem Past.outcome
    {rs : List (Request ο τ)}
    {t : Tracker ο τ}
    (past : Past rs t)
    (c : Call ο)
    (now : τ) :
    Past rs (c.outcome t now).tracker ∧ ∀ h ∈ c.concluded t now, among rs h.2 = false := by
  have other : ∀ h ∈ c.concluded t now, ∀ r ∈ rs, h.2.serial ≠ r.serial := by
    intro h concluded r member same
    have pending := past.steady.pending _ (live_of_mem_concluded past.steady concluded)
    have equal := past.steady.numbered.eq_of_serial_eq pending (past.expired r member) same
    cases (Prod.mk.inj equal).2
  refine ⟨⟨steady_outcome past.steady c, fun r member => ?_⟩, fun h concluded => ?_⟩
  · have apart (fate : Fate) : (fate, r) ∉ c.concluded t now :=
      fun concluded => other _ concluded r member rfl
    exact (mem_history_outcome past.steady).mpr (.inr (.inl ⟨past.expired r member, apart⟩))
  · simpa [among, eq_comm] using other h concluded

/-- Whatever is planned, expired requests are not heard of again. -/
theorem Past.perform
    {rs : List (Request ο τ)}
    (hears : Bool)
    (plan : Plan ο τ)
    {d : Desk ο τ}
    (past : Past rs d.tracker) :
    Silent rs d ((plan.perform hears).after d) := by
  induction plan generalizing d with
  | stop ending =>
      rw [after_stop]
      exact .refl past
  | call c now reaction next reacts continues =>
      have tells (es : List (Request ο τ)) (others : ∀ e ∈ es, among rs e = false) {d : Desk ο τ}
          (past : Past rs d.tracker) :
          Silent rs d (es.foldl (tell (hearing hears reaction)) d) := by
        induction es generalizing d with
        | nil => exact .refl past
        | cons e rest ih =>
            have heard : Silent rs d (tell (hearing hears reaction) d e) := by
              rw [tell_hearing]
              cases hears with
              | false => exact .refl past
              | true =>
                  have noted : Silent rs d (d.write (.told e)) :=
                    .told past (others e List.mem_cons_self)
                  exact noted.trans (reacts e noted.past)
            exact heard.trans (ih (fun e member => others e (List.mem_cons_of_mem _ member))
              heard.past)
      rw [after_call]
      obtain ⟨changed, others⟩ := past.outcome c now
      have expired : ∀ e ∈ (c.outcome d.tracker now).expired, among rs e = false := fun e member =>
        others (.expired, e) (List.mem_append_left _ (List.mem_map_of_mem member))
      have announced := (Silent.change (d := d) changed).trans (tells _ expired changed)
      have replied := announced.trans
        (.replied c now (.ok (c.outcome d.tracker now).reply) announced.past)
      exact replied.trans (continues _ replied.past)

/-! ### Announcements -/

/--
Between two states of a desk, requests were announced that the tracker had let expire before.  If
anybody hears, they are told of once each, in order, and the first of them before anything else is
done.
-/
structure Announced (hears : Bool) (rs : List (Request ο τ)) (t : Tracker ο τ)
    (d d' : Desk ο τ) : Prop where
  /-- What is noted, and the tracker as it stands when the first request is told of. -/
  journal : ∃ later, d'.journal = d.journal ++ later ∧
    later.head? = (if hears then rs.head? else none).map (fun r => (.told r, t)) ∧
    (told later).filter (among rs) = if hears then rs else []
  /-- The requests are expired, and stay so. -/
  expired : ∀ r ∈ rs, (r, Fate.expired) ∈ d'.tracker.history

/-- Requests are told of in turn, once each. -/
theorem Past.announced
    {rs all : List (Request ο τ)}
    (reaction : Request ο τ → Plan ο τ)
    {d : Desk ο τ}
    (past : Past all d.tracker)
    (within : ∀ r ∈ rs, r ∈ all) :
    let d' := rs.foldl (tell (hearing true reaction)) d
    Past all d'.tracker ∧
      ∃ later, d'.journal = d.journal ++ later ∧
        later.head? = rs.head?.map (fun r => (.told r, d.tracker)) ∧
        (told later).filter (among all) = rs := by
  induction rs generalizing d with
  | nil => exact ⟨past, [], (List.append_nil _).symm, rfl, rfl⟩
  | cons r rest ih =>
      have reacted : Silent all (d.write (.told r))
          (((reaction r).perform true).after (d.write (.told r))) :=
        Past.perform true (reaction r) past
      obtain ⟨within, others⟩ := List.forall_mem_cons.mp within
      obtain ⟨past', later', grown', -, rest_told⟩ := ih reacted.past others
      obtain ⟨later, grown, silent⟩ := reacted.journal
      refine ⟨past', (.told r, d.tracker) :: later ++ later', ?_, rfl, ?_⟩
      · rw [List.foldl_cons, tell_hearing, if_pos rfl, grown', grown]
        simp [Desk.write]
      · have first : told ((.told r, d.tracker) :: later ++ later') =
            r :: (told later ++ told later') := by
          simp [told]
        have unheard : (told later).filter (among all) = [] :=
          List.filter_eq_nil_iff.mpr fun q member => by simp [silent q member]
        rw [first, List.filter_cons_of_pos (among_of_mem within), List.filter_append, unheard,
          rest_told, List.nil_append]

/-- Requests that the tracker has let expire are announced, whether anybody hears or not. -/
theorem announced_foldl
    {rs : List (Request ο τ)}
    {t : Tracker ο τ}
    (past : Past rs t)
    (hears : Bool)
    (reaction : Request ο τ → Plan ο τ)
    (d : Desk ο τ) :
    Announced hears rs t d (rs.foldl (tell (hearing hears reaction)) { d with tracker := t }) := by
  cases hears with
  | false =>
      have unheard : rs.foldl (tell (hearing false reaction)) { d with tracker := t } =
          { d with tracker := t } := List.foldl_fixed rs
      rw [unheard]
      exact ⟨⟨[], (List.append_nil _).symm, rfl, rfl⟩, past.expired⟩
  | true =>
      obtain ⟨after, journal⟩ :=
        Past.announced reaction (d := { d with tracker := t }) past fun r member => member
      exact ⟨journal, after.expired⟩

/-- Whoever leaves the tracker alone leaves it alone after any number of announcements. -/
theorem tracker_foldl_tell
    {hears : Bool}
    {reaction : Request ο τ → Plan ο τ}
    (still : ∀ r e, (((reaction r).perform hears).after e).tracker = e.tracker)
    (rs : List (Request ο τ))
    (d : Desk ο τ) :
    (rs.foldl (tell (hearing hears reaction)) d).tracker = d.tracker := by
  induction rs generalizing d with
  | nil => rfl
  | cons r rest ih =>
      rw [List.foldl_cons, ih, tell_hearing]
      cases hears with
      | false => rfl
      | true => exact still r _

/-! ### Sweeps -/

/-- The tracker after a sweep that is answered with some requests. -/
structure Swept (t : Tracker ο τ) (now : τ) (rs : List (Request ο τ)) (swept : Tracker ο τ) :
    Prop where
  /-- The answer lists the live requests whose time has elapsed, in the order of their keys. -/
  due : rs.Sublist t.live ∧ ∀ r, r ∈ rs ↔ r ∈ t.live ∧ t.timeToLive ≤ now - r.createdAt
  /-- The others are still live, in the order of their keys. -/
  rest : swept.live.Sublist t.live ∧
    ∀ r, r ∈ swept.live ↔ r ∈ t.live ∧ ¬t.timeToLive ≤ now - r.createdAt
  /-- The requests of the answer have expired, and all others have kept their fates. -/
  fates : ∀ r fate, (r, fate) ∈ swept.history ↔
    r ∈ rs ∧ fate = .expired ∨ r ∉ rs ∧ (r, fate) ∈ t.history

variable {t : Tracker ο τ}
variable {now : τ}

theorem swept_sweep (steady : t.Steady) (now : τ) : Swept t now (t.due now) (t.sweep now) where
  due := ⟨List.filter_sublist, fun _ => Tracker.mem_due⟩
  rest := by
    refine ⟨List.filter_sublist, fun r => ?_⟩
    rw [Tracker.mem_live_sweep, Tracker.mem_due, Tracker.Due]
    tauto
  fates _ _ := steady.numbered.mem_expireAll_iff fun _ member =>
    ⟨.pending, steady.pending_of_mem_due member⟩

/-- A sweep that finds no request to expire changes nothing. -/
theorem sweep_of_due_eq_nil (none : t.due now = []) : t.sweep now = t := by
  have early : ∀ r ∈ t.live, decide (¬t.Due now r) = true := fun r member =>
    decide_eq_true fun late => List.not_mem_nil (none ▸ Tracker.mem_due.mpr ⟨member, late⟩)
  unfold Tracker.sweep
  rw [none, List.filter_eq_self.mpr early]
  rfl

/-- Nothing is left for a second sweep at the same reading of the clock. -/
theorem due_sweep (t : Tracker ο τ) (now : τ) : (t.sweep now).due now = [] := by
  refine List.filter_eq_nil_iff.mpr fun r member late => ?_
  obtain ⟨early, live⟩ := Tracker.mem_live_sweep.mp member
  have unchanged := (Tracker.Grows.sweep t now).timeToLive
  have elapsed := of_decide_eq_true late
  rw [Tracker.Due, unchanged] at elapsed
  exact early (Tracker.mem_due.mpr ⟨live, elapsed⟩)

theorem runIn_expire_of_due_eq_nil
    {hear : Option (Request ο τ → Act (Desk ο τ) Unit)}
    {d : Desk ο τ}
    (none : d.tracker.due now = []) :
    (Call.expire.perform (keeper now hear)).runIn d = (.ok (.requests []), d) := by
  rw [runIn_perform]
  simp only [Call.outcome, none, sweep_of_due_eq_nil none, List.foldl_nil]

/-! ### Confirmations -/

/-- What a confirmation comes to when a sweep would be answered with some requests. -/
structure Confirmed (hears : Bool) (rs : List (Request ο τ)) (key : GroupKey)
    (answer : Option (Request ο τ)) (d d' : Desk ο τ) : Prop where
  /-- A request is yielded if it is there and the sweep would leave it. -/
  yields : ∀ r, answer = some r ↔ d.tracker.get? key = some r ∧ r ∉ rs
  /-- Without a request nothing is done. -/
  missing : d.tracker.get? key = none → d' = d
  /-- A request that the sweep would leave is resolved, and nobody is told. -/
  early : ∀ r, d.tracker.get? key = some r → r ∉ rs →
    d' = { d with tracker := (d.tracker.erase key).settle r .resolved }
  /-- A request that the sweep would take out expires, and this is announced once. -/
  late : ∀ r, d.tracker.get? key = some r → r ∈ rs →
    Announced hears [r] ((d.tracker.erase key).settle r .expired) d d'

omit [Sub τ] [LE τ] [DecidableLE τ] in
/-- A request that is taken out may expire. -/
theorem past_conclude
    (steady : t.Steady)
    {key : GroupKey}
    {r : Request ο τ}
    (found : t.get? key = some r) :
    Past [r] ((t.erase key).settle r .expired) where
  steady := steady.conclude found (by decide)
  expired q member := by
    have erased : (t.erase key).Numbered := steady.numbered
    exact (erased.mem_settle_iff (steady.pending_of_get? found)).mpr
      (.inl ⟨List.mem_singleton.mp member, rfl⟩)

/-- A confirmation agrees with a sweep at the same reading of the clock. -/
theorem confirmed_resolve
    {d : Desk ο τ}
    (steady : d.tracker.Steady)
    (now : τ)
    (hears : Bool)
    (reaction : Request ο τ → Plan ο τ)
    (key : GroupKey) :
    ∃ answer d',
      ((Call.resolve key).perform (keeper now (hearing hears reaction))).runIn d =
        (.ok (.request answer), d') ∧
      Confirmed hears (d.tracker.due now) key answer d d' := by
  rw [runIn_perform]
  cases found : d.tracker.get? key with
  | none =>
      rw [outcome_resolve_of_none found]
      refine ⟨_, _, rfl, ?_⟩
      constructor <;> simp [found]
  | some r =>
      have live := (Tracker.mem_of_get? found).1
      by_cases late : d.tracker.Due now r
      · have swept : r ∈ d.tracker.due now := Tracker.mem_due.mpr ⟨live, late⟩
        rw [outcome_resolve_of_due found late]
        refine ⟨_, _, rfl, ?_⟩
        constructor
        case late =>
          rw [found]
          rintro _ ⟨rfl⟩ -
          exact announced_foldl (past_conclude steady found) hears reaction d
        all_goals simp_all
      · have left : r ∉ d.tracker.due now := mt (fun h => (Tracker.mem_due.mp h).2) late
        rw [outcome_resolve_of_not_due found late]
        refine ⟨_, _, rfl, ?_⟩
        constructor <;> simp_all

/-- What a sweep comes to that takes a desk to another one and is answered with some requests. -/
structure Partitioned (now : τ) (hears : Bool) (reaction : Request ο τ → Plan ο τ)
    (rs : List (Request ο τ)) (swept : Tracker ο τ) (d d' : Desk ο τ) : Prop where
  /-- The requests of the answer are taken out, and all others stay. -/
  parts : Swept d.tracker now rs swept
  /-- The order of the keys is that in which they came in, also if a request was superseded. -/
  order : ∀ key subject made, (d.tracker.put key subject made).live.map (·.key) =
    if key ∈ d.tracker.live.map (·.key) then d.tracker.live.map (·.key)
    else d.tracker.live.map (·.key) ++ [key]
  /-- The requests of the answer are announced from there, once each. -/
  announced : Announced hears rs swept d d'
  /-- Unless whoever hears of them changes the tracker, a second sweep has nothing to do. -/
  again : (∀ r e, (((reaction r).perform hears).after e).tracker = e.tracker) →
    d'.tracker = swept ∧
      (Call.expire.perform (keeper now (hearing hears reaction))).runIn d' =
        (.ok (.requests []), d')
  /-- A confirmation instead of the sweep would agree with it. -/
  confirmed : ∀ key, ∃ answer e,
    ((Call.resolve key).perform (keeper now (hearing hears reaction))).runIn d =
        (.ok (.request answer), e) ∧
      Confirmed hears rs key answer d e

/--
A sweep takes out exactly the live requests whose time has elapsed, keeps all others in the order of
their keys, and then announces each expired request once, whatever is done on hearing it.
-/
theorem sweep_partitions
    {d : Desk ο τ}
    (steady : d.tracker.Steady)
    (now : τ)
    (hears : Bool)
    (reaction : Request ο τ → Plan ο τ) :
    ∃ rs swept d',
      (Call.expire.perform (keeper now (hearing hears reaction))).runIn d =
          (.ok (.requests rs), d') ∧
        Partitioned now hears reaction rs swept d d' := by
  have swept := swept_sweep steady now
  have past : Past (d.tracker.due now) (d.tracker.sweep now) :=
    ⟨steady.sweep now, fun r member => (swept.fates r .expired).mpr (.inl ⟨member, rfl⟩)⟩
  refine ⟨_, _, _, runIn_perform _ d, swept, fun _ _ _ => Tracker.map_key_place _ _,
    announced_foldl past hears reaction d, fun still => ?_,
    confirmed_resolve steady now hears reaction⟩
  have kept := tracker_foldl_tell still (d.tracker.due now)
    { d with tracker := d.tracker.sweep now }
  refine ⟨kept, runIn_expire_of_due_eq_nil ?_⟩
  exact (congrArg (·.due now) kept).trans (due_sweep d.tracker now)

/-- Two of three requests expire, and whoever hears of it makes them anew and fails. -/
theorem sweep_partitions_retrying :
    let waiting : Desk Unit Int :=
      { tracker := (({ timeToLive := 20 } : Tracker Unit Int).put ⟨[1]⟩ () 0).put ⟨[2]⟩ () 0
          |>.put ⟨[3]⟩ () 5 }
    let retry (r : Request Unit Int) : Plan Unit Int :=
      .call (.put r.key ()) 20 (fun _ => .stop (.ok ())) fun _ => .stop (.error .notNumeric)
    waiting.tracker.Steady ∧ ∃ swept d',
      Partitioned 20 true retry [⟨0, ⟨[1]⟩, (), 0⟩, ⟨1, ⟨[2]⟩, (), 0⟩] swept waiting d' ∧
        (d'.tracker.live.map (·.serial)) = [2, 3, 4] := by
  intro waiting retry
  have steady : waiting.tracker.Steady :=
    ((((Tracker.Sound.empty 20).put ⟨[1]⟩ () 0).put ⟨[2]⟩ () 0).put ⟨[3]⟩ () 5).steady
  obtain ⟨rs, swept, d', done, partitioned⟩ := sweep_partitions steady 20 true retry
  refine ⟨steady, swept, d', ?_⟩
  cases done
  exact ⟨partitioned, by decide⟩

end Usage
end LineTerminal
