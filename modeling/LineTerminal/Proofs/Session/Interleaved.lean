import LineTerminal.Proofs.Session.Interference

/-!
# What an operation does of its own

A callback may carry out any steps in the middle of an operation.  So what an operation does of its
own is told apart from what the scripts of reactions do: the states before and after are linked by
changes that the operation may make, with scripts between them.  This holds for every way in which
scripts are carried out.  An objective notes the batches and group requests that its pipeline makes
of it, and makes requests at this pipeline only.
-/

namespace LineTerminal

/--
A tracker after some requests of a kind were made.  The others are as they were, but for their
fates.
-/
structure Tracker.Gains {ο τ : Type} (made : Request ο τ → Prop) (t u : Tracker ο τ) : Prop where
  requests : ∃ new, u.requests = t.requests ++ new ∧ ∀ r ∈ new, made r
  live : ∀ r ∈ u.live, r ∈ t.live ∨ made r

namespace Tracker.Gains
variable {ο τ : Type} {made : Request ο τ → Prop} {t u v : Tracker ο τ}

/-- Nothing is gained when no request is made and none becomes live. -/
theorem of_requests
    (requests : u.requests = t.requests)
    (live : u.live ⊆ t.live) :
    t.Gains made u where
  requests := ⟨[], by rw [requests, List.append_nil], by simp⟩
  live r member := .inl (live member)

theorem refl (t : Tracker ο τ) : t.Gains made t :=
  of_requests rfl (List.Subset.refl _)

theorem trans
    (first : t.Gains made u)
    (second : u.Gains made v) :
    t.Gains made v where
  requests := by
    obtain ⟨new, grown, allowed⟩ := first.requests
    obtain ⟨new', grown', allowed'⟩ := second.requests
    refine ⟨new ++ new', by rw [grown', grown, List.append_assoc], fun r member => ?_⟩
    exact (List.mem_append.mp member).elim (allowed r) (allowed' r)
  live r member := (second.live r member).elim (first.live r) .inr

theorem mono
    {more : Request ο τ → Prop}
    (weaker : ∀ r, made r → more r)
    (gains : t.Gains made u) :
    t.Gains more u where
  requests := by
    obtain ⟨new, grown, allowed⟩ := gains.requests
    exact ⟨new, grown, fun r member => weaker r (allowed r member)⟩
  live r member := (gains.live r member).imp_right (weaker r)

theorem put
    {key : GroupKey}
    {subject : ο}
    {now : τ}
    (new : made ⟨t.history.length, key, subject, now⟩) :
    t.Gains made (t.put key subject now) where
  requests := by
    refine ⟨_, requests_put key subject now, fun r member => ?_⟩
    rw [List.mem_singleton.mp member]
    exact new
  live := by
    intro r member
    rcases List.mem_cons.mp ((place_subperm _ t.live).subset member) with rfl | kept
    · exact .inr new
    · exact .inl kept

end Tracker.Gains

namespace Session

/-- A pipeline without its requests. -/
def Pipeline.untracked (p : Pipeline) : Pipeline :=
  { p with tracker := { timeToLive := p.settings.timeToLive } }

/-- What an operation may do of its own. -/
structure Effects where
  /-- The events that it may note. -/
  notes : Event → Prop
  /-- The requests that it may make at the pipeline with a number. -/
  makes : Nat → Request NextTicket Float → Prop

/--
A change that an operation makes of its own.  It registers, builds and starts nothing, and what it
notes and requests is what it may.
-/
structure Effects.Allows (e : Effects) (w w' : World) : Prop where
  registry : w'.registry = w.registry
  listeners : w'.listeners = w.listeners
  pipelines : w'.pipelines.map Pipeline.untracked = w.pipelines.map Pipeline.untracked
  events : ∃ noted, w'.events = w.events ++ noted ∧ ∀ x ∈ noted, e.notes x
  trackers : ∀ i, (trackerOf i w).Gains (e.makes i) (trackerOf i w')

/-- The own changes of an operation, with the scripts of reactions between them. -/
def Interleaved (e : Effects) (nested : Nested) : World → World → Prop :=
  Relation.ReflTransGen fun w w' => e.Allows w w' ∨ ∃ script, w' = (nested script).after w

instance (e : Effects) (nested : Nested) : Std.Refl (Interleaved e nested) := ⟨fun _ => .refl⟩

instance (e : Effects) (nested : Nested) : IsTrans World (Interleaved e nested) :=
  ⟨fun _ _ _ first second => Relation.ReflTransGen.trans first second⟩

/-- Effects of any kind. -/
def anyEffects : Effects := ⟨fun _ => True, fun _ _ => True⟩

/-- An event that says nothing of batches, group requests and steps. -/
def Event.Routine : Event → Prop
  | .batch _ _ | .group _ _ _ _ _ | .stepped _ _ => False
  | _ => True

/-! ### Own changes -/

section
variable {e : Effects} {nested : Nested} {u w w' : World}

theorem Interleaved.trans
    (first : Interleaved e nested u w)
    (second : Interleaved e nested w w') :
    Interleaved e nested u w' :=
  Relation.ReflTransGen.trans first second

theorem Interleaved.own (allowed : e.Allows w w') : Interleaved e nested w w' :=
  .single (.inl allowed)

theorem Interleaved.script (e : Effects) (script : List Step) (w : World) :
    Interleaved e nested w ((nested script).after w) :=
  .single (.inr ⟨script, rfl⟩)

/-- Trackers are left alone when pipelines are. -/
theorem Effects.Allows.of_pipelines_eq
    {noted : List Event}
    (registry : w'.registry = w.registry)
    (listeners : w'.listeners = w.listeners)
    (pipelines : w'.pipelines = w.pipelines)
    (events : w'.events = w.events ++ noted)
    (allowed : ∀ x ∈ noted, e.notes x) :
    e.Allows w w' where
  registry := registry
  listeners := listeners
  pipelines := by rw [pipelines]
  events := ⟨noted, events, allowed⟩
  trackers i := by
    rw [trackerOf_congr pipelines]
    exact .refl _

theorem Effects.Allows.note
    {noted : List Event}
    (allowed : ∀ x ∈ noted, e.notes x) :
    e.Allows w (w.note noted) :=
  .of_pipelines_eq rfl rfl rfl rfl allowed

theorem Effects.Allows.refl : e.Allows w w :=
  .of_pipelines_eq rfl rfl rfl (List.append_nil w.events).symm (by simp)

theorem Effects.Allows.trans
    (first : e.Allows u w)
    (second : e.Allows w w') :
    e.Allows u w' where
  registry := second.registry.trans first.registry
  listeners := second.listeners.trans first.listeners
  pipelines := second.pipelines.trans first.pipelines
  events := by
    obtain ⟨noted, grown, allowed⟩ := first.events
    obtain ⟨noted', grown', allowed'⟩ := second.events
    refine ⟨noted ++ noted', by rw [grown', grown, List.append_assoc], fun x member => ?_⟩
    exact (List.mem_append.mp member).elim (allowed x) (allowed' x)
  trackers i := (first.trackers i).trans (second.trackers i)

/-- What every own change and every script follows, the whole operation follows. -/
theorem Interleaved.follows
    {R : World → World → Prop}
    [Std.Refl R]
    [IsTrans World R]
    (own : ∀ {v v' : World}, e.Allows v v' → R v v')
    (within : ∀ script, (nested script).Follows R)
    (interleaved : Interleaved e nested w w') :
    R w w' := by
  induction interleaved with
  | refl => exact refl_of R w
  | tail _ change ih =>
      rcases change with allowed | ⟨script, rfl⟩
      · exact trans_of R ih (own allowed)
      · exact trans_of R ih (within script _)

/-- Own changes come to one own change when the scripts do nothing. -/
theorem Interleaved.allows
    (idle : ∀ script v, (nested script).after v = v)
    (interleaved : Interleaved e nested w w') :
    e.Allows w w' := by
  induction interleaved with
  | refl => exact .refl
  | tail _ change ih =>
      rcases change with allowed | ⟨script, rfl⟩
      · exact ih.trans allowed
      · rwa [idle]

/-- Whatever is done of its own has effects of some kind. -/
theorem Effects.Allows.any (allowed : e.Allows w w') : anyEffects.Allows w w' where
  registry := allowed.registry
  listeners := allowed.listeners
  pipelines := allowed.pipelines
  events := by
    obtain ⟨noted, grown, -⟩ := allowed.events
    exact ⟨noted, grown, fun _ _ => trivial⟩
  trackers i := (allowed.trackers i).mono fun _ _ => trivial

theorem Interleaved.any (interleaved : Interleaved e nested w w') :
    Interleaved anyEffects nested w w' :=
  Relation.ReflTransGen.mono (fun _ _ change => Or.imp_left Effects.Allows.any change) _ _
    interleaved

theorem Effects.Allows.setTracker
    {i : Nat}
    {p : Pipeline}
    {t : Tracker NextTicket Float}
    (found : w.pipelines[i]? = some p)
    (gains : p.tracker.Gains (e.makes i) t) :
    e.Allows w (w.setTracker i t) where
  registry := rfl
  listeners := rfl
  pipelines := by
    apply List.ext_getElem?
    intro j
    simp only [World.setTracker, List.getElem?_map, List.getElem?_modify]
    cases w.pipelines[j]? with
    | none => rfl
    | some q => by_cases here : i = j <;> simp [here, Pipeline.untracked]
  events := ⟨[], (List.append_nil _).symm, by simp⟩
  trackers j := by
    by_cases here : i = j
    · subst here
      rw [trackerOf_setTracker found, trackerOf_of_some found]
      exact gains
    · rw [trackerOf_setTracker_of_ne here]
      exact .refl _

end

/-! ### Callbacks, batches and sweeps -/

section
variable {e : Effects} {nested : Nested}

theorem follows_own_record {x : Event} (noted : e.notes x) :
    (record x).Follows (Interleaved e nested) :=
  fun _ => .own (.note (by simpa using noted))

variable (routine : ∀ x : Event, x.Routine → e.notes x)
include routine

theorem notes_told (ticket : Ticket) (ending : Ending) : ∀ x ∈ ticket.told ending, e.notes x := by
  intro x member
  unfold Ticket.told at member
  split at member
  · simp at member
  · rw [List.mem_singleton.mp member]
    exact routine _ trivial

theorem follows_own_callBack (ticket : Ticket) (ending : Ending) :
    (callBack nested ticket ending).Follows (Interleaved e nested) := by
  intro w
  obtain ⟨started, told⟩ := @after_callBack nested ticket ending w
  have noted : e.Allows w { w.note (ticket.told ending) with started } :=
    .of_pipelines_eq rfl rfl rfl rfl (notes_told routine ticket ending)
  rcases told with alone | ⟨fails, onSuccess, onError, -, reacted⟩
  · rw [alone]
    exact .own noted
  · rw [reacted]
    exact .trans (.own noted) (.script e _ _)

theorem follows_own_completeBatch (number : Nat) (success : Bool) :
    (completeBatch nested number success).Follows (Interleaved e nested) := by
  intro w
  by_cases settled : ∀ sent, w.batches[number]? = some sent → sent.settled = true
  · rw [Act.after, runIn_completeBatch_of_settled settled]
    exact .refl
  · simp only [not_forall, Bool.not_eq_true] at settled
    obtain ⟨sent, found, open_⟩ := settled
    rw [after_completeBatch_of_open found open_ success]
    have noted : ∀ x ∈ sent.noted success, e.notes x := by
      intro x member
      cases success with
      | true => simp [SentBatch.noted] at member
      | false =>
          rw [List.mem_singleton.mp member]
          exact routine _ trivial
    have settled : e.Allows w ((w.settle number sent).note (sent.noted success)) :=
      .of_pipelines_eq rfl rfl rfl rfl noted
    exact .trans (.own settled) (follows_own_callBack routine _ _ _)

theorem follows_own_submitBatch
    {b : Batch}
    (noted : ∀ number, e.notes (.batch number b))
    (ticket : Ticket) :
    (submitBatch nested ticket b).Follows (Interleaved e nested) := by
  refine .ite (follows_own_callBack routine _ _) fun w => ?_
  have complete (success : Bool) :
      (completeBatch nested w.batches.length success).Follows (Interleaved e nested) :=
    follows_own_completeBatch routine _ success
  have sent : e.Allows w (w.send ticket b) :=
    .of_pipelines_eq rfl rfl rfl rfl (by simpa using noted _)
  rw [after_applyBatch]
  refine .trans (.own sent) ?_
  cases w.flowMode with
  | succeed => exact complete true _
  | fail => exact complete false _
  | hold | refuse => exact .refl
  | succeedThenFail => exact (complete true).bind (fun _ => complete false) _
  | failThenSucceed => exact (complete false).bind (fun _ => complete true) _

theorem follows_own_announce (i : Nat) (r : Request NextTicket Float) :
    ((keeper nested i).announce r).Follows (Interleaved e nested) := by
  unfold Keeper.announce keeper
  refine .bind (.bind .get fun w => .pure _) fun t => ?_
  refine .bind (follows_own_record (routine _ trivial)) fun _ => ?_
  refine .bind (.attempt (follows_own_callBack routine _ _)) fun outcome => ?_
  cases outcome with
  | ok _ => exact .pure _
  | error _ => exact follows_own_record (routine _ trivial)

theorem follows_own_announceAll (i : Nat) (rs : List (Request NextTicket Float)) :
    ((keeper nested i).announceAll rs).Follows (Interleaved e nested) := by
  induction rs with
  | nil => exact .pure _
  | cons r rest ih => exact .bind (follows_own_announce routine i r) fun _ => ih

theorem follows_own_expire (i : Nat) :
    ((keeper nested i).expire).Follows (Interleaved e nested) := by
  intro w
  cases broken : w.clockBroken with
  | true =>
      rw [Act.after, Keeper.runIn_expire_of_error (runIn_now_of_clockBroken i broken)]
      exact .refl
  | false =>
      rw [Act.after, Keeper.runIn_expire_of_ok (runIn_now_of_clockWorking i broken)]
      refine .trans ?_ ((follows_own_announceAll routine i _).bind (fun _ => .pure _) _)
      change Interleaved e nested w (w.setTracker i ((trackerOf i w).sweep w.time))
      cases found : w.pipelines[i]? with
      | none =>
          rw [World.setTracker_of_none found]
          exact .refl
      | some p =>
          rw [trackerOf_of_some found]
          refine .own (.setTracker found (.of_requests ?_ List.filter_sublist.subset))
          exact Tracker.requests_expireAll (p.tracker.due w.time)

theorem follows_own_sweepRound (i : Nat) :
    (sweepRound nested i).Follows (Interleaved e nested) := by
  have takesTurn (sweeper : Option (Nat × Nat)) :
      (modify fun w => { w with sweeper } : Act World Unit).Follows (Interleaved e nested) :=
    fun w => .own (.of_pipelines_eq rfl rfl rfl (List.append_nil w.events).symm (by simp))
  refine .bind (follows_pipeline i) fun p => .bind .get fun w => ?_
  refine .bind (takesTurn _) fun _ => .bind ?_ fun _ => takesTurn _
  have paused : (record (.waited p.settings.sweepInterval)).Follows (Interleaved e nested) :=
    follows_own_record (routine _ trivial)
  refine .bind (.attempt (follows_own_expire routine i)) fun outcome => ?_
  cases outcome with
  | ok _ => exact paused
  | error _ => exact .bind (follows_own_record (routine _ trivial)) fun _ => paused

/-! ### Group events -/

theorem follows_own_acknowledge (r : Request NextTicket Float) :
    (acknowledge nested r).Follows (Interleaved e nested) := by
  have stored : (storeRecord r.subject.id r.key).Follows (Interleaved e nested) := by
    intro w
    have noted (fails : Bool) : ∀ x ∈ [Event.store r.subject.id r.key fails], e.notes x := by
      simpa using routine (.store r.subject.id r.key fails) trivial
    rw [Act.after, runIn_storeRecord]
    split
    · exact .own (.note (noted true))
    · exact .own (.of_pipelines_eq rfl rfl rfl rfl (noted false))
  refine .bind (.attempt stored) fun outcome => ?_
  cases outcome with
  | ok _ => exact follows_own_callBack routine _ _
  | error _ =>
      exact .bind (follows_own_record (routine _ trivial)) fun _ =>
        follows_own_callBack routine _ _

/-- A pipeline that hears of an event takes a request out, or does nothing. -/
theorem follows_own_hear (event : GroupEvent) (key : GroupKey) (i : Nat) :
    (hear nested event key i).Follows (Interleaved e nested) := by
  intro w
  rcases quiet_or_live event key i w with quiet | ⟨confirms, p, r, found, live, rfl⟩
  · rw [Act.after, runIn_hear_of_none quiet]
    exact .refl
  · have erased : e.Allows w (w.setTracker i (p.tracker.erase r.key)) :=
      .setTracker found (.of_requests rfl List.filter_sublist.subset)
    have concluded (fate : Fate) :
        e.Allows w (w.setTracker i ((p.tracker.erase r.key).settle r fate)) :=
      .setTracker found (.of_requests (Tracker.requests_settle r fate) List.filter_sublist.subset)
    rw [Act.after, runIn_hear_of_get? confirms found live]
    split
    · exact .own erased
    · split
      · exact .trans (.own (concluded .expired)) (follows_own_announce routine i r _)
      · exact .trans (.own (concluded .resolved)) (follows_own_acknowledge routine r _)

theorem follows_own_emit (event : GroupEvent) (key : GroupKey) :
    (emit nested event key).Follows (Interleaved e nested) := by
  refine .bind .get fun w => ?_
  induction w.listeners with
  | nil => exact .pure _
  | cons i rest ih => exact .bind (follows_own_hear routine event key i) fun _ => ih

theorem follows_own_requestGroup
    {request : GroupRequest}
    {device : String}
    {key : GroupKey}
    {buckets : List Treatment}
    {app : String}
    (noted : e.notes (.group request device key buckets app)) :
    (requestGroup nested request device key buckets app).Follows (Interleaved e nested) := by
  intro w
  have asked : ∀ x ∈ [Event.group request device key buckets app], e.notes x := by
    simpa using noted
  have added : e.Allows w (w.added device key buckets app) ∨ request ≠ .add := by
    by_cases adds : request = .add
    · subst adds
      exact .inl (.of_pipelines_eq rfl rfl rfl rfl asked)
    · exact .inr adds
  rw [Act.after, runIn_requestGroup]
  split
  · exact .own (.note asked)
  · split
    case isFalse => exact .own (.note asked)
    case isTrue adds =>
      have added := added.resolve_right (not_not_intro adds)
      split
      · exact .trans (.own added) (follows_own_emit routine .added key _)
      · exact .own added

end
end Session
end LineTerminal
