import LineTerminal.Proofs.Pending.Usage

/-!
# What becomes of every request

Whatever is done with a tracker, by its user or by whoever hears of expired requests, every request
is handed over once at most, and in the way that its fate says: a resolved one as the reply to a
confirmation, a superseded one as the reply to a new request, an expired one to whoever hears of it.

The proof keeps account of the requests that have got a final fate but were not handed over yet.
They are owed by the calls that have not replied yet.
-/

namespace LineTerminal
namespace Usage
variable {ο τ : Type}

/-! ### Statements about a desk -/

/-- The trackers as they stood at all notes, and as they stand now. -/
def Desk.moments (d : Desk ο τ) : List (Tracker ο τ) := d.journal.map (·.2) ++ [d.tracker]

/-- What was handed over, in order. -/
def Desk.handed (d : Desk ο τ) : List (Fate × Request ο τ) := d.journal.flatMap (·.1.hands)

/-- The key, the subject and the time of a request that a note tells of. -/
def Note.made? : Note ο τ → Option (GroupKey × ο × τ)
  | .replied (.put key subject) now _ => some (key, subject, now)
  | _ => none

/-- The requests are those that the journal tells of, in order. -/
def Desk.Noted (d : Desk ο τ) : Prop :=
  d.tracker.requests.map (fun r => (r.key, r.subject, r.createdAt)) =
    d.journal.filterMap (·.1.made?)

/-- What is handed over of one request. -/
def about (r : Request ο τ) (hs : List (Fate × Request ο τ)) : List (Fate × Request ο τ) :=
  hs.filter fun h => h.2.serial = r.serial

/-- Whether a request of some fate is handed over. -/
def Reported (hears : Bool) : Fate → Bool
  | .pending => false
  | .expired => hears
  | .resolved | .superseded => true

/-- Final fates of the first tracker are the fates of the second. -/
def KeepsFates (t u : Tracker ο τ) : Prop :=
  ∀ r fate, fate ≠ Fate.pending → (r, fate) ∈ t.history → (r, fate) ∈ u.history

/-- A call has succeeded, and whoever asked for the live requests was told of them. -/
def Answered : Note ο τ × Tracker ο τ → Prop
  | (.replied (.get key) _ reply, t) => reply = .ok (.request (t.get? key))
  | (.replied (.contains key) _ reply, t) => reply = .ok (.flag (t.contains key))
  | (.replied .size _ reply, t) => reply = .ok (.count t.size)
  | (.replied _ _ reply, _) => ∃ answer, reply = .ok answer
  | (.told _, _) => True

/-- What is known of a desk while no call is in progress. -/
structure Accounted (hears : Bool) (d : Desk ο τ) : Prop where
  /-- The live requests are always those that are pending, each under a key of its own. -/
  sound : ∀ t ∈ d.moments, t.Sound
  /-- A final fate never changes. -/
  final : d.moments.Pairwise KeepsFates
  /-- No call fails, and looking up a key tells the live request. -/
  answered : ∀ entry ∈ d.journal, Answered entry
  /-- The requests are those that were put in, in order. -/
  noted : d.Noted
  /-- A request is found under its key as long as it is pending. -/
  found : ∀ r fate, (r, fate) ∈ d.tracker.history →
    (d.tracker.get? r.key = some r ↔ fate = .pending)
  /-- A request is handed over once if its fate is reported, and never otherwise. -/
  handed : ∀ r fate, (r, fate) ∈ d.tracker.history →
    about r d.handed = if Reported hears fate then [(fate, r)] else []
  /-- Nothing else is handed over. -/
  known : ∀ h ∈ d.handed, h.2 ∈ d.tracker.requests
  /-- Nobody hears that a confirmed request has expired. -/
  apart : ∀ r, (Fate.resolved, r) ∈ d.handed → (Fate.expired, r) ∉ d.handed

/-! ### Accounts -/

theorem about_append (r : Request ο τ) (hs gs : List (Fate × Request ο τ)) :
    about r (hs ++ gs) = about r hs ++ about r gs :=
  List.filter_append ..

theorem about_eq_nil
    {r : Request ο τ}
    {hs : List (Fate × Request ο τ)}
    (other : ∀ h ∈ hs, h.2.serial ≠ r.serial) :
    about r hs = [] := by
  apply List.filter_eq_nil_iff.mpr
  intro h member
  simpa using other h member

/-- A request that is listed once is all that is listed of it. -/
theorem about_eq_singleton
    {hs : List (Fate × Request ο τ)}
    (once : (hs.map (·.2.serial)).Nodup)
    {fate : Fate}
    {r : Request ο τ}
    (listed : (fate, r) ∈ hs) :
    about r hs = [(fate, r)] := by
  induction hs with
  | nil => simp at listed
  | cons h rest ih =>
      obtain ⟨apart, once⟩ := List.nodup_cons.mp once
      unfold about
      rcases List.mem_cons.mp listed with rfl | later
      · rw [List.filter_cons_of_pos (by simp)]
        have none_later : about r rest = [] := by
          apply about_eq_nil
          intro other member same
          exact apart (List.mem_map.mpr ⟨other, member, same⟩)
        exact congrArg _ none_later
      · have other : h.2.serial ≠ r.serial := by
          intro same
          exact apart (List.mem_map.mpr ⟨(fate, r), later, same.symm⟩)
        rw [List.filter_cons_of_neg (by simpa using other)]
        exact ih once later

theorem KeepsFates.refl (t : Tracker ο τ) : KeepsFates t t :=
  fun _ _ _ entry => entry

theorem KeepsFates.trans
    {t u v : Tracker ο τ}
    (first : KeepsFates t u)
    (second : KeepsFates u v) :
    KeepsFates t v :=
  fun r fate final entry => second r fate final (first r fate final entry)

theorem moments_write (d : Desk ο τ) (n : Note ο τ) :
    (d.write n).moments = d.moments ++ [d.tracker] := by
  simp [Desk.moments, Desk.write]

theorem handed_write (d : Desk ο τ) (n : Note ο τ) :
    (d.write n).handed = d.handed ++ n.hands := by
  simp [Desk.handed, Desk.write]

/-- A call keeps the final fates. -/
theorem keepsFates_outcome
    [Sub τ] [LE τ] [DecidableLE τ]
    {t : Tracker ο τ}
    (sound : t.Sound)
    {now : τ}
    (c : Call ο) :
    KeepsFates t (c.outcome t now).tracker := by
  intro r fate final entry
  apply (mem_history_outcome sound.steady).mpr
  refine .inr (.inl ⟨entry, ?_⟩)
  -- Only a live request is concluded, and this one is not pending.
  intro other concluded
  exact final ((sound.mem_live_iff_of_entry entry).mp (live_of_mem_concluded sound.steady concluded))

/-- A concluded request comes to be owed if its fate is reported. -/
theorem about_concluded
    [Sub τ] [LE τ] [DecidableLE τ]
    {t : Tracker ο τ}
    (sound : t.Sound)
    {now : τ}
    {c : Call ο}
    {hears : Bool}
    {r : Request ο τ}
    {fate : Fate}
    (concluded : (fate, r) ∈ c.concluded t now) :
    about r ((c.concluded t now).filter (Reported hears ·.1)) =
      if Reported hears fate then [(fate, r)] else [] := by
  have listed := about_eq_singleton (nodup_concluded sound.steady c) concluded
  unfold about at listed ⊢
  rw [List.filter_comm, listed, List.filter_singleton, cond_eq_ite]

/-- Whatever a reply hands over is reported. -/
theorem filter_hands (hears : Bool) (c : Call ο) (now : τ) (reply : Except Fault (Reply ο τ)) :
    (Note.replied c now reply).hands.filter (Reported hears ·.1) =
      (Note.replied c now reply).hands := by
  apply List.filter_eq_self.mpr
  intro h member
  unfold Note.hands at member
  split at member
  · obtain ⟨r, -, rfl⟩ := List.mem_map.mp member
    rfl
  · obtain ⟨r, -, rfl⟩ := List.mem_map.mp member
    rfl
  · next told => cases told
  · cases member

/-- An account of a desk while the calls in progress owe some requests. -/
structure Kept (hears : Bool) (owed : List (Fate × Request ο τ)) (d : Desk ο τ) : Prop where
  sound : ∀ t ∈ d.moments, t.Sound
  final : d.moments.Pairwise KeepsFates
  answered : ∀ entry ∈ d.journal, Answered entry
  handed : ∀ r fate, (r, fate) ∈ d.tracker.history →
    about r (d.handed ++ owed) = if Reported hears fate then [(fate, r)] else []
  known : ∀ h ∈ d.handed ++ owed, h.2 ∈ d.tracker.requests

namespace Kept
variable {hears : Bool}
variable {owed : List (Fate × Request ο τ)}
variable {d : Desk ο τ}

theorem sound_tracker (kept : Kept hears owed d) : d.tracker.Sound :=
  kept.sound _ (List.mem_append_right _ (List.mem_singleton_self _))

theorem keepsFates (kept : Kept hears owed d) {t : Tracker ο τ} (earlier : t ∈ d.moments) :
    KeepsFates t d.tracker := by
  rcases List.mem_append.mp earlier with noted | now
  · exact (List.pairwise_append.mp kept.final).2.2 t noted _ (List.mem_singleton_self _)
  · rw [List.mem_singleton.mp now]
    exact KeepsFates.refl _

theorem empty (timeToLive : τ) :
    Kept hears [] ({ tracker := { timeToLive } } : Desk ο τ) where
  sound t member := by
    rw [List.mem_singleton.mp member]
    exact Tracker.Sound.empty timeToLive
  final := List.pairwise_singleton _ _
  answered := by simp
  handed := by simp
  known := by simp [Desk.handed]

/-- What a note hands over is owed no more. -/
theorem write
    {n : Note ο τ}
    (kept : Kept hears (n.hands ++ owed) d)
    (answered : Answered (n, d.tracker)) :
    Kept hears owed (d.write n) where
  sound t member := by
    rw [moments_write, List.mem_append, List.mem_singleton] at member
    rcases member with earlier | rfl
    · exact kept.sound t earlier
    · exact kept.sound_tracker
  final := by
    rw [moments_write, List.pairwise_append]
    refine ⟨kept.final, List.pairwise_singleton _ _, ?_⟩
    intro t earlier u now
    rw [List.mem_singleton.mp now]
    exact kept.keepsFates earlier
  answered entry member := by
    rcases List.mem_append.mp member with earlier | now
    · exact kept.answered entry earlier
    · rw [List.mem_singleton.mp now]
      exact answered
  handed r fate entry := by
    rw [handed_write, List.append_assoc]
    exact kept.handed r fate entry
  known h member := by
    rw [handed_write, List.append_assoc] at member
    exact kept.known h member

variable [Sub τ] [LE τ] [DecidableLE τ]

omit [Sub τ] [LE τ] [DecidableLE τ] in
/-- Live requests are neither handed over nor owed. -/
theorem about_of_live
    (kept : Kept hears owed d)
    {r : Request ο τ}
    (live : r ∈ d.tracker.live) :
    about r (d.handed ++ owed) = [] :=
  kept.handed r .pending ((kept.sound_tracker.mem_live r).mp live)

theorem known_outcome
    (kept : Kept hears owed d)
    (now : τ)
    (c : Call ο)
    (h : Fate × Request ο τ)
    (member : h ∈ d.handed ++ ((c.concluded d.tracker now).filter (Reported hears ·.1) ++ owed)) :
    h.2 ∈ d.tracker.requests := by
  rw [List.mem_append, List.mem_append] at member
  rcases member with handed | concluded | owes
  · exact kept.known h (List.mem_append_left _ handed)
  · have live := live_of_mem_concluded kept.sound_tracker.steady (List.mem_of_mem_filter concluded)
    have pending := (kept.sound_tracker.mem_live h.2).mp live
    exact List.mem_map.mpr ⟨_, pending, rfl⟩
  · exact kept.known h (List.mem_append_right _ owes)

/-- What a call concludes comes to be owed, as far as it is reported. -/
theorem outcome (kept : Kept hears owed d) (now : τ) (c : Call ο) :
    Kept hears ((c.concluded d.tracker now).filter (Reported hears ·.1) ++ owed)
      { d with tracker := (c.outcome d.tracker now).tracker } where
  sound t member := by
    rcases List.mem_append.mp member with earlier | current
    · exact kept.sound t (List.mem_append_left _ earlier)
    · rw [List.mem_singleton.mp current]
      exact sound_outcome kept.sound_tracker c
  final := by
    apply List.pairwise_append.mpr
    refine ⟨(List.pairwise_append.mp kept.final).1, List.pairwise_singleton _ _, ?_⟩
    intro t earlier u current
    rw [List.mem_singleton.mp current]
    exact (kept.keepsFates (List.mem_append_left _ earlier)).trans
      (keepsFates_outcome kept.sound_tracker c)
  answered := kept.answered
  handed r fate entry := by
    have sound := kept.sound_tracker
    change about r (d.handed ++ (_ ++ owed)) = _
    rw [about_append, about_append]
    rcases (mem_history_outcome sound.steady).mp entry with concluded | ⟨old, apart⟩ | ⟨made, rfl⟩
    · -- The request was live, so it was neither handed over nor owed.
      have fresh := kept.about_of_live (live_of_mem_concluded sound.steady concluded)
      rw [about_append, List.append_eq_nil_iff] at fresh
      rw [fresh.1, fresh.2, about_concluded sound concluded, List.nil_append, List.append_nil]
    · have unchanged := kept.handed r fate old
      have untouched : about r ((c.concluded d.tracker now).filter (Reported hears ·.1)) = [] := by
        apply about_eq_nil
        intro h member same
        have concluded := List.mem_of_mem_filter member
        have pending := (sound.mem_live h.2).mp (live_of_mem_concluded sound.steady concluded)
        have equal := (Prod.mk.inj (sound.numbered.eq_of_serial_eq pending old same)).1
        exact apart h.1 (equal ▸ concluded)
      rw [about_append] at unchanged
      rw [untouched, List.nil_append, unchanged]
    · rw [← about_append, ← about_append, about_eq_nil]
      · rfl
      intro h member
      exact Nat.ne_of_lt (serial_lt_of_made? sound.steady (kept.known_outcome now c h member) made)
  known h member := by
    rw [requests_outcome]
    exact List.mem_append_left _ (kept.known_outcome now c h member)

/-- The announcements of expired requests settle what is owed for them. -/
theorem tells
    {reaction : Request ο τ → Plan ο τ}
    {rs : List (Request ο τ)}
    (kept : Kept hears ((rs.map (Prod.mk .expired)).filter (Reported hears ·.1) ++ owed) d)
    (reacts : ∀ r owed d, Kept hears owed d →
      Kept hears owed (((reaction r).perform hears).after d)) :
    Kept hears owed (rs.foldl (tell (hearing hears reaction)) d) := by
  induction rs generalizing d with
  | nil => exact kept
  | cons r rest ih =>
      rw [List.foldl_cons, tell_hearing]
      cases hears with
      | false => exact ih kept
      | true =>
          have begun : Kept true ((rest.map (Prod.mk .expired)).filter (Reported true ·.1) ++ owed)
              (d.write (.told r)) := Kept.write (n := .told r) kept trivial
          exact ih (reacts r _ _ begun)

/-- The account is kept by whatever is planned. -/
theorem perform (plan : Plan ο τ) (kept : Kept hears owed d) :
    Kept hears owed ((plan.perform hears).after d) := by
  induction plan generalizing owed d with
  | stop ending =>
      rw [after_stop]
      exact kept
  | call c now reaction next reacts continues =>
      rw [after_call]
      apply continues
      -- What the call owes is settled first by the announcements, and the rest by its reply.
      have concluded := kept.outcome now c
      rw [Call.concluded, List.filter_append, List.append_assoc, filter_hands] at concluded
      have told := concluded.tells fun r _ _ => reacts r
      apply told.write
      -- Only a call that announces nothing is answered from the tracker.
      cases c with
      | get | contains | size => rfl
      | put | resolve | expire => exact ⟨_, rfl⟩

end Kept

/-! ### The account of a whole plan -/

section
variable [Sub τ] [LE τ] [DecidableLE τ]

omit [Sub τ] [LE τ] [DecidableLE τ] in
theorem Desk.Noted.write
    {d : Desk ο τ}
    (noted : d.Noted)
    {n : Note ο τ}
    (silent : n.made? = none) :
    (d.write n).Noted := by
  have unnoted : [(n, d.tracker)].filterMap (·.1.made?) = [] := by
    simpa using silent
  unfold Desk.Noted Desk.write at *
  rw [noted, List.filterMap_append, unnoted, List.append_nil]

/-- All requests that are put in are noted. -/
theorem Desk.Noted.perform
    (hears : Bool)
    (plan : Plan ο τ)
    {d : Desk ο τ}
    (noted : d.Noted) :
    ((plan.perform hears).after d).Noted := by
  induction plan generalizing d with
  | stop ending =>
      rw [after_stop]
      exact noted
  | call c now reaction next reacts continues =>
      have tells (rs : List (Request ο τ)) {d : Desk ο τ} (noted : d.Noted) :
          (rs.foldl (tell (hearing hears reaction)) d).Noted := by
        induction rs generalizing d with
        | nil => exact noted
        | cons r rest ih =>
            apply ih
            rw [tell_hearing]
            split
            · exact reacts r (noted.write rfl)
            · exact noted
      rw [after_call]
      apply continues
      cases c with
      | put key subject =>
          unfold Desk.Noted at noted ⊢
          change (((Call.put key subject).outcome d.tracker now).tracker.requests.map _) =
            (d.journal ++ [_]).filterMap _
          rw [requests_outcome, List.map_append, noted, List.filterMap_append]
          rfl
      | resolve | expire | get | contains | size =>
          refine Desk.Noted.write (tells _ ?_) rfl
          unfold Desk.Noted at noted ⊢
          rw [requests_outcome]
          simpa [Call.made?] using noted

/--
After a plan, every request is found as long as it is pending, and was handed over once if its fate
is reported: its fate has not changed since it became final.
-/
theorem accounted_perform (timeToLive : τ) (hears : Bool) (plan : Plan ο τ) :
    Accounted hears ((plan.perform hears).after { tracker := { timeToLive } }) := by
  have opened : Kept hears [] ({ tracker := { timeToLive } } : Desk ο τ) :=
    .empty timeToLive
  have kept := opened.perform plan
  have sound := kept.sound_tracker
  have handed r fate entry := kept.handed r fate entry
  rw [List.append_nil] at handed
  have known h member := kept.known h (List.mem_append_left _ member)
  refine ⟨kept.sound, kept.final, kept.answered, Desk.Noted.perform hears plan rfl, ?_, handed,
    known, ?_⟩
  · intro r fate entry
    rw [sound.get?_eq_some_iff, and_iff_left rfl]
    exact sound.mem_live_iff_of_entry entry
  · intro r resolved expired
    obtain ⟨⟨r, fate⟩, entry, rfl⟩ := List.mem_map.mp (known _ resolved)
    have first : (Fate.resolved, r) ∈ about r _ := List.mem_filter.mpr ⟨resolved, by simp⟩
    have second : (Fate.expired, r) ∈ about r _ := List.mem_filter.mpr ⟨expired, by simp⟩
    rw [handed r fate entry] at first second
    split at first
    · next reported =>
      rw [if_pos reported] at second
      have same := (List.mem_singleton.mp first).trans (List.mem_singleton.mp second).symm
      cases same
    · cases first

-- Whoever hears of a request makes it anew and fails.  The sweep still tells of the next one.
example :
    let retry (r : Request Unit Int) : Plan Unit Int :=
      .call (.put r.key ()) 21 (fun _ => .stop (.ok ())) fun _ => .stop (.error .notNumeric)
    let plan : Plan Unit Int :=
      .call (.put ⟨[1]⟩ ()) 0 retry fun _ => .call (.put ⟨[2]⟩ ()) 0 retry fun _ =>
        .call .expire 20 retry fun _ => .stop (.ok ())
    let d := (plan.perform true).after { tracker := { timeToLive := 20 } }
    d.handed.map (fun h => (h.1, h.2.serial)) = [(.expired, 0), (.expired, 1)] ∧
      d.tracker.live.map (·.serial) = [2, 3] := by
  decide

end
end Usage
end LineTerminal
