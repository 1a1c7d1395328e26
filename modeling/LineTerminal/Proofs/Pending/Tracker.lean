import LineTerminal.Pending.Tracker
import Mathlib.Data.List.Nodup
import Mathlib.Data.List.Perm.Subperm

/-!
# Sound trackers

A tracker is sound when its requests are numbered in order and its live requests are exactly those
that are still pending, each under a key of its own.  All operations keep a tracker sound, and what
they do to the history comes down to two changes: an entry gets another fate, or a pending entry is
added at the end.
-/

namespace LineTerminal
namespace Tracker
variable {ο τ : Type}

/-- The requests of a tracker are numbered in order. -/
def Numbered (t : Tracker ο τ) : Prop :=
  t.history.map (·.1.serial) = List.range t.history.length

/-- What holds of a tracker that is only changed by its operations. -/
structure Sound (t : Tracker ο τ) : Prop where
  /-- The requests are numbered in order. -/
  numbered : t.Numbered
  /-- The live requests are those that are pending. -/
  mem_live : ∀ r, r ∈ t.live ↔ (r, Fate.pending) ∈ t.history
  /-- No two live requests are for the same key. -/
  keys_nodup : (t.live.map (·.key)).Nodup

/-- What holds of a tracker even when live requests are taken out of it without a fate. -/
structure Steady (t : Tracker ο τ) : Prop where
  /-- The requests are numbered in order. -/
  numbered : t.Numbered
  /-- A live request is pending. -/
  pending : ∀ r ∈ t.live, (r, Fate.pending) ∈ t.history
  /-- No two live requests are for the same key. -/
  keys_nodup : (t.live.map (·.key)).Nodup

theorem Sound.steady {t : Tracker ο τ} (sound : t.Sound) : t.Steady where
  numbered := sound.numbered
  pending r := (sound.mem_live r).mp
  keys_nodup := sound.keys_nodup

/-- All requests ever made, in order. -/
def requests (t : Tracker ο τ) : List (Request ο τ) := t.history.map (·.1)

/-- A tracker without requests is sound. -/
theorem Sound.empty (timeToLive : τ) : ({ timeToLive } : Tracker ο τ).Sound where
  numbered := rfl
  mem_live := by simp
  keys_nodup := List.nodup_nil

/-! ### Live requests -/

/-- A request that is found is live and has the key. -/
theorem mem_of_get?
    {t : Tracker ο τ}
    {key : GroupKey}
    {r : Request ο τ}
    (found : t.get? key = some r) :
    r ∈ t.live ∧ r.key = key := by
  have matched := List.find?_some found
  exact ⟨List.mem_of_find?_eq_some found, of_decide_eq_true matched⟩

/-- No live request has a key for which none is found. -/
theorem key_ne_of_get?_eq_none
    {t : Tracker ο τ}
    {key : GroupKey}
    (missing : t.get? key = none)
    {r : Request ο τ}
    (live : r ∈ t.live) :
    r.key ≠ key := by
  have unmatched := List.find?_eq_none.mp missing r live
  simpa using unmatched

/-- No request is found under a key that was taken out. -/
theorem get?_erase (t : Tracker ο τ) (key : GroupKey) : (t.erase key).get? key = none := by
  simp [get?, erase]

variable {t : Tracker ο τ}

theorem Numbered.nodup (numbered : t.Numbered) : (t.history.map (·.1.serial)).Nodup := by
  rw [numbered]
  exact List.nodup_range

/-- Entries with the same number are the same. -/
theorem Numbered.eq_of_serial_eq
    (numbered : t.Numbered)
    {entry other : Request ο τ × Fate}
    (first : entry ∈ t.history)
    (second : other ∈ t.history)
    (same : entry.1.serial = other.1.serial) :
    entry = other :=
  List.inj_on_of_nodup_map numbered.nodup first second same

namespace Steady

/-- Live requests with the same key are the same. -/
theorem eq_of_key_eq
    (steady : t.Steady)
    {q r : Request ο τ}
    (first : q ∈ t.live)
    (second : r ∈ t.live)
    (same : q.key = r.key) :
    q = r :=
  List.inj_on_of_nodup_map steady.keys_nodup first second same

/-- The request that is found under a key is the live one with this key. -/
theorem get?_eq_some_iff
    (steady : t.Steady)
    {key : GroupKey}
    {r : Request ο τ} :
    t.get? key = some r ↔ r ∈ t.live ∧ r.key = key := by
  constructor
  · exact mem_of_get?
  · rintro ⟨live, rfl⟩
    cases found : t.get? r.key with
    | none => exact absurd rfl (key_ne_of_get?_eq_none found live)
    | some q =>
        obtain ⟨member, same⟩ := mem_of_get? found
        rw [steady.eq_of_key_eq member live same]

/-- A request that is found is pending. -/
theorem pending_of_get?
    (steady : t.Steady)
    {key : GroupKey}
    {r : Request ο τ}
    (found : t.get? key = some r) :
    (r, Fate.pending) ∈ t.history :=
  steady.pending r (mem_of_get? found).1

end Steady

namespace Sound

theorem get?_eq_some_iff
    (sound : t.Sound)
    {key : GroupKey}
    {r : Request ο τ} :
    t.get? key = some r ↔ r ∈ t.live ∧ r.key = key :=
  sound.steady.get?_eq_some_iff

theorem pending_of_get?
    (sound : t.Sound)
    {key : GroupKey}
    {r : Request ο τ}
    (found : t.get? key = some r) :
    (r, Fate.pending) ∈ t.history :=
  sound.steady.pending_of_get? found

/-- A request is live as long as its fate is open. -/
theorem mem_live_iff_of_entry
    (sound : t.Sound)
    {r : Request ο τ}
    {fate : Fate}
    (entry : (r, fate) ∈ t.history) :
    r ∈ t.live ↔ fate = .pending := by
  rw [sound.mem_live]
  constructor
  · intro pending
    exact (Prod.mk.inj (sound.numbered.eq_of_serial_eq entry pending rfl)).2
  · rintro rfl
    exact entry

end Sound

/-! ### A change of fate -/

/-- The entries after a request gets another fate. -/
theorem mem_settle
    {r q : Request ο τ}
    {fate f : Fate} :
    (q, f) ∈ (t.settle r fate).history ↔
      ∃ old, (q, old) ∈ t.history ∧ f = if q.serial = r.serial then fate else old := by
  simp only [settle, List.mem_map, Prod.exists, Prod.mk.injEq]
  constructor
  · rintro ⟨p, old, entry, rfl, rfl⟩
    exact ⟨old, entry, rfl⟩
  · rintro ⟨old, entry, rfl⟩
    exact ⟨q, old, entry, rfl, rfl⟩

/-- An entry with another fate than a settled one has not changed. -/
theorem mem_of_mem_settle
    {r q : Request ο τ}
    {fate f : Fate}
    (other : f ≠ fate)
    (entry : (q, f) ∈ (t.settle r fate).history) :
    (q, f) ∈ t.history := by
  obtain ⟨old, earlier, same⟩ := mem_settle.mp entry
  split at same
  · exact absurd same other
  · rwa [same]

@[simp] theorem requests_settle (r : Request ο τ) (fate : Fate) :
    (t.settle r fate).requests = t.requests := by
  simp [requests, settle, Function.comp_def]

@[simp] theorem length_history_settle (r : Request ο τ) (fate : Fate) :
    (t.settle r fate).history.length = t.history.length := by
  simp [settle]

/-- A change of fate keeps the numbers. -/
theorem Numbered.settle
    (numbered : t.Numbered)
    (r : Request ο τ)
    (fate : Fate) :
    (t.settle r fate).Numbered := by
  have same := congrArg (List.map (·.serial)) (requests_settle (t := t) r fate)
  simp only [requests, List.map_map, Function.comp_def] at same
  rw [Numbered, same, length_history_settle]
  exact numbered

/-- Entries with other numbers keep their fates. -/
theorem map_settle_of_ne
    {r : Request ο τ}
    (fate : Fate)
    {entries : List (Request ο τ × Fate)}
    (apart : ∀ entry ∈ entries, entry.1.serial ≠ r.serial) :
    (entries.map fun (q, f) => (q, if q.serial = r.serial then fate else f)) = entries := by
  induction entries with
  | nil => rfl
  | cons entry rest ih =>
      obtain ⟨q, f⟩ := entry
      have first : q.serial ≠ r.serial := apart (q, f) List.mem_cons_self
      have later := ih fun entry member => apart entry (List.mem_cons_of_mem _ member)
      simp only [List.map_cons, if_neg first, later]

/-- One entry changes when a request of the history gets another fate. -/
theorem Numbered.settle_split
    (numbered : t.Numbered)
    {r : Request ο τ}
    {old : Fate}
    (made : (r, old) ∈ t.history)
    (fate : Fate) :
    ∃ earlier later,
      t.history = earlier ++ (r, old) :: later ∧
      (t.settle r fate).history = earlier ++ (r, fate) :: later := by
  obtain ⟨earlier, later, split⟩ := List.append_of_mem made
  have nodup := numbered.nodup
  rw [split] at nodup
  simp only [List.map_append, List.map_cons, List.nodup_append, List.nodup_cons, List.mem_map,
    List.mem_cons] at nodup
  obtain ⟨-, ⟨later_ne, -⟩, earlier_ne⟩ := nodup
  refine ⟨earlier, later, split, ?_⟩
  have kept_earlier : ∀ entry ∈ earlier, entry.1.serial ≠ r.serial := by
    intro entry member
    exact earlier_ne _ ⟨entry, member, rfl⟩ _ (.inl rfl)
  have kept_later : ∀ entry ∈ later, entry.1.serial ≠ r.serial := by
    intro entry member same
    exact later_ne ⟨entry, member, same⟩
  simp only [Tracker.settle, split, List.map_append, List.map_cons, if_true]
  rw [map_settle_of_ne fate kept_earlier, map_settle_of_ne fate kept_later]

/-- A request of the history gets another fate, and all others keep theirs. -/
theorem Numbered.mem_settle_iff
    (numbered : t.Numbered)
    {q r : Request ο τ}
    {old fate f : Fate}
    (made : (r, old) ∈ t.history) :
    (q, f) ∈ (t.settle r fate).history ↔
      q = r ∧ f = fate ∨ q ≠ r ∧ (q, f) ∈ t.history := by
  rw [mem_settle]
  constructor
  · rintro ⟨earlier, entry, rfl⟩
    by_cases same : q.serial = r.serial
    · have equal := numbered.eq_of_serial_eq entry made same
      exact .inl ⟨congrArg Prod.fst equal, if_pos same⟩
    · refine .inr ⟨fun equal => same (congrArg Request.serial equal), ?_⟩
      rwa [if_neg same]
  · rintro (⟨rfl, rfl⟩ | ⟨other, entry⟩)
    · exact ⟨old, made, (if_pos rfl).symm⟩
    · refine ⟨f, entry, (if_neg fun same => other ?_).symm⟩
      exact congrArg Prod.fst (numbered.eq_of_serial_eq entry made same)

/-! ### New requests -/

/-- A request that is put takes the place of another one, or is added. -/
theorem place_subperm (r : Request ο τ) (live : List (Request ο τ)) :
    (place r live).Subperm (r :: live) := by
  induction live with
  | nil => exact .refl _
  | cons q rest ih =>
      unfold place
      split
      · exact ((List.sublist_cons_self q rest).cons_cons r).subperm
      · exact ((List.subperm_cons q).mpr ih).trans (List.Perm.swap r q rest).subperm

/-- The requests after a request is put in its place. -/
theorem mem_place
    {r q : Request ο τ}
    {live : List (Request ο τ)}
    (keys_nodup : (live.map (·.key)).Nodup) :
    q ∈ place r live ↔ q = r ∨ q ∈ live ∧ q.key ≠ r.key := by
  induction live with
  | nil => simp [place]
  | cons p rest ih =>
      simp only [List.map_cons, List.nodup_cons, List.mem_map, not_exists, not_and] at keys_nodup
      obtain ⟨apart, keys_nodup⟩ := keys_nodup
      unfold place
      split
      · next same =>
        have kept : q ∈ rest → q.key ≠ r.key := by
          intro member
          rw [← same]
          exact apart q member
        grind
      · next other =>
        rw [List.mem_cons, ih keys_nodup]
        grind

/-- The keys after a request is put in its place. -/
theorem map_key_place (r : Request ο τ) (live : List (Request ο τ)) :
    (place r live).map (·.key) =
      if r.key ∈ live.map (·.key) then live.map (·.key) else live.map (·.key) ++ [r.key] := by
  induction live with
  | nil => simp [place]
  | cons p rest ih =>
      unfold place
      by_cases same : p.key = r.key
      · simp [same]
      · rw [if_neg same, List.map_cons, ih]
        have other : r.key ≠ p.key := fun h => same h.symm
        by_cases later : r.key ∈ rest.map (·.key) <;> simp [other, later]

/-- A request that is put in its place is found under its key. -/
theorem find?_place (r : Request ο τ) (live : List (Request ο τ)) :
    (place r live).find? (fun q => q.key = r.key) = some r := by
  induction live with
  | nil => simp [place]
  | cons p rest ih =>
      unfold place
      split
      · simp
      · next other => rw [List.find?_cons_of_neg (by simpa using other), ih]

/-- A new request is the one that is found under its key. -/
theorem get?_put (key : GroupKey) (subject : ο) (now : τ) :
    (t.put key subject now).get? key = some ⟨t.history.length, key, subject, now⟩ :=
  find?_place ⟨t.history.length, key, subject, now⟩ t.live

/-- A new request is added at the end. -/
theorem requests_put (key : GroupKey) (subject : ο) (now : τ) :
    (t.put key subject now).requests =
      t.requests ++ [⟨t.history.length, key, subject, now⟩] := by
  unfold put
  cases t.get? key <;> simp [requests, settle, Function.comp_def]

/-- The history after a request for a key without a live one. -/
theorem history_put_of_get?_eq_none
    {key : GroupKey}
    (missing : t.get? key = none)
    (subject : ο)
    (now : τ) :
    (t.put key subject now).history =
      t.history ++ [(⟨t.history.length, key, subject, now⟩, .pending)] := by
  simp [put, missing]

/-- The history after a request for a key that has a live one. -/
theorem history_put_of_get?_eq_some
    {key : GroupKey}
    {previous : Request ο τ}
    (found : t.get? key = some previous)
    (subject : ο)
    (now : τ) :
    (t.put key subject now).history =
      (t.settle previous .superseded).history ++
        [(⟨t.history.length, key, subject, now⟩, .pending)] := by
  simp [put, found]

/-- An entry with a final fate is not changed by a new request, unless it is superseded. -/
theorem mem_of_mem_put
    {key : GroupKey}
    {subject : ο}
    {now : τ}
    {q : Request ο τ}
    {f : Fate}
    (final : f ≠ .pending)
    (other : f ≠ .superseded)
    (entry : (q, f) ∈ (t.put key subject now).history) :
    (q, f) ∈ t.history := by
  have not_new :
      (q, f) ∉ [((⟨t.history.length, key, subject, now⟩ : Request ο τ), Fate.pending)] := by
    simp [final]
  cases found : t.get? key with
  | none =>
      rw [history_put_of_get?_eq_none found, List.mem_append] at entry
      exact entry.resolve_right not_new
  | some previous =>
      rw [history_put_of_get?_eq_some found, List.mem_append] at entry
      exact mem_of_mem_settle other (entry.resolve_right not_new)

/-- The requests stay numbered when one is made. -/
theorem Numbered.put
    (numbered : t.Numbered)
    (key : GroupKey)
    (subject : ο)
    (now : τ) :
    (t.put key subject now).Numbered := by
  have same := congrArg (List.map (·.serial)) (requests_put (t := t) key subject now)
  have counted := congrArg List.length (requests_put (t := t) key subject now)
  simp only [requests, List.map_map, Function.comp_def, List.map_append, List.map_cons,
    List.map_nil, List.length_map, List.length_append, List.length_cons, List.length_nil]
    at same counted
  rw [Numbered, same, counted, numbered, List.range_succ]

/-- The keys stay different when a request is put in its place. -/
theorem nodup_key_place
    (r : Request ο τ)
    {live : List (Request ο τ)}
    (keys_nodup : (live.map (·.key)).Nodup) :
    ((place r live).map (·.key)).Nodup := by
  rw [map_key_place]
  split
  · exact keys_nodup
  · next fresh =>
    rw [List.nodup_append]
    refine ⟨keys_nodup, List.nodup_singleton _, ?_⟩
    intro k member _ single same
    rw [List.mem_singleton.mp single] at same
    exact fresh (same ▸ member)

/-- The pending entries after a new request. -/
theorem Steady.mem_history_put
    (steady : t.Steady)
    (key : GroupKey)
    (subject : ο)
    (now : τ)
    (q : Request ο τ) :
    (q, Fate.pending) ∈ (t.put key subject now).history ↔
      q = ⟨t.history.length, key, subject, now⟩ ∨
        (q, Fate.pending) ∈ t.history ∧ t.get? key ≠ some q := by
  cases found : t.get? key with
  | none =>
      rw [history_put_of_get?_eq_none found, List.mem_append]
      simp only [List.mem_singleton, Prod.mk.injEq, and_true, ne_eq, reduceCtorEq,
        not_false_eq_true]
      exact or_comm
  | some previous =>
      rw [history_put_of_get?_eq_some found, List.mem_append,
        steady.numbered.mem_settle_iff (steady.pending_of_get? found)]
      simp only [reduceCtorEq, and_false, false_or, List.mem_singleton, Prod.mk.injEq, and_true,
        ne_eq, Option.some.injEq]
      rw [or_comm, and_comm, @eq_comm _ previous]

/-- A tracker stays steady when a request is made. -/
theorem Steady.put
    (steady : t.Steady)
    (key : GroupKey)
    (subject : ο)
    (now : τ) :
    (t.put key subject now).Steady where
  numbered := steady.numbered.put key subject now
  pending q live := by
    rw [steady.mem_history_put]
    rcases (mem_place steady.keys_nodup).mp live with made | ⟨member, other⟩
    · exact .inl made
    · exact .inr ⟨steady.pending q member, fun found => other (mem_of_get? found).2⟩
  keys_nodup := nodup_key_place _ steady.keys_nodup

/-- A tracker stays sound when a request is made. -/
theorem Sound.put
    (sound : t.Sound)
    (key : GroupKey)
    (subject : ο)
    (now : τ) :
    (t.put key subject now).Sound where
  numbered := sound.numbered.put key subject now
  mem_live q := by
    rw [sound.steady.mem_history_put, ← sound.mem_live, ne_eq, sound.get?_eq_some_iff]
    exact (mem_place sound.keys_nodup).trans (by tauto)
  keys_nodup := nodup_key_place _ sound.keys_nodup

/-! ### Requests that are concluded -/

theorem mem_live_erase
    {key : GroupKey}
    {q : Request ο τ} :
    q ∈ (t.erase key).live ↔ q ∈ t.live ∧ q.key ≠ key := by
  simp [erase]

/-- A tracker stays steady when a request is taken out. -/
theorem Steady.erase (steady : t.Steady) (key : GroupKey) : (t.erase key).Steady where
  numbered := steady.numbered
  pending q live := steady.pending q (List.mem_of_mem_filter live)
  keys_nodup := steady.keys_nodup.sublist (List.filter_sublist.map _)

/-- The pending entries after a live request has got a final fate. -/
theorem Steady.mem_history_conclude
    (steady : t.Steady)
    {key : GroupKey}
    {r q : Request ο τ}
    (found : t.get? key = some r)
    {fate : Fate}
    (final : fate ≠ .pending) :
    (q, Fate.pending) ∈ ((t.erase key).settle r fate).history ↔
      q ≠ r ∧ (q, Fate.pending) ∈ t.history := by
  have made : (r, Fate.pending) ∈ (t.erase key).history := steady.pending_of_get? found
  rw [(steady.erase key).numbered.mem_settle_iff made]
  simp only [final.symm, and_false, false_or]
  rfl

/-- The live requests after a live request has got a final fate. -/
theorem Steady.mem_live_conclude
    (steady : t.Steady)
    {key : GroupKey}
    {r q : Request ο τ}
    (found : t.get? key = some r)
    (fate : Fate) :
    q ∈ ((t.erase key).settle r fate).live ↔ q ≠ r ∧ q ∈ t.live := by
  have found_iff : t.get? key = some q ↔ _ := steady.get?_eq_some_iff
  rw [found, Option.some.injEq] at found_iff
  change q ∈ (t.erase key).live ↔ _
  rw [mem_live_erase]
  grind

/-- A tracker stays steady when a live request gets a final fate. -/
theorem Steady.conclude
    (steady : t.Steady)
    {key : GroupKey}
    {r : Request ο τ}
    (found : t.get? key = some r)
    {fate : Fate}
    (final : fate ≠ .pending) :
    ((t.erase key).settle r fate).Steady where
  numbered := (steady.erase key).numbered.settle r fate
  pending q live := by
    obtain ⟨other, member⟩ := (steady.mem_live_conclude found fate).mp live
    exact (steady.mem_history_conclude found final).mpr ⟨other, steady.pending q member⟩
  keys_nodup := (steady.erase key).keys_nodup

/-- A tracker stays sound when a live request gets a final fate. -/
theorem Sound.conclude
    (sound : t.Sound)
    {key : GroupKey}
    {r : Request ο τ}
    (found : t.get? key = some r)
    {fate : Fate}
    (final : fate ≠ .pending) :
    ((t.erase key).settle r fate).Sound where
  numbered := (sound.steady.erase key).numbered.settle r fate
  mem_live q := by
    rw [sound.steady.mem_live_conclude found, sound.steady.mem_history_conclude found final,
      sound.mem_live]
  keys_nodup := (sound.steady.erase key).keys_nodup

/-! ### Sweeps -/

/-- Notes that several requests have expired. -/
def expireAll (t : Tracker ο τ) (rs : List (Request ο τ)) : Tracker ο τ :=
  rs.foldl (fun u r => u.settle r .expired) t

@[simp] theorem requests_expireAll (rs : List (Request ο τ)) :
    (t.expireAll rs).requests = t.requests := by
  induction rs generalizing t with
  | nil => rfl
  | cons r rest ih => exact ih.trans (requests_settle r .expired)

theorem Numbered.expireAll
    (numbered : t.Numbered)
    (rs : List (Request ο τ)) :
    (t.expireAll rs).Numbered := by
  induction rs generalizing t with
  | nil => exact numbered
  | cons r rest ih => exact ih (numbered.settle r .expired)

/-- The entries after several requests have expired. -/
theorem mem_expireAll
    {rs : List (Request ο τ)}
    {q : Request ο τ}
    {f : Fate} :
    (q, f) ∈ (t.expireAll rs).history ↔
      ∃ old, (q, old) ∈ t.history ∧
        f = if ∃ r ∈ rs, q.serial = r.serial then .expired else old := by
  induction rs generalizing t with
  | nil => simp [expireAll]
  | cons r rest ih =>
      change (q, f) ∈ ((t.settle r .expired).expireAll rest).history ↔ _
      rw [ih]
      simp only [mem_settle, List.mem_cons, exists_eq_or_imp]
      constructor
      · rintro ⟨_, ⟨old, entry, rfl⟩, rfl⟩
        refine ⟨old, entry, ?_⟩
        by_cases first : q.serial = r.serial <;> simp [first]
      · rintro ⟨old, entry, rfl⟩
        refine ⟨_, ⟨old, entry, rfl⟩, ?_⟩
        by_cases first : q.serial = r.serial <;> simp [first]

/-- Some requests of the history expire, and all others keep their fates. -/
theorem Numbered.mem_expireAll_iff
    (numbered : t.Numbered)
    {rs : List (Request ο τ)}
    (made : ∀ r ∈ rs, ∃ old, (r, old) ∈ t.history)
    {q : Request ο τ}
    {f : Fate} :
    (q, f) ∈ (t.expireAll rs).history ↔
      q ∈ rs ∧ f = .expired ∨ q ∉ rs ∧ (q, f) ∈ t.history := by
  have serial_iff {old : Fate} (entry : (q, old) ∈ t.history) :
      (∃ r ∈ rs, q.serial = r.serial) ↔ q ∈ rs := by
    constructor
    · rintro ⟨r, member, same⟩
      obtain ⟨before, there⟩ := made r member
      obtain ⟨rfl, -⟩ := Prod.mk.inj (numbered.eq_of_serial_eq entry there same)
      exact member
    · exact fun member => ⟨q, member, rfl⟩
  rw [mem_expireAll]
  constructor
  · rintro ⟨old, entry, rfl⟩
    by_cases member : q ∈ rs
    · exact .inl ⟨member, if_pos ((serial_iff entry).mpr member)⟩
    · refine .inr ⟨member, ?_⟩
      rwa [if_neg (mt (serial_iff entry).mp member)]
  · rintro (⟨member, rfl⟩ | ⟨apart, entry⟩)
    · obtain ⟨old, entry⟩ := made q member
      exact ⟨old, entry, (if_pos ((serial_iff entry).mpr member)).symm⟩
    · exact ⟨f, entry, (if_neg (mt (serial_iff entry).mp apart)).symm⟩

/-- An entry that has not expired has not changed when several requests expire. -/
theorem mem_of_mem_expireAll
    {rs : List (Request ο τ)}
    {q : Request ο τ}
    {f : Fate}
    (other : f ≠ .expired)
    (entry : (q, f) ∈ (t.expireAll rs).history) :
    (q, f) ∈ t.history := by
  obtain ⟨old, earlier, same⟩ := mem_expireAll.mp entry
  split at same
  · exact absurd same other
  · rwa [same]

variable [Sub τ] [LE τ] [DecidableLE τ]

/-- The history after a sweep. -/
theorem history_sweep (now : τ) :
    (t.sweep now).history = (t.expireAll (t.due now)).history := rfl

/-- The requests whose time has elapsed are live. -/
theorem mem_due
    {now : τ}
    {r : Request ο τ} :
    r ∈ t.due now ↔ r ∈ t.live ∧ t.Due now r := by
  simp [due]

/-- The requests whose time has elapsed are pending. -/
theorem Steady.pending_of_mem_due
    (steady : t.Steady)
    {now : τ}
    {r : Request ο τ}
    (due : r ∈ t.due now) :
    (r, Fate.pending) ∈ t.history :=
  steady.pending r (mem_due.mp due).1

/-- The requests whose time has elapsed have different numbers. -/
theorem Steady.nodup_serial_due (steady : t.Steady) (now : τ) :
    ((t.due now).map (·.serial)).Nodup := by
  have live : t.live.Nodup := List.Nodup.of_map _ steady.keys_nodup
  refine List.Nodup.map_on ?_ (live.sublist List.filter_sublist)
  intro q first r second same
  have equal := steady.numbered.eq_of_serial_eq (steady.pending_of_mem_due first)
    (steady.pending_of_mem_due second) same
  exact (Prod.mk.inj equal).1

/-- The pending entries after a sweep. -/
theorem Steady.mem_history_sweep
    (steady : t.Steady)
    {now : τ}
    {q : Request ο τ} :
    (q, Fate.pending) ∈ (t.sweep now).history ↔
      q ∉ t.due now ∧ (q, Fate.pending) ∈ t.history := by
  rw [history_sweep, steady.numbered.mem_expireAll_iff fun r due =>
    ⟨.pending, steady.pending_of_mem_due due⟩]
  simp

/-- The live requests after a sweep. -/
theorem mem_live_sweep
    {now : τ}
    {q : Request ο τ} :
    q ∈ (t.sweep now).live ↔ q ∉ t.due now ∧ q ∈ t.live := by
  simp only [Tracker.sweep, List.mem_filter, decide_eq_true_eq, mem_due]
  tauto

/-- A tracker stays steady when it is swept. -/
theorem Steady.sweep
    (steady : t.Steady)
    (now : τ) :
    (t.sweep now).Steady where
  numbered := steady.numbered.expireAll (t.due now)
  pending q live := by
    obtain ⟨early, member⟩ := mem_live_sweep.mp live
    exact steady.mem_history_sweep.mpr ⟨early, steady.pending q member⟩
  keys_nodup := steady.keys_nodup.sublist (List.filter_sublist.map _)

/-- A tracker stays sound when it is swept. -/
theorem Sound.sweep
    (sound : t.Sound)
    (now : τ) :
    (t.sweep now).Sound where
  numbered := sound.numbered.expireAll (t.due now)
  mem_live q := by
    rw [mem_live_sweep, sound.steady.mem_history_sweep, sound.mem_live]
  keys_nodup := (sound.steady.sweep now).keys_nodup

end Tracker

/-! ### Growth -/

/--
A later tracker keeps all requests of an earlier one.  Unless requests were made in between, only
requests that were live earlier are live.
-/
structure Tracker.Grows {ο τ : Type} (t u : Tracker ο τ) : Prop where
  timeToLive : u.timeToLive = t.timeToLive
  requests : t.requests ⊆ u.requests
  live : t.history.length < u.history.length ∨
    u.history.length = t.history.length ∧ u.live ⊆ t.live

namespace Tracker.Grows
variable {ο τ : Type} {t u v : Tracker ο τ}

theorem refl (t : Tracker ο τ) : t.Grows t :=
  ⟨rfl, List.Subset.refl _, .inr ⟨rfl, List.Subset.refl _⟩⟩

theorem trans (first : t.Grows u) (second : u.Grows v) : t.Grows v where
  timeToLive := second.timeToLive.trans first.timeToLive
  requests := List.Subset.trans first.requests second.requests
  live := by
    rcases first.live with longer | ⟨same, fewer⟩
    · rcases second.live with longer' | ⟨same', -⟩
      · exact .inl (Nat.lt_trans longer longer')
      · exact .inl (same' ▸ longer)
    · rcases second.live with longer' | ⟨same', fewer'⟩
      · exact .inl (same ▸ longer')
      · exact .inr ⟨same'.trans same, List.Subset.trans fewer' fewer⟩

/-- A tracker grows when its entries only change their fates, and no request becomes live. -/
theorem of_requests
    (timeToLive : u.timeToLive = t.timeToLive)
    (requests : u.requests = t.requests)
    (live : u.live ⊆ t.live) :
    t.Grows u where
  timeToLive := timeToLive
  requests := requests ▸ List.Subset.refl _
  live := by
    have counted := congrArg List.length requests
    rw [Tracker.requests, Tracker.requests, List.length_map, List.length_map] at counted
    exact .inr ⟨counted, live⟩

theorem put (t : Tracker ο τ) (key : GroupKey) (subject : ο) (now : τ) :
    t.Grows (t.put key subject now) where
  timeToLive := by
    unfold Tracker.put
    cases t.get? key <;> rfl
  requests := by
    rw [requests_put]
    exact List.subset_append_left _ _
  live := by
    have counted := congrArg List.length (requests_put (t := t) key subject now)
    simp only [Tracker.requests, List.length_map, List.length_append, List.length_singleton]
      at counted
    exact .inl (by omega)

theorem erase (t : Tracker ο τ) (key : GroupKey) : t.Grows (t.erase key) :=
  of_requests rfl rfl List.filter_sublist.subset

theorem settle (t : Tracker ο τ) (r : Request ο τ) (fate : Fate) : t.Grows (t.settle r fate) :=
  of_requests rfl (requests_settle r fate) (List.Subset.refl _)

theorem expireAll (t : Tracker ο τ) (rs : List (Request ο τ)) : t.Grows (t.expireAll rs) := by
  induction rs generalizing t with
  | nil => exact refl t
  | cons r rest ih => exact (settle t r .expired).trans (ih _)

theorem sweep [Sub τ] [LE τ] [DecidableLE τ] (t : Tracker ο τ) (now : τ) :
    t.Grows (t.sweep now) :=
  of_requests (expireAll t (t.due now)).timeToLive (requests_expireAll (t.due now))
    List.filter_sublist.subset

end Tracker.Grows
end LineTerminal
