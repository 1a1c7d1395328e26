import LineTerminal.Proofs.Pending.Keeper
import LineTerminal.Proofs.Pending.Tracker
import Mathlib.Algebra.Order.Group.Defs
import Mathlib.Algebra.Order.Monoid.Unbundled.Pow
import Mathlib.Algebra.Group.Int.Defs
import Mathlib.Algebra.Order.Group.Int

/-!
# How the sweeper ends

Before each round the sweeper looks whether it was stopped, and a round is a sweep and a pause.  If
it is stopped by a number of pauses, it makes as many rounds, whether the clock can be read or not.
A live request expires in the first round in which its time has elapsed and is told of there, and
what the sweeper leaves is what its last sweep would leave.
-/

namespace LineTerminal

/-! ### Rounds until a stop -/

section
variable {σ ο τ : Type} [Sub τ] [LE τ] [DecidableLE τ]

/-- The sweeper comes from one state to another, where it is stopped. -/
inductive Keeper.Sweeps (k : Keeper σ ο τ) (pause : Act σ Unit) (stopped : σ → Prop) :
    σ → σ → Prop
  /-- It was stopped, so there is no further round. -/
  | stop {s : σ} (halted : stopped s) : k.Sweeps pause stopped s s
  /-- It makes a round and looks again. -/
  | round {s t u : σ} (goes : ¬stopped s) (done : (k.round pause).runIn s = (.ok (), t))
      (rest : k.Sweeps pause stopped t u) : k.Sweeps pause stopped s u

namespace Keeper
variable {k : Keeper σ ο τ}
variable {pause : Act σ Unit}
variable {next : σ → σ}

/-- Rounds that do not fail come one after the other. -/
theorem runIn_rounds
    (each : ∀ s, (k.round pause).runIn s = (.ok (), next s))
    (n : Nat)
    (s : σ) :
    (k.rounds pause n).runIn s = (.ok (), next^[n] s) := by
  induction n generalizing s with
  | zero => rfl
  | succ n ih =>
      unfold rounds
      rw [Act.runIn_bind, each]
      exact ih (next s)

/-- A sweeper that is stopped after a number of rounds has only one end. -/
theorem sweeps_iff
    (each : ∀ s, (k.round pause).runIn s = (.ok (), next s))
    {stopped : σ → Prop}
    {n : Nat}
    {s : σ}
    (goes : ∀ j < n, ¬stopped (next^[j] s))
    (halted : stopped (next^[n] s))
    (u : σ) :
    k.Sweeps pause stopped s u ↔ u = next^[n] s := by
  induction n generalizing s with
  | zero =>
      constructor
      · intro sweeps
        cases sweeps with
        | stop => rfl
        | round goes => exact absurd halted goes
      · rintro rfl
        exact .stop halted
  | succ n ih =>
      have first : ¬stopped s := goes 0 n.succ_pos
      have later := ih (s := next s) (fun j lt => goes (j + 1) (Nat.succ_lt_succ lt)) halted
      constructor
      · intro sweeps
        cases sweeps with
        | stop halted => exact absurd halted first
        | round _ done rest =>
            rw [each] at done
            cases done
            exact later.mp rest
      · intro same
        exact .round first (each s) (later.mpr same)

end Keeper
end

namespace Sweeper
variable {ο τ ρ : Type}

/-! ### A sweeper that is watched -/

/-- What a sweeper is seen to do. -/
inductive Mark (ο τ : Type) where
  /-- It begins a sweep with a reading of the clock. -/
  | swept (reading : Except Fault τ)
  /-- It tells that a request has expired. -/
  | told (r : Request ο τ)
  /-- It pauses. -/
  | paused

/-- A tracker with a sweeper, and whatever belongs to those who hear of expired requests. -/
structure Watch (ο τ ρ : Type) where
  /-- The tracker. -/
  tracker : Tracker ο τ
  /-- The number of pauses so far. -/
  pauses : Nat := 0
  /-- What the sweeper has done, in order. -/
  marks : List (Mark ο τ) := []
  /-- What is not the tracker's. -/
  outside : ρ

/-- Marks what the sweeper does. -/
def mark (m : Mark ο τ) : Act (Watch ο τ ρ) Unit :=
  modify fun w => { w with marks := w.marks ++ [m] }

/-- Does something outside, and fails if it fails. -/
def aside (act : Act ρ Unit) : Act (Watch ο τ ρ) Unit := do
  let w ← get
  set { w with outside := act.after w.outside }
  match (act.runIn w.outside).1 with
  | .ok _ => pure ()
  | .error f => throw f

/-- How the tracker is kept.  The clock tells its reading by the number of pauses. -/
def keeper (clock : Nat → Except Fault τ) (hear : Request ο τ → Act ρ Unit) :
    Keeper (Watch ο τ ρ) ο τ where
  tracker := Watch.tracker
  setTracker t w := { w with tracker := t }
  now := do
    let reading := clock (← get).pauses
    mark (.swept reading)
    match reading with
    | .ok now => pure now
    | .error f => throw f
  identifier _ := .absent
  onExpired := some fun r => do
    mark (.told r)
    aside (hear r)
  log _ := pure ()

/-- Pauses. -/
def pause : Act (Watch ο τ ρ) Unit := do
  mark .paused
  modify fun w => { w with pauses := w.pauses + 1 }

/-- The sweeper was stopped before it began, or so many pauses ago. -/
def Stopped (preset : Bool) (pauses : Nat) (w : Watch ο τ ρ) : Prop :=
  preset = true ∨ pauses ≤ w.pauses

/-- The requests that are told of, in order. -/
def told (marks : List (Mark ο τ)) : List (Request ο τ) :=
  marks.filterMap fun
    | .told r => some r
    | _ => none

theorem told_append (first second : List (Mark ο τ)) :
    told (first ++ second) = told first ++ told second :=
  List.filterMap_append

/-- A round tells of each of its requests. -/
theorem told_round (reading : Except Fault τ) (rs : List (Request ο τ)) :
    told (.swept reading :: rs.map .told ++ [.paused]) = rs := by
  simp [told, List.filterMap_map]

theorem after_aside (act : Act ρ Unit) (w : Watch ο τ ρ) :
    (aside act).after w = { w with outside := act.after w.outside } := by
  unfold aside
  rw [Act.after_get_bind, Act.after_set_bind]
  cases (act.runIn w.outside).1 <;> rfl

/-! ### One round -/

section
variable [Sub τ] [LE τ] [DecidableLE τ]

/-- Whether a request is due at a reading of the clock, if there is one. -/
def dueAt (t : Tracker ο τ) (r : Request ο τ) : Except Fault τ → Bool
  | .ok now => t.Due now r
  | .error _ => false

/-- The tracker after a sweep, if there is a reading of the clock. -/
def sweepAt (t : Tracker ο τ) : Except Fault τ → Tracker ο τ
  | .ok now => t.sweep now
  | .error _ => t

section
variable {t : Tracker ο τ}
variable (reading : Except Fault τ)

theorem timeToLive_sweepAt : (sweepAt t reading).timeToLive = t.timeToLive := by
  cases reading with
  | error f => rfl
  | ok now => exact (Tracker.Grows.sweep t now).timeToLive

theorem live_sweepAt :
    (sweepAt t reading).live = t.live.filter fun r => !dueAt t r reading := by
  cases reading with
  | error f => simp [sweepAt, dueAt]
  | ok now => simp [sweepAt, dueAt, Tracker.sweep]

theorem steady_sweepAt (steady : t.Steady) : (sweepAt t reading).Steady := by
  cases reading with
  | error f => exact steady
  | ok now => exact steady.sweep now

/-- The live requests that are due expire, and all others keep their fates. -/
theorem mem_history_sweepAt
    (steady : t.Steady)
    {r : Request ο τ}
    {fate : Fate} :
    (r, fate) ∈ (sweepAt t reading).history ↔
      (r ∈ t.live ∧ dueAt t r reading = true) ∧ fate = .expired ∨
        ¬(r ∈ t.live ∧ dueAt t r reading = true) ∧ (r, fate) ∈ t.history := by
  cases reading with
  | error f => simp [sweepAt, dueAt]
  | ok now =>
      have member : r ∈ t.due now ↔ r ∈ t.live ∧ dueAt t r (.ok now) = true := by
        rw [Tracker.mem_due, dueAt, decide_eq_true_iff]
      rw [← member]
      exact steady.numbered.mem_expireAll_iff fun _ due => ⟨.pending, steady.pending_of_mem_due due⟩

end

/-- The watch after a round. -/
def Watch.next (clock : Nat → Except Fault τ) (hear : Request ο τ → Act ρ Unit)
    (w : Watch ο τ ρ) : Watch ο τ ρ :=
  let due := w.tracker.live.filter fun r => dueAt w.tracker r (clock w.pauses)
  { tracker := sweepAt w.tracker (clock w.pauses)
    pauses := w.pauses + 1
    marks := w.marks ++ (.swept (clock w.pauses) :: due.map .told ++ [.paused])
    outside := due.foldl (fun o r => (hear r).after o) w.outside }

variable {clock : Nat → Except Fault τ}
variable {hear : Request ο τ → Act ρ Unit}

omit [Sub τ] [LE τ] [DecidableLE τ] in
/-- Each request is told of once, whether whoever hears of it fails or not. -/
theorem runIn_announceAll (rs : List (Request ο τ)) (w : Watch ο τ ρ) :
    ((keeper clock hear).announceAll rs).runIn w =
      (.ok (), { w with
        marks := w.marks ++ rs.map .told
        outside := rs.foldl (fun o r => (hear r).after o) w.outside }) := by
  rw [Keeper.runIn_announceAll_of_some rfl fun _ _ => rfl, Prod.mk.injEq, and_iff_right rfl]
  induction rs generalizing w with
  | nil => simp
  | cons r rest ih =>
      have first : (mark (.told r) >>= fun _ => aside (hear r)).after w =
          { w with marks := w.marks ++ [.told r], outside := (hear r).after w.outside } :=
        (Act.after_modify_bind ..).trans (after_aside ..)
      rw [List.foldl_cons, first, ih]
      simp

omit [Sub τ] [LE τ] [DecidableLE τ] in
/-- Every reading of the clock is marked, also if it fails. -/
theorem runIn_now (w : Watch ο τ ρ) :
    (keeper clock hear).now.runIn w =
      (clock w.pauses, { w with marks := w.marks ++ [.swept (clock w.pauses)] }) := by
  change (mark (.swept (clock w.pauses)) >>= fun _ => match clock w.pauses with
    | .ok now => pure now
    | .error f => throw f).runIn w = _
  cases clock w.pauses <;> rfl

/-- A round sweeps if the clock can be read, and pauses. -/
theorem runIn_round (w : Watch ο τ ρ) :
    ((keeper clock hear).round pause).runIn w = (.ok (), w.next clock hear) := by
  have paused (v : Watch ο τ ρ) : (pause : Act (Watch ο τ ρ) Unit).runIn v =
      (.ok (), { v with marks := v.marks ++ [.paused], pauses := v.pauses + 1 }) := rfl
  have read : (keeper clock hear).now.runIn w = _ := runIn_now w
  unfold Keeper.round Watch.next
  rw [Act.runIn_bind, Act.runIn_attempt, Act.after]
  cases reading : clock w.pauses with
  | error f =>
      rw [reading] at read
      rw [Keeper.runIn_expire_of_error read]
      dsimp only
      rw [Act.runIn_bind]
      change pause.runIn _ = _
      rw [paused]
      simp [dueAt, sweepAt]
  | ok now =>
      rw [reading] at read
      rw [Keeper.runIn_expire_of_ok read, Act.runIn_bind, runIn_announceAll]
      change pause.runIn _ = _
      rw [paused]
      simp only [keeper, dueAt, Tracker.due, List.append_assoc, List.cons_append,
        Act.runIn_pure]
      rfl

/-! ### Any number of rounds -/

/-- Whether a request has been due at one of the first sweeps. -/
def late (t : Tracker ο τ) (clock : Nat → Except Fault τ) (n : Nat) (r : Request ο τ) : Bool :=
  (List.range n).any fun j => dueAt t r (clock j)

/-- Whether a request is due at a sweep, and has not been due at those before. -/
def firstLate (t : Tracker ο τ) (clock : Nat → Except Fault τ) (n : Nat) (r : Request ο τ) :
    Bool :=
  dueAt t r (clock n) && !late t clock n r

theorem late_zero (t : Tracker ο τ) (r : Request ο τ) :
    late t clock 0 r = false := rfl

theorem late_succ (t : Tracker ο τ) (n : Nat) (r : Request ο τ) :
    late t clock (n + 1) r = (late t clock n r || dueAt t r (clock n)) := by
  simp [late, List.range_succ]

/-- One more sweep adds the requests that are due there for the first time. -/
theorem filter_late_succ_perm (t : Tracker ο τ) (n : Nat) (rs : List (Request ο τ)) :
    (rs.filter (late t clock n) ++ rs.filter (firstLate t clock n)).Perm
      (rs.filter (late t clock (n + 1))) := by
  have split := List.filter_append_perm (late t clock n) (rs.filter (late t clock (n + 1)))
  rw [List.filter_filter, List.filter_filter] at split
  have earlier : (fun r => late t clock n r && late t clock (n + 1) r) = late t clock n := by
    funext r
    rw [late_succ]
    cases late t clock n r <;> simp
  have first : (fun r => !late t clock n r && late t clock (n + 1) r) = firstLate t clock n := by
    funext r
    rw [late_succ, firstLate]
    cases late t clock n r <;> simp
  rwa [earlier, first] at split

/-- What has come of the requests of a tracker after a number of rounds. -/
structure Rounds (clock : Nat → Except Fault τ) (t : Tracker ο τ) (n : Nat) (w : Watch ο τ ρ) :
    Prop where
  pauses : w.pauses = n
  steady : w.tracker.Steady
  timeToLive : w.tracker.timeToLive = t.timeToLive
  /-- The others are still live, in order. -/
  live : w.tracker.live = t.live.filter fun r => !late t clock n r
  /-- The live requests that have been due are expired, and all others have kept their fates. -/
  fates : ∀ r fate, (r, fate) ∈ w.tracker.history ↔
    (r ∈ t.live ∧ late t clock n r = true) ∧ fate = .expired ∨
      ¬(r ∈ t.live ∧ late t clock n r = true) ∧ (r, fate) ∈ t.history
  /-- Each round swept, told of the live requests that were due for the first time, and paused. -/
  marks : w.marks = (List.range n).flatMap fun j =>
    .swept (clock j) :: (t.live.filter (firstLate t clock j)).map .told ++ [.paused]
  /-- Every live request that has been due was told of once. -/
  told : (told w.marks).Perm (t.live.filter (late t clock n))

theorem Rounds.start
    {t : Tracker ο τ}
    (steady : t.Steady)
    (outside : ρ) :
    Rounds clock t 0 ({ tracker := t, outside } : Watch ο τ ρ) where
  pauses := rfl
  steady := steady
  timeToLive := rfl
  live := by simp [late_zero]
  fates := by simp [late_zero]
  marks := rfl
  told := by simp [late_zero, Sweeper.told]

/-- One more round is made. -/
theorem Rounds.next
    {t : Tracker ο τ}
    {n : Nat}
    {w : Watch ο τ ρ}
    (rounds : Rounds clock t n w) :
    Rounds clock t (n + 1) (w.next clock hear) := by
  have same (r : Request ο τ) (reading : Except Fault τ) :
      dueAt w.tracker r reading = dueAt t r reading := by
    cases reading with
    | error f => rfl
    | ok now => exact decide_eq_decide.mpr (by rw [Tracker.Due, Tracker.Due, rounds.timeToLive])
  have due : (w.tracker.live.filter fun r => dueAt w.tracker r (clock n)) =
      t.live.filter (firstLate t clock n) := by
    simp only [same, rounds.live, List.filter_filter]
    rfl
  have swept : (w.next clock hear).tracker = sweepAt w.tracker (clock n) := by
    rw [← rounds.pauses]
    rfl
  have marks : (w.next clock hear).marks = w.marks ++
      (.swept (clock n) :: (t.live.filter (firstLate t clock n)).map .told ++ [.paused]) := by
    rw [← due, ← rounds.pauses]
    rfl
  constructor
  case pauses => exact congrArg (· + 1) rounds.pauses
  case steady =>
    rw [swept]
    exact steady_sweepAt _ rounds.steady
  case timeToLive => rw [swept, timeToLive_sweepAt, rounds.timeToLive]
  case live =>
    simp only [swept, live_sweepAt, rounds.live, List.filter_filter, same, late_succ, Bool.not_or,
      Bool.and_comm]
  case fates =>
    intro r fate
    rw [swept, mem_history_sweepAt _ rounds.steady, rounds.fates, rounds.live, List.mem_filter,
      same, late_succ, Bool.or_eq_true, Bool.not_eq_true']
    grind
  case marks =>
    rw [marks, rounds.marks, List.range_succ, List.flatMap_append, List.flatMap_singleton]
  case told =>
    have heard : Sweeper.told (w.next clock hear).marks =
        Sweeper.told w.marks ++ t.live.filter (firstLate t clock n) := by
      rw [marks, told_append, told_round]
    rw [heard]
    exact (rounds.told.append_right _).trans (filter_late_succ_perm t n t.live)

/-- So many rounds are made. -/
theorem rounds_iterate
    {t : Tracker ο τ}
    (steady : t.Steady)
    (outside : ρ)
    (n : Nat) :
    Rounds clock t n ((Watch.next clock hear)^[n] { tracker := t, outside }) := by
  induction n with
  | zero => exact .start steady outside
  | succ n ih =>
      rw [Function.iterate_succ_apply']
      exact ih.next

/-- A clock that cannot be read keeps the sweeper from changing the tracker. -/
theorem tracker_iterate_of_error
    (broken : ∀ j, ∃ f, clock j = .error f)
    (n : Nat)
    (w : Watch ο τ ρ) :
    ((Watch.next clock hear)^[n] w).tracker = w.tracker := by
  induction n generalizing w with
  | zero => rfl
  | succ n ih =>
      obtain ⟨f, failed⟩ := broken w.pauses
      rw [Function.iterate_succ_apply, ih, Watch.next, failed]
      rfl

/-- The sweeper goes on until there have been as many pauses as stop it. -/
theorem sweeps_keeper_iff
    {t : Tracker ο τ}
    (steady : t.Steady)
    (outside : ρ)
    (preset : Bool)
    (pauses : Nat)
    (e : Watch ο τ ρ) :
    (keeper clock hear).Sweeps pause (Stopped preset pauses) { tracker := t, outside } e ↔
      e = (Watch.next clock hear)^[if preset then 0 else pauses] { tracker := t, outside } := by
  refine Keeper.sweeps_iff runIn_round (fun j lt => ?_) ?_ e
  · cases preset with
    | true => exact absurd lt (Nat.not_lt_zero j)
    | false =>
        rw [Stopped, (rounds_iterate steady outside j).pauses]
        simpa using lt
  · rw [Stopped, (rounds_iterate steady outside _).pauses]
    cases preset <;> simp

end

/-! ### A clock that advances -/

section
variable [AddCommGroup τ] [LinearOrder τ]

/-- The time of a request has elapsed at a sweep of a clock that advances between the sweeps. -/
def Elapsed (t : Tracker ο τ) (start advance : τ) (j : Nat) (r : Request ο τ) : Prop :=
  t.timeToLive ≤ start + j • advance - r.createdAt

instance (t : Tracker ο τ) (start advance : τ) (j : Nat) (r : Request ο τ) :
    Decidable (Elapsed t start advance j r) :=
  inferInstanceAs (Decidable (t.timeToLive ≤ start + j • advance - r.createdAt))

/-- The time of a request has elapsed at the last of so many sweeps. -/
def Overdue (t : Tracker ο τ) (start advance : τ) (n : Nat) (r : Request ο τ) : Prop :=
  1 ≤ n ∧ Elapsed t start advance (n - 1) r

instance (t : Tracker ο τ) (start advance : τ) (n : Nat) (r : Request ο τ) :
    Decidable (Overdue t start advance n r) :=
  inferInstanceAs (Decidable (1 ≤ n ∧ Elapsed t start advance (n - 1) r))

/-- How a sweeper ends that makes so many rounds on a clock that advances between them. -/
structure Ended (t : Tracker ο τ) (start advance : τ) (n : Nat) (w : Watch ο τ ρ) : Prop where
  pauses : w.pauses = n
  /-- Each round sweeps, tells of the live requests that are due for the first time, and pauses. -/
  marks : w.marks = (List.range n).flatMap fun j =>
    .swept (.ok (start + j • advance)) ::
        (t.live.filter fun r => Elapsed t start advance j r ∧
          ∀ i < j, ¬Elapsed t start advance i r).map .told ++
      [.paused]
  /-- Every live request that is due at the last sweep is told of once. -/
  told : (told w.marks).Perm (t.live.filter fun r => Overdue t start advance n r)
  /-- The others are still live, in order. -/
  live : w.tracker.live = t.live.filter fun r => ¬Overdue t start advance n r
  /-- The live requests that are due at the last sweep expire, and all others keep their fates. -/
  fates : ∀ r fate, (r, fate) ∈ w.tracker.history ↔
    (r ∈ t.live ∧ Overdue t start advance n r) ∧ fate = .expired ∨
      ¬(r ∈ t.live ∧ Overdue t start advance n r) ∧ (r, fate) ∈ t.history

variable {t : Tracker ο τ}
variable {start advance : τ}

theorem late_advancing (n : Nat) (r : Request ο τ) :
    late t (fun j => .ok (start + j • advance)) n r = true ↔
      ∃ j < n, Elapsed t start advance j r := by
  simp only [late, dueAt, List.any_eq_true, List.mem_range, decide_eq_true_eq]
  rfl

theorem firstLate_advancing (n : Nat) (r : Request ο τ) :
    firstLate t (fun j => .ok (start + j • advance)) n r = true ↔
      Elapsed t start advance n r ∧ ∀ i < n, ¬Elapsed t start advance i r := by
  rw [firstLate, Bool.and_eq_true, Bool.not_eq_true', ← Bool.not_eq_true, late_advancing]
  simp only [dueAt, decide_eq_true_eq, not_exists, not_and]
  rfl

variable [IsOrderedAddMonoid τ]

/-- On a clock that does not go back, the last of the sweeps finds all that is due. -/
theorem overdue_iff (forward : 0 ≤ advance) (n : Nat) (r : Request ο τ) :
    Overdue t start advance n r ↔ ∃ j < n, Elapsed t start advance j r := by
  constructor
  · rintro ⟨some, elapsed⟩
    exact ⟨n - 1, Nat.sub_one_lt_of_lt some, elapsed⟩
  · rintro ⟨j, lt, elapsed⟩
    have advanced : j • advance ≤ (n - 1) • advance :=
      nsmul_le_nsmul_left forward (Nat.le_sub_one_of_lt lt)
    refine ⟨Nat.one_le_of_lt lt, le_trans elapsed ?_⟩
    exact sub_le_sub_right (add_le_add_right advanced start) r.createdAt

theorem Rounds.ended
    (forward : 0 ≤ advance)
    {n : Nat}
    {w : Watch ο τ ρ}
    (rounds : Rounds (fun j => .ok (start + j • advance)) t n w) :
    Ended t start advance n w := by
  have late_iff (r : Request ο τ) :
      late t (fun j => .ok (start + j • advance)) n r = true ↔ Overdue t start advance n r := by
    rw [late_advancing, overdue_iff forward]
  have late_eq : late t (fun j => .ok (start + j • advance)) n =
      fun r => decide (Overdue t start advance n r) := by
    funext r
    rw [Bool.eq_iff_iff, late_iff, decide_eq_true_iff]
  have firstLate_eq (j : Nat) : firstLate t (fun j => .ok (start + j • advance)) j = fun r =>
      decide (Elapsed t start advance j r ∧ ∀ i < j, ¬Elapsed t start advance i r) := by
    funext r
    rw [Bool.eq_iff_iff, firstLate_advancing, decide_eq_true_iff]
  refine ⟨rounds.pauses, ?_, ?_, ?_, ?_⟩
  · simp only [rounds.marks, firstLate_eq]
  · simpa only [late_eq] using rounds.told
  · simp only [rounds.live, late_eq, decide_not]
  · simpa only [late_iff] using rounds.fates

/--
A sweeper that is stopped by a number of pauses, or from the start, comes to one end.  If the clock
can be read, exactly those requests have expired by then that are due at the last sweep.  If not,
the tracker has not changed.
-/
theorem sweeper_expires_due
    (steady : t.Steady)
    (hear : Request ο τ → Act ρ Unit)
    (outside : ρ)
    (preset : Bool)
    (pauses : Nat) :
    let n := if preset then 0 else pauses
    let w : Watch ο τ ρ := { tracker := t, outside }
    (∀ start advance : τ, 0 ≤ advance →
      let k := keeper (fun j => .ok (start + j • advance)) hear
      let e := (k.rounds pause n).after w
      (∀ e', k.Sweeps pause (Stopped preset pauses) w e' ↔ e' = e) ∧ Ended t start advance n e) ∧
    ∀ clock : Nat → Except Fault τ, (∀ j, ∃ f, clock j = .error f) →
      let k := keeper clock hear
      let e := (k.rounds pause n).after w
      (∀ e', k.Sweeps pause (Stopped preset pauses) w e' ↔ e' = e) ∧ e.tracker = t ∧
        e.pauses = n ∧ e.marks = (List.range n).flatMap fun j => [.swept (clock j), .paused] := by
  intro n w
  have after_rounds (clock : Nat → Except Fault τ) :
      ((keeper clock hear).rounds pause n).after w = (Watch.next clock hear)^[n] w := by
    rw [Act.after, Keeper.runIn_rounds runIn_round]
  refine ⟨fun start advance forward => ?_, fun clock broken => ?_⟩
  · intro k e
    have same : e = (Watch.next _ hear)^[n] w := after_rounds _
    rw [same]
    exact ⟨sweeps_keeper_iff steady outside preset pauses,
      (rounds_iterate steady outside n).ended forward⟩
  · intro k e
    have same : e = (Watch.next _ hear)^[n] w := after_rounds _
    have rounds : Rounds clock t n ((Watch.next clock hear)^[n] w) :=
      rounds_iterate steady outside n
    rw [same]
    refine ⟨sweeps_keeper_iff steady outside preset pauses,
      tracker_iterate_of_error broken n w, rounds.pauses, ?_⟩
    have unheard (j : Nat) : t.live.filter (firstLate t clock j) = [] := by
      obtain ⟨f, failed⟩ := broken j
      simp [firstLate, failed, dueAt]
    rw [rounds.marks]
    simp only [unheard, List.map_nil, List.cons_append, List.nil_append]

/-- Two of three requests expire in different rounds, and whoever hears of it fails. -/
theorem sweeper_expires_due_failing :
    let empty : Tracker Unit Int := { timeToLive := 10 }
    let t := ((empty.put ⟨[1]⟩ () 0).put ⟨[2]⟩ () 4).put ⟨[3]⟩ () 8
    let hear (_ : Request Unit Int) : Act Unit Unit := throw .notNumeric
    let w : Watch Unit Int Unit := { tracker := t, outside := () }
    let k := keeper (fun j => .ok (8 + j • 3)) hear
    let e := (k.rounds pause 4).after w
    let broken := keeper (fun _ => .error (.outage .clock)) hear
    t.Steady ∧ (∀ e', k.Sweeps pause (Stopped false 4) w e' ↔ e' = e) ∧ Ended t 8 3 4 e ∧
      (told e.marks).map (·.serial) = [0, 1] ∧ e.tracker.live.map (·.serial) = [2] ∧
      ((broken.rounds pause 4).after w).tracker = t := by
  intro empty t hear w k e broken
  have steady : t.Steady :=
    ((((Tracker.Sound.empty 10).put ⟨[1]⟩ () 0).put ⟨[2]⟩ () 4).put ⟨[3]⟩ () 8).steady
  obtain ⟨advancing, failing⟩ := sweeper_expires_due steady hear () false 4
  obtain ⟨one, ended⟩ := advancing 8 3 (by decide)
  exact ⟨steady, one, ended, by decide, by decide,
    (failing _ fun _ => ⟨.outage .clock, rfl⟩).2.1⟩

end
end Sweeper
end LineTerminal
