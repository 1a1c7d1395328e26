import LineTerminal.Settings.Options
import Mathlib.Data.List.Nodup

/-!
# What a library of options is relied on for

Of the library that keeps the options of a controller only three things are assumed: a value of the
right kind is taken and read as it was set, an option that was not set has its default, and a count
below the least one is refused.  A text is of the right kind if it cannot be taken for one with
references.  So the values that are set for some options, whatever their order, are those that are
read in the end, and the others are the defaults.
-/

namespace LineTerminal

namespace OptionKind

/-- A value of a kind is one that is kept as it is. -/
def Fits : (kind : OptionKind) → kind.Value → Prop
  | count least, (n : Int) => least ≤ n
  | duration, _ => True
  | text, (s : String) => '$' ∉ s.toList ∧ '\\' ∉ s.toList

/-- A value is a count below the least one. -/
def Undercuts : (kind : OptionKind) → kind.Value → Prop
  | count least, (n : Int) => n < least
  | _, _ => False

end OptionKind

/-- Every default can be kept. -/
theorem OptionSpec.fits_default {o : OptionSpec} (known : o ∈ pipeline) :
    o.kind.Fits o.default := by
  simp only [pipeline, List.mem_cons, List.not_mem_nil, or_false] at known
  rcases known with rfl | rfl | rfl | rfl | rfl
  · change (0 : Int) ≤ 1
    decide
  · change (0 : Int) ≤ 500
    decide
  · trivial
  · trivial
  · change '$' ∉ "olt-pipeline".toList ∧ '\\' ∉ "olt-pipeline".toList
    decide

namespace OptionLibrary
variable {κ ε : Type}

/-- A controller that a pipeline has declared its options to, and the values that were set, the latest
first. -/
inductive Made (l : OptionLibrary κ ε) : List Override → κ → Prop
  /-- The options are declared. -/
  | registered : Made l [] (l.register OptionSpec.pipeline l.fresh)
  /-- A value is set. -/
  | set {values : List Override} {v : Override} {c c' : κ} (made : Made l values c)
      (taken : l.set v c = .ok c') : Made l (v :: values) c'

/-- What a library of options is documented to do. -/
structure Lawful (l : OptionLibrary κ ε) : Prop where
  /-- A value of the right kind is taken. -/
  takes : ∀ {values v c}, l.Made values c → v.option ∈ OptionSpec.pipeline →
    v.option.kind.Fits v.value → ∃ c', l.set v c = .ok c'
  /-- It is returned as it was set, whatever is set for other options. -/
  returns : ∀ {earlier v later c}, l.Made (later ++ v :: earlier) c →
    v.option ∈ OptionSpec.pipeline → v.option.kind.Fits v.value →
    (∀ u ∈ later, u.option.name ≠ v.option.name) → l.read v.option c = .ok (some v.value)
  /-- The default of the right kind is returned if the option was not set. -/
  defaults : ∀ {values o c}, l.Made values c → o ∈ OptionSpec.pipeline →
    o.kind.Fits o.default → (∀ u ∈ values, u.option.name ≠ o.name) →
    l.read o c = .ok (some o.default)
  /-- A count below the least one is refused, and that is a value error. -/
  refuses : ∀ {values v c}, l.Made values c → v.option ∈ OptionSpec.pipeline →
    v.option.kind.Undercuts v.value → ∃ e, l.set v c = .error e ∧ l.aboutValue e

/-! ### Setting several options -/

section
variable {l : OptionLibrary κ ε}
variable {values order : List Override}
variable {c c' : κ}

theorem setAll_cons (v : Override) (rest : List Override) (c : κ) :
    l.setAll (v :: rest) c = l.set v c >>= fun c' => l.setAll rest c' :=
  List.foldlM_cons

/-- Values of the right kind are all taken. -/
theorem Lawful.exists_setAll_eq_ok
    (lawful : l.Lawful)
    (made : l.Made values c)
    (known : ∀ v ∈ order, v.option ∈ OptionSpec.pipeline)
    (fit : ∀ v ∈ order, v.option.kind.Fits v.value) :
    ∃ c', l.setAll order c = .ok c' ∧ l.Made (order.reverse ++ values) c' := by
  induction order generalizing values c with
  | nil => exact ⟨c, rfl, made⟩
  | cons v rest ih =>
      obtain ⟨knownFirst, known⟩ := List.forall_mem_cons.mp known
      obtain ⟨fitFirst, fit⟩ := List.forall_mem_cons.mp fit
      obtain ⟨c₁, taken⟩ := lawful.takes made knownFirst fitFirst
      obtain ⟨c₂, all, made⟩ := ih (made.set taken) known fit
      refine ⟨c₂, ?_, by simpa using made⟩
      rw [setAll_cons, taken]
      exact all

/-- One count that is too small is enough to refuse all values. -/
theorem Lawful.exists_setAll_eq_error
    (lawful : l.Lawful)
    (made : l.Made values c)
    (known : ∀ v ∈ order, v.option ∈ OptionSpec.pipeline)
    (judged : ∀ v ∈ order, v.option.kind.Fits v.value ∨ v.option.kind.Undercuts v.value)
    (small : ∃ v ∈ order, v.option.kind.Undercuts v.value) :
    ∃ e, l.setAll order c = .error e ∧ l.aboutValue e := by
  induction order generalizing values c with
  | nil => simp at small
  | cons v rest ih =>
      obtain ⟨knownFirst, known⟩ := List.forall_mem_cons.mp known
      obtain ⟨judgedFirst, judged⟩ := List.forall_mem_cons.mp judged
      rw [setAll_cons]
      by_cases undercuts : v.option.kind.Undercuts v.value
      · obtain ⟨e, refused, value⟩ := lawful.refuses made knownFirst undercuts
        refine ⟨e, ?_, value⟩
        rw [refused]
        rfl
      · obtain ⟨c₁, taken⟩ := lawful.takes made knownFirst (judgedFirst.resolve_right undercuts)
        have later : ∃ v ∈ rest, v.option.kind.Undercuts v.value := by
          obtain ⟨u, member, small⟩ := small
          rcases List.mem_cons.mp member with rfl | later
          · exact absurd small undercuts
          · exact ⟨u, later, small⟩
        obtain ⟨e, refused, value⟩ := ih (made.set taken) known judged later
        refine ⟨e, ?_, value⟩
        rw [taken]
        exact refused

/-! ### Reading options -/

/-- An option that was set once, or not at all, is read as that value or as the default. -/
theorem Lawful.read_eq
    (lawful : l.Lawful)
    (made : l.Made values c)
    (once : (values.map (·.option.name)).Nodup)
    {o : OptionSpec}
    (known : o ∈ OptionSpec.pipeline)
    (x : Option o.kind.Value)
    (set : ∀ v, x = some v → ⟨o, v⟩ ∈ values ∧ o.kind.Fits v)
    (unset : x = none → ∀ u ∈ values, u.option.name ≠ o.name) :
    l.read o c = .ok (some (x.getD o.default)) := by
  cases x with
  | none => exact lawful.defaults made known (OptionSpec.fits_default known) (unset rfl)
  | some v =>
      obtain ⟨member, fits⟩ := set v rfl
      obtain ⟨later, earlier, rfl⟩ := List.append_of_mem member
      refine lawful.returns (v := ⟨o, v⟩) made known fits fun u before same => ?_
      rw [List.map_append, List.nodup_append] at once
      exact once.2.2 _ (List.mem_map_of_mem before) _ (List.mem_cons_self ..) same

end

end OptionLibrary

/-! ### Settings of what is read -/

/-- A proposal that has all values of a draft. -/
def Draft.proposal (d : Draft) : Proposal :=
  { serviceTable := some d.serviceTable
    dropPriority := some d.dropPriority
    timeToLive := some d.timeToLive
    sweepInterval := some d.sweepInterval
    keySpace := some d.keySpace }

theorem needed_some
    {ε α : Type}
    (a : α)
    (out : α → Prop)
    [DecidablePred out]
    (e : Draft.Error) :
    (needed (some a) out e : Except (OptionError ε) α) =
      if out a then .error (.draft e) else .ok a := rfl

/-- Where nothing is left open, the values are checked like those of a draft. -/
theorem Draft.settings_proposal {ε : Type} (d : Draft) :
    (d.proposal.settings : Except (OptionError ε) Settings) = d.check.mapError .draft := by
  simp only [Proposal.settings, Draft.proposal, needed_some]
  by_cases table : d.serviceTable < 0
  · rw [if_pos table, check, dif_neg (Int.not_le.mpr table)]
    rfl
  have table' := Int.not_lt.mp table
  by_cases priority : d.dropPriority < 0
  · rw [if_neg table, if_pos priority, check, dif_pos table', dif_neg (Int.not_le.mpr priority)]
    rfl
  have priority' := Int.not_lt.mp priority
  by_cases spent : d.timeToLive ≤ 0
  · rw [if_neg table, if_neg priority, if_pos spent, check, dif_pos table', dif_pos priority',
      dif_pos spent]
    rfl
  by_cases still : d.sweepInterval ≤ 0
  · rw [if_neg table, if_neg priority, if_neg spent, if_pos still, check, dif_pos table',
      dif_pos priority', dif_neg spent, dif_pos still]
    rfl
  rw [if_neg table, if_neg priority, if_neg spent, if_neg still]
  rfl

end LineTerminal
