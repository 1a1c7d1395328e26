import LineTerminal.Proofs.Settings.Options
import LineTerminal.StandIn.Controller

/-!
# The stand-in for the library of options is lawful

The options of a pipeline keep their kinds, so they take all values of the right kind and refuse
counts that are too small.  Setting one option leaves the others, and a text without dollar signs is
read as it was set.
-/

namespace LineTerminal
namespace StandIn
namespace Controller
variable {c c' : Controller}
variable {name : String}
variable {kind : Kind}
variable {value held : Tree}

/-- The kind of an option. -/
def kind? (c : Controller) (name : String) : Option Kind := (c.entries.lookup name).map (·.1)

/-! ### Setting an option -/

/-- A controller that differs from another in what one option holds. -/
structure Holding (c : Controller) (name : String) (held : Tree) (c' : Controller) : Prop where
  kind?_eq : ∀ n, c'.kind? n = c.kind? n
  get?_self : c'.get? name = some held
  get?_of_ne : ∀ n, n ≠ name → c'.get? n = c.get? n

theorem lookup_cons_eq_ite
    {α : Type}
    (entry : String × α)
    (rest : List (String × α))
    (n : String) :
    (entry :: rest).lookup n = if n = entry.1 then some entry.2 else rest.lookup n := by
  by_cases asked : n = entry.1
  · rw [if_pos asked, asked]
    exact List.lookup_cons_self
  · rw [List.lookup_cons, beq_false_of_ne asked, if_neg asked]

/-- An entry is replaced by one with the same name. -/
theorem lookup_map_replace
    {α : Type}
    (entries : List (String × α))
    (name : String)
    (new : α)
    (n : String) :
    (entries.map fun old => if old.1 = name then (name, new) else old).lookup n =
      (entries.lookup n).map fun old => if n = name then new else old := by
  induction entries with
  | nil => rfl
  | cons first rest ih =>
      rw [List.map_cons, lookup_cons_eq_ite, lookup_cons_eq_ite, ih]
      by_cases here : first.1 = name
      · rw [if_pos here, here]
        by_cases asked : n = name <;> simp [asked]
      · rw [if_neg here]
        by_cases asked : n = first.1
        · simp [asked, here]
        · simp [asked]

/-- What is set is converted and held, and nothing else is changed. -/
theorem set_eq_ok_iff :
    c.set name value = .ok c' ↔
      ∃ kind old held, c.entries.lookup name = some (kind, old) ∧
        kind.convert value = .ok held ∧
        c' = ⟨c.entries.map fun entry => if entry.1 = name then (name, kind, held) else entry⟩ := by
  unfold set
  cases found : c.entries.lookup name with
  | none => simp
  | some entry =>
      obtain ⟨kind, old⟩ := entry
      dsimp only
      cases converted : kind.convert value with
      | error e => simp [converted]
      | ok held =>
          change Except.ok _ = Except.ok c' ↔ _
          simp [converted, eq_comm]

theorem holding_of_set (set : c.set name value = .ok c') : ∃ held, c.Holding name held c' := by
  obtain ⟨kind, old, held, found, -, rfl⟩ := set_eq_ok_iff.mp set
  have lookup_eq (n : String) := lookup_map_replace c.entries name (kind, held) n
  refine ⟨held, fun n => ?_, ?_, fun n other => ?_⟩
  · rw [kind?, lookup_eq, kind?]
    by_cases asked : n = name
    · simp [asked, found]
    · simp [asked]
  · simp [get?, lookup_eq, found]
  · simp [get?, lookup_eq, other]

/-- A value is held as it is converted. -/
theorem exists_set_eq_ok
    (known : c.kind? name = some kind)
    (converted : kind.convert value = .ok held) :
    ∃ c', c.set name value = .ok c' ∧ c'.get? name = some held := by
  obtain ⟨⟨k, old⟩, found, rfl⟩ := Option.map_eq_some_iff.mp known
  refine ⟨_, set_eq_ok_iff.mpr ⟨k, old, held, found, converted, rfl⟩, ?_⟩
  simp [get?, lookup_map_replace, found]

/-- A value that cannot be converted is refused. -/
theorem set_eq_error
    {e : Error}
    (known : c.kind? name = some kind)
    (refused : kind.convert value = .error e) :
    c.set name value = .error e := by
  obtain ⟨⟨_, old⟩, found, rfl⟩ := Option.map_eq_some_iff.mp known
  rw [set, found]
  dsimp only
  rw [refused]
  rfl

/-! ### Reading an option -/

/-- A text takes the place of a reference to it as it is. -/
theorem value?_of_get?
    (held : c.get? name = some value)
    (plain : ∀ value?, Template.expandAll? value? value = some value) :
    c.value? name = some value := by
  obtain ⟨bound, length_eq⟩ : ∃ bound, c.entries.length = bound + 1 := by
    cases entries_eq : c.entries with
    | nil => simp [get?, entries_eq] at held
    | cons first rest => exact ⟨rest.length, rfl⟩
  rw [value?, length_eq, valueWithin, held, Option.bind_some, plain]

/-- A value of the right kind is read as it is held. -/
theorem read_eq_ok
    {o : OptionSpec}
    {v : o.kind.Value}
    (held : c.get? o.name = some (treeOf o.kind v))
    (fits : o.kind.Fits v) :
    c.read o = .ok (some v) := by
  obtain ⟨name, kind, default⟩ := o
  have plain : ∀ value?, Template.expandAll? value? (treeOf kind v) = some (treeOf kind v) := by
    intro value?
    cases kind with
    | count least => rfl
    | duration => rfl
    | text => exact Template.expandAll?_of_not_mem value? fits.1
  have same : valueOf? kind (treeOf kind v) = some v := by
    cases kind with
    | count least => rfl
    | duration => rfl
    | text => exact congrArg some (Text.shown_points v)
  rw [read, value?_of_get? held plain]
  exact congrArg Except.ok same

end Controller

/-! ### The laws -/

section
variable {started : Bool}
variable {values later earlier : List Override}
variable {c : Controller}
open OptionLibrary (Made)

theorem convert_treeOf_of_fits
    {kind : OptionKind}
    {v : kind.Value}
    (fits : kind.Fits v) :
    (Kind.declared kind).convert (treeOf kind v) = .ok (treeOf kind v) := by
  cases kind with
  | count least => exact if_neg (Int.not_lt.mpr fits)
  | duration => rfl
  | text => rfl

theorem convert_treeOf_of_undercuts
    {kind : OptionKind}
    {v : kind.Value}
    (undercuts : kind.Undercuts v) :
    (Kind.declared kind).convert (treeOf kind v) = .error .belowMinimum := by
  cases kind with
  | count least => exact if_pos undercuts
  | duration => cases undercuts
  | text => cases undercuts

/-- Whatever is set, the options of a pipeline are of the kinds that were declared. -/
theorem kind?_of_made
    (made : Made (library started) values c)
    {o : OptionSpec}
    (known : o ∈ OptionSpec.pipeline) :
    c.kind? o.name = some (.declared o.kind) := by
  induction made with
  | registered =>
      simp only [OptionSpec.pipeline, List.mem_cons, List.not_mem_nil, or_false] at known
      rcases known with rfl | rfl | rfl | rfl | rfl <;> rfl
  | set _ taken ih =>
      obtain ⟨held, holding⟩ := Controller.holding_of_set taken
      rw [holding.kind?_eq, ih]

/-- An option that was not set holds its default. -/
theorem get?_of_made
    (made : Made (library started) values c)
    {o : OptionSpec}
    (known : o ∈ OptionSpec.pipeline)
    (unset : ∀ u ∈ values, u.option.name ≠ o.name) :
    c.get? o.name = some (treeOf o.kind o.default) := by
  induction made with
  | registered =>
      simp only [OptionSpec.pipeline, List.mem_cons, List.not_mem_nil, or_false] at known
      rcases known with rfl | rfl | rfl | rfl | rfl <;> rfl
  | set _ taken ih =>
      obtain ⟨other, unset⟩ := List.forall_mem_cons.mp unset
      obtain ⟨held, holding⟩ := Controller.holding_of_set taken
      rw [holding.get?_of_ne _ other.symm, ih unset]

/-- An option holds what it was set to last. -/
theorem get?_of_made_append
    {v : Override}
    (made : Made (library started) (later ++ v :: earlier) c)
    (known : v.option ∈ OptionSpec.pipeline)
    (fits : v.option.kind.Fits v.value)
    (last : ∀ u ∈ later, u.option.name ≠ v.option.name) :
    c.get? v.option.name = some (treeOf v.option.kind v.value) := by
  induction later generalizing c with
  | nil =>
      cases made with
      | set made taken =>
          obtain ⟨c', set, held⟩ :=
            Controller.exists_set_eq_ok (kind?_of_made made known) (convert_treeOf_of_fits fits)
          cases taken.symm.trans set
          exact held
  | cons u rest ih =>
      obtain ⟨other, last⟩ := List.forall_mem_cons.mp last
      cases made with
      | set made taken =>
          obtain ⟨held, holding⟩ := Controller.holding_of_set taken
          rw [holding.get?_of_ne _ other.symm, ih made last]

theorem lawful_library (started : Bool) : (library started).Lawful where
  takes made known fits := by
    obtain ⟨c', set, -⟩ :=
      Controller.exists_set_eq_ok (kind?_of_made made known) (convert_treeOf_of_fits fits)
    exact ⟨c', set⟩
  returns made known fits last :=
    Controller.read_eq_ok (get?_of_made_append made known fits last) fits
  defaults made known fits unset := Controller.read_eq_ok (get?_of_made made known unset) fits
  refuses made known undercuts :=
    ⟨.belowMinimum, Controller.set_eq_error (kind?_of_made made known)
      (convert_treeOf_of_undercuts undercuts), trivial⟩

end
end StandIn
end LineTerminal
