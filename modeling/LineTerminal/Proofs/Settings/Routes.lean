import LineTerminal.Proofs.Binary64.Order
import LineTerminal.Proofs.Settings.Section
import LineTerminal.Proofs.StandIn.Controller
import Mathlib.Data.List.Nodup

/-!
# Three ways to the same settings

Settings can be made directly, they can be read from a section of a document, and they can be read
from the options of a controller.  Whatever values of the right kind are given for some of the
settings, all three ways lead to the same settings, or all three refuse the values.
-/

namespace LineTerminal

namespace Proposal
variable {p : Proposal}
variable {name : String}
variable {v : Tree}
variable {order : List (String × Tree)}

/-! ### Proposals as lists of values -/

/-- The value that is proposed for the setting with a name. -/
def value? (p : Proposal) : String → Option Tree
  | "qq_table" => p.serviceTable.map .int
  | "no_action_priority" => p.dropPriority.map .int
  | "pending_group_ttl" => p.timeToLive.map .float
  | "eviction_interval" => p.sweepInterval.map .float
  | "group_key_namespace" => p.keySpace.map .ofString
  | _ => none

/-- The values that are proposed, with the names of their settings. -/
def values (p : Proposal) : List (String × Tree) :=
  settingNames.filterMap fun name => (p.value? name).map (name, ·)

theorem mem_values : (name, v) ∈ p.values ↔ name ∈ settingNames ∧ p.value? name = some v := by
  simp [values]

theorem nodup_values (p : Proposal) : (p.values.map (·.1)).Nodup := by
  rw [values, List.map_filterMap]
  refine List.Nodup.filterMap (fun a a' b => ?_) (by decide)
  simp only [Option.map_map, Option.mem_def, Option.map_eq_some_iff, Function.comp_apply]
  rintro ⟨-, -, rfl⟩ ⟨-, -, rfl⟩
  rfl

/-- In whatever order the values stand, no setting has two. -/
theorem nodup_of_perm (listed : order.Perm p.values) : (order.map (·.1)).Nodup :=
  (listed.map _).nodup_iff.mpr p.nodup_values

/-! ### The section of a proposal -/

/-- A value as an entry of a section. -/
def entry (x : String × Tree) : Tree × Tree := (.ofString x.1, x.2)

theorem get?_map_entry_cons (x : String × Tree) (rest : List (String × Tree)) (name : String) :
    Tree.get? ((x :: rest).map entry) name =
      if x.1 = name then some x.2 else Tree.get? (rest.map entry) name := by
  by_cases asked : x.1 = name <;> simp [Tree.get?, entry, Tree.ofString, Text.points_inj, asked]

/-- In a section without repeated names, the entries are found by their names. -/
theorem get?_map_entry_eq_some_iff
    (distinct : (order.map (·.1)).Nodup) :
    Tree.get? (order.map entry) name = some v ↔ (name, v) ∈ order := by
  induction order with
  | nil => simp [Tree.get?]
  | cons x rest ih =>
      obtain ⟨new, distinct⟩ := List.nodup_cons.mp distinct
      rw [get?_map_entry_cons, List.mem_cons]
      by_cases asked : x.1 = name
      · have absent : (name, v) ∉ rest := fun member =>
          new (List.mem_map.mpr ⟨_, member, asked.symm⟩)
        rw [if_pos asked, or_iff_left absent, ← asked, Option.some.injEq]
        exact ⟨fun same => same ▸ rfl, fun same => (congrArg Prod.snd same).symm⟩
      · have other : (name, v) ≠ x := fun same => asked (same ▸ rfl)
        rw [if_neg asked, ih distinct, or_iff_right other]

/-- In whatever order the values stand in a section, they are found by their names. -/
theorem get?_map_entry
    (listed : order.Perm p.values)
    (member : name ∈ settingNames) :
    Tree.get? (order.map entry) name = p.value? name := by
  refine Option.ext fun v => ?_
  rw [get?_map_entry_eq_some_iff (nodup_of_perm listed), listed.mem_iff, mem_values,
    and_iff_right member]

/-- Values of the right kind are read from a section as they are. -/
theorem valueIn?_map_entry
    {α : Type}
    {convert : Tree → Except Tree.NumberError α}
    {o : Option α}
    {f : α → Tree}
    (listed : order.Perm p.values)
    (member : name ∈ settingNames)
    (proposed : p.value? name = o.map f)
    (converts : ∀ a, convert (f a) = .ok a) :
    valueIn? (order.map entry) name convert = .ok o := by
  have found : Tree.get? (order.map entry) name = o.map f :=
    (get?_map_entry listed member).trans proposed
  cases o with
  | none => exact Settings.valueIn?_of_none found
  | some a =>
      rw [Settings.valueIn?_of_some found, converts]
      rfl

/-- The section of a proposal proposes the same. -/
theorem ofSection_map_entry (listed : order.Perm p.values) :
    Proposal.ofSection (order.map entry) = .ok p := by
  have serviceTable : valueIn? (order.map entry) "qq_table" Tree.toInt = .ok p.serviceTable :=
    valueIn?_map_entry (f := .int) listed (by decide) rfl fun _ => rfl
  have dropPriority : valueIn? (order.map entry) "no_action_priority" Tree.toInt =
      .ok p.dropPriority :=
    valueIn?_map_entry (f := .int) listed (by decide) rfl fun _ => rfl
  have timeToLive : valueIn? (order.map entry) "pending_group_ttl" Tree.toFloat =
      .ok p.timeToLive :=
    valueIn?_map_entry (f := .float) listed (by decide) rfl fun _ => rfl
  have sweepInterval : valueIn? (order.map entry) "eviction_interval" Tree.toFloat =
      .ok p.sweepInterval :=
    valueIn?_map_entry (f := .float) listed (by decide) rfl fun _ => rfl
  have keySpace : keySpaceIn? (order.map entry) = .ok (p.keySpace.map Text.points) :=
    valueIn?_map_entry (f := .text) listed (by decide) (Option.map_map ..).symm fun _ => rfl
  have shown : (p.keySpace.map Text.points).map Text.shown = p.keySpace := by
    simp [Option.map_map, Function.comp_def]
  unfold Proposal.ofSection
  rw [serviceTable, dropPriority, timeToLive, sweepInterval, keySpace]
  change Except.ok { p with keySpace := (p.keySpace.map Text.points).map Text.shown } = _
  rw [shown]

/-! ### The options of a proposal -/

/-- The options of a pipeline, with the values that are proposed for them. -/
def offers (p : Proposal) : List ((o : OptionSpec) × Option o.kind.Value) :=
  [⟨.serviceTable, p.serviceTable⟩, ⟨.dropPriority, p.dropPriority⟩, ⟨.timeToLive, p.timeToLive⟩,
    ⟨.sweepInterval, p.sweepInterval⟩, ⟨.keySpace, p.keySpace⟩]

/-- The values that are proposed, as they are set for options. -/
def overrides (p : Proposal) : List Override :=
  p.offers.filterMap fun offer => offer.2.map (Override.mk offer.1)

/-- A count is proposed that is below zero. -/
def Below (p : Proposal) : Prop :=
  (∃ n, p.serviceTable = some n ∧ n < 0) ∨ ∃ n, p.dropPriority = some n ∧ n < 0

/-- Where a name is proposed, it cannot be taken for a text with references. -/
def Plain (p : Proposal) : Prop :=
  ∀ name, p.keySpace = some name → '$' ∉ name.toList ∧ '\\' ∉ name.toList

section
variable {o : OptionSpec}
variable {x : Option o.kind.Value}
variable {value : o.kind.Value}
variable {v : Override}

theorem mem_overrides : v ∈ p.overrides ↔ ⟨v.option, some v.value⟩ ∈ p.offers := by
  rw [overrides, List.mem_filterMap]
  constructor
  · rintro ⟨⟨o, x⟩, offered, set⟩
    cases x with
    | none => cases set
    | some value =>
        cases set
        exact offered
  · exact fun offered => ⟨_, offered, rfl⟩

theorem mem_pipeline_of_mem_offers (offered : ⟨o, x⟩ ∈ p.offers) : o ∈ OptionSpec.pipeline :=
  List.mem_map_of_mem (f := Sigma.fst) offered

theorem nodup_offers (p : Proposal) : (p.offers.map (·.1.name)).Nodup := by
  change (OptionSpec.pipeline.map (·.name)).Nodup
  decide

/-- No option is set twice. -/
theorem nodup_overrides (p : Proposal) : (p.overrides.map (·.option.name)).Nodup := by
  have apart := List.pairwise_map.mp p.nodup_offers
  rw [overrides, List.Nodup, List.pairwise_map, List.pairwise_filterMap]
  refine apart.imp fun {first second} other v set v' set' => ?_
  obtain ⟨value, -, rfl⟩ := Option.map_eq_some_iff.mp set
  obtain ⟨value', -, rfl⟩ := Option.map_eq_some_iff.mp set'
  exact other

/-- An option without a proposed value is not set. -/
theorem ne_name_of_mem_overrides
    (offered : ⟨o, none⟩ ∈ p.offers)
    (member : v ∈ p.overrides) :
    v.option.name ≠ o.name := by
  intro same
  have equal := List.inj_on_of_nodup_map p.nodup_offers (mem_overrides.mp member) offered same
  obtain ⟨option, value⟩ := v
  cases equal

/-- What is proposed can be kept by its option, unless it is a count below zero. -/
theorem fits_or_undercuts
    (plain : p.Plain)
    (offered : ⟨o, some value⟩ ∈ p.offers) :
    o.kind.Fits value ∨ o.kind.Undercuts value ∧ p.Below := by
  have counted (n : Int) : 0 ≤ n ∨ n < 0 := (Int.lt_or_le n 0).symm
  simp only [offers, List.mem_cons, List.not_mem_nil, or_false] at offered
  rcases offered with offered | offered | offered | offered | offered <;>
    obtain ⟨rfl, there⟩ := Sigma.mk.inj offered
  · obtain there := eq_of_heq there
    exact (counted value).imp id fun below => ⟨below, .inl ⟨value, there.symm, below⟩⟩
  · obtain there := eq_of_heq there
    exact (counted value).imp id fun below => ⟨below, .inr ⟨value, there.symm, below⟩⟩
  · exact .inl trivial
  · exact .inl trivial
  · exact .inl (plain value (eq_of_heq there).symm)

/-- A count below zero is among the values that are set. -/
theorem Below.exists_undercuts (below : p.Below) :
    ∃ v ∈ p.overrides, v.option.kind.Undercuts v.value := by
  rcases below with ⟨n, there, below⟩ | ⟨n, there, below⟩
  · have offered : ⟨.serviceTable, p.serviceTable⟩ ∈ p.offers := List.mem_cons_self
    rw [there] at offered
    exact ⟨⟨.serviceTable, n⟩, mem_overrides.mpr offered, below⟩
  · have offered : ⟨.dropPriority, p.dropPriority⟩ ∈ p.offers :=
      List.mem_cons_of_mem _ List.mem_cons_self
    rw [there] at offered
    exact ⟨⟨.dropPriority, n⟩, mem_overrides.mpr offered, below⟩

end

section
variable {κ ε : Type}
variable {l : OptionLibrary κ ε}
variable {order : List Override}

theorem known_of_perm (listed : order.Perm p.overrides) :
    ∀ v ∈ order, v.option ∈ OptionSpec.pipeline := by
  intro v member
  exact mem_pipeline_of_mem_offers (mem_overrides.mp (listed.mem_iff.mp member))

theorem judged_of_perm
    (plain : p.Plain)
    (listed : order.Perm p.overrides) :
    ∀ v ∈ order, v.option.kind.Fits v.value ∨ v.option.kind.Undercuts v.value ∧ p.Below := by
  intro v member
  exact fits_or_undercuts plain (mem_overrides.mp (listed.mem_iff.mp member))

/-- A count below zero is refused as soon as it is set. -/
theorem Below.exists_ofOverrides_eq_error
    (below : p.Below)
    (plain : p.Plain)
    (lawful : l.Lawful)
    (listed : order.Perm p.overrides) :
    ∃ e, Settings.ofOverrides l order = .error (.library e) ∧ l.aboutValue e := by
  obtain ⟨e, refused, value⟩ := lawful.exists_setAll_eq_error .registered (known_of_perm listed)
    (fun v member => (judged_of_perm plain listed v member).imp_right And.left)
    (by simpa only [listed.mem_iff] using below.exists_undercuts)
  refine ⟨e, ?_, value⟩
  unfold Settings.ofOverrides
  rw [refused]
  rfl

/-- In whatever order the values are set, what is read is the draft of the proposal. -/
theorem exists_setAll_eq_ok
    (proper : ¬p.Below)
    (plain : p.Plain)
    (lawful : l.Lawful)
    (listed : order.Perm p.overrides) :
    ∃ c, l.setAll order (l.register OptionSpec.pipeline l.fresh) = .ok c ∧
      l.proposal c = .ok p.draft.proposal := by
  have fits (v : Override) (member : v ∈ order) : v.option.kind.Fits v.value :=
    (judged_of_perm plain listed v member).resolve_right fun ⟨_, below⟩ => proper below
  obtain ⟨c, all, made⟩ :=
    lawful.exists_setAll_eq_ok .registered (known_of_perm listed) fits
  rw [List.append_nil] at made
  have member_iff (v : Override) : v ∈ order.reverse ↔ v ∈ p.overrides :=
    List.mem_reverse.trans listed.mem_iff
  have once : (order.reverse.map (·.option.name)).Nodup :=
    (((List.reverse_perm order).trans listed).map _).nodup_iff.mpr p.nodup_overrides
  have read {o : OptionSpec} {x : Option o.kind.Value} (offered : ⟨o, x⟩ ∈ p.offers) :
      l.read o c = .ok (some (x.getD o.default)) := by
    refine lawful.read_eq made once (mem_pipeline_of_mem_offers offered) x ?_ ?_
    · rintro value rfl
      have member := (member_iff ⟨o, value⟩).mpr (mem_overrides.mpr offered)
      exact ⟨member, fits _ (List.mem_reverse.mp member)⟩
    · rintro rfl v member
      exact ne_name_of_mem_overrides offered ((member_iff v).mp member)
  refine ⟨c, all, ?_⟩
  unfold OptionLibrary.proposal
  have offered := List.forall_iff_forall_mem.mpr fun offer (there : offer ∈ p.offers) => read there
  obtain ⟨serviceTable, dropPriority, timeToLive, sweepInterval, keySpace⟩ := offered
  rw [serviceTable, dropPriority, timeToLive, sweepInterval, keySpace]
  rfl

end

/-! ### The draft of a proposal -/

/-- What is left open is not below zero. -/
theorem below_iff : p.Below ↔ p.draft.serviceTable < 0 ∨ p.draft.dropPriority < 0 := by
  have filled (o : Option Int) (default : Int) (proper : 0 ≤ default) :
      (∃ n, o = some n ∧ n < 0) ↔ o.getD default < 0 := by
    cases o <;> simp [proper]
  exact or_congr (filled _ _ (by decide)) (filled _ _ (by decide))

/-- A count below zero does not pass the check. -/
theorem Below.exists_check_eq_error (below : p.Below) : ∃ e, p.draft.check = .error e := by
  cases checked : p.draft.check with
  | error e => exact ⟨e, rfl⟩
  | ok s =>
      have same := Draft.check_eq_ok_iff.mp checked
      rw [below_iff, ← same] at below
      have table := s.serviceTable_nonneg
      have priority := s.dropPriority_nonneg
      omega

end Proposal

/-! ### The three ways -/

namespace Settings

/-- An error of options is about values. -/
def AboutValue {κ ε : Type} (l : OptionLibrary κ ε) : OptionError ε → Prop
  | .library e => l.aboutValue e
  | .missing => False
  | .draft _ => True

/-- Three ways to settings agree if they all lead to the same, or if all refuse the values.  Checks
of drafts are about values only. -/
inductive Agree {κ ε : Type} (l : OptionLibrary κ ε) : Except Draft.Error Settings →
    Except SectionError Settings → Except (OptionError ε) Settings → Prop where
  | accepted (s : Settings) : Agree l (.ok s) (.ok s) (.ok s)
  | refused {d : Draft.Error} {e : SectionError} {e' : OptionError ε} (value : e.IsValueError)
      (value' : AboutValue l e') : Agree l (.error d) (.error e) (.error e')

/--
Settings that are proposed are the same, or are refused in the same way, whether they are made
directly, read from a section that names them in any order, or set for the options of a controller
in any order.  What is left open has the same default.  Of the library that keeps the options no more
is assumed than its laws, and the name of the key space must not look like one with references.
-/
theorem agree_of_perm
    {κ ε : Type}
    {l : OptionLibrary κ ε}
    (lawful : l.Lawful)
    (p : Proposal)
    (plain : ∀ name, p.keySpace = some name → '$' ∉ name.toList ∧ '\\' ∉ name.toList)
    {order : List (String × Tree)}
    {order' : List Override}
    (listed : order.Perm p.values)
    (listed' : order'.Perm p.overrides) :
    Agree l p.draft.check (ofSection (order.map Proposal.entry)) (ofOverrides l order') := by
  rw [ofSection_of_ok (Proposal.ofSection_map_entry listed)]
  by_cases below : p.Below
  · obtain ⟨e, refused⟩ := below.exists_check_eq_error
    obtain ⟨e', refused', value⟩ := below.exists_ofOverrides_eq_error plain lawful listed'
    rw [refused, refused']
    exact .refused trivial value
  · obtain ⟨c, all, read⟩ := Proposal.exists_setAll_eq_ok below plain lawful listed'
    unfold ofOverrides ofController
    rw [all]
    change Agree l _ _ ((l.proposal c).mapError .library >>= Proposal.settings)
    rw [read]
    change Agree l _ _ p.draft.proposal.settings
    rw [Draft.settings_proposal]
    cases p.draft.check with
    | error e => exact .refused trivial trivial
    | ok s => exact .accepted s

/-- Of three values that are set, one is no number, and the section names them the other way
around. -/
theorem agree_of_perm_notNumber :
    let l := StandIn.library true
    let p : Proposal :=
      { serviceTable := some 3, timeToLive := some Binary64.notNumber, keySpace := some "edge" }
    let order : List (String × Tree) :=
      [("group_key_namespace", .ofString "edge"),
        ("pending_group_ttl", .float Binary64.notNumber), ("qq_table", .int 3)]
    let order' : List Override :=
      [⟨.timeToLive, Binary64.notNumber⟩, ⟨.serviceTable, (3 : Int)⟩, ⟨.keySpace, "edge"⟩]
    l.Lawful ∧ ('$' ∉ "edge".toList ∧ '\\' ∉ "edge".toList) ∧ order.Perm p.values ∧
      order'.Perm p.overrides ∧
      Agree l p.draft.check (ofSection (order.map Proposal.entry)) (ofOverrides l order') := by
  intro l p order order'
  have plain : '$' ∉ "edge".toList ∧ '\\' ∉ "edge".toList := by decide
  have listed : order.Perm p.values := List.reverse_perm [_, _, _]
  have listed' : order'.Perm p.overrides := .swap ..
  have lawful : l.Lawful := StandIn.lawful_library true
  refine ⟨lawful, plain, listed, listed', agree_of_perm lawful p ?_ listed listed'⟩
  rintro _ ⟨⟩
  exact plain

end Settings
end LineTerminal
