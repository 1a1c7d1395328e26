import LineTerminal.Selector
import Mathlib.Data.List.Induction
import Mathlib.Data.List.Nodup

/-!
# Selectors are told by the last criterion on each field

A selector is given by criteria of which some may be missing, or be on one field.  On each field it
has the last one that is given.  Nothing else about it can be told, whatever the order in which its
criteria are looked at: selectors that agree on all fields are equal.
-/

namespace LineTerminal

namespace Criterion
variable {criteria order : List Criterion}
variable {field : Field}
variable {c : Criterion}

@[simp] theorem find?_cons (c : Criterion) (rest : List Criterion) (field : Field) :
    find? (c :: rest) field = if c.field = field then some c else find? rest field := by
  by_cases asked : c.field = field <;> simp [find?, asked]

theorem field_of_find? (found : find? criteria field = some c) : c.field = field := by
  simpa using List.find?_some found

/-- Where no field occurs twice, what is found for a field is the only criterion on it. -/
theorem find?_eq_some_iff
    (distinct : (criteria.map (·.field)).Nodup) :
    find? criteria field = some c ↔ c ∈ criteria ∧ c.field = field := by
  constructor
  · exact fun found => ⟨List.mem_of_find?_eq_some found, field_of_find? found⟩
  · rintro ⟨member, rfl⟩
    cases found : find? criteria c.field with
    | none => exact absurd (decide_eq_true rfl) (List.find?_eq_none.mp found c member)
    | some d =>
        have there : d ∈ criteria := List.mem_of_find?_eq_some found
        rw [List.inj_on_of_nodup_map distinct there member (field_of_find? found)]

/-- So it does not matter in which order the criteria are looked at. -/
theorem find?_of_perm
    (distinct : (criteria.map (·.field)).Nodup)
    (shuffled : order.Perm criteria) :
    find? order field = find? criteria field := by
  have distinct' : (order.map (·.field)).Nodup := (shuffled.map _).nodup_iff.mpr distinct
  refine Option.ext fun c => ?_
  rw [find?_eq_some_iff distinct', find?_eq_some_iff distinct, shuffled.mem_iff]

/-- An inserted criterion is found for its field, and the others are as before. -/
theorem find?_insertInto (c : Criterion) (criteria : List Criterion) (field : Field) :
    find? (c.insertInto criteria) field =
      if c.field = field then some c else find? criteria field := by
  induction criteria with
  | nil => rw [insertInto, find?_cons]
  | cons d rest ih =>
      unfold insertInto
      split
      · rw [find?_cons]
      · split
        · next same =>
          -- The criterion takes the place of one on its own field.
          rw [find?_cons, find?_cons, ← same]
          split <;> rfl
        · next other =>
          rw [find?_cons, find?_cons, ih]
          by_cases asked : d.field = field
          · rw [if_pos asked, if_pos asked, if_neg fun same => other (same.trans asked.symm)]
          · rw [if_neg asked, if_neg asked]

/-- A criterion that comes after all others is added at the end. -/
theorem insertInto_of_before
    (last : ∀ d ∈ criteria, d.Before c) :
    c.insertInto criteria = criteria ++ [c] := by
  induction criteria with
  | nil => rfl
  | cons d rest ih =>
      obtain ⟨before, others⟩ := List.forall_mem_cons.mp last
      have not_before : ¬c.Before d := Nat.lt_asymm before
      have other : c.field ≠ d.field := by
        intro same
        unfold Before at before
        rw [same] at before
        exact Nat.lt_irrefl _ before
      rw [insertInto, if_neg not_before, if_neg other, ih others, List.cons_append]

/-- The last of the criteria that are given on a field. -/
def lastOn? (given : List (Option Criterion)) (field : Field) : Option Criterion :=
  ((given.filterMap id).filter fun c => c.field = field).getLast?

end Criterion

namespace Selector
variable {s t : Selector}
variable {field : Field}
variable {c : Criterion}

/-! ### Criteria that are there -/

/-- The order of a selector is strict, so it has no field twice. -/
theorem nodup_fields (s : Selector) : (s.toList.map (·.field)).Nodup := by
  refine List.pairwise_map.mpr (s.ordered.imp ?_)
  intro a b before same
  unfold Criterion.Before at before
  rw [same] at before
  exact Nat.lt_irrefl _ before

/-- The criterion on a field is the only one. -/
theorem get?_eq_some_iff : s.get? field = some c ↔ c ∈ s.toList ∧ c.field = field :=
  Criterion.find?_eq_some_iff s.nodup_fields

theorem get?_eq_none_iff : s.get? field = none ↔ ∀ c ∈ s.toList, c.field ≠ field := by
  simp [get?, Criterion.find?, toList]

/-- What is found for a field is on that field. -/
theorem field_of_get? (found : s.get? field = some c) : c.field = field :=
  Criterion.field_of_find? found

/-- A field is matched with one operand at most. -/
theorem mem_iff_of_get? (found : s.get? field = some c) (v : Value) :
    ⟨field, v⟩ ∈ s.toList ↔ c.value = v := by
  constructor
  · intro member
    have other := get?_eq_some_iff.mpr ⟨member, rfl⟩
    cases found.symm.trans other
    rfl
  · rintro rfl
    obtain ⟨member, rfl⟩ := get?_eq_some_iff.mp found
    exact member

/-! ### Selectors of lists -/

/-- The selector of a list in order has the criteria of the list. -/
theorem toList_ofList
    {criteria : List Criterion}
    (ordered : criteria.Pairwise Criterion.Before) :
    (ofList criteria).toList = criteria := by
  unfold ofList
  -- The criteria are inserted from left to right, so the induction takes off the last one.
  induction criteria using List.reverseRecOn with
  | nil => rfl
  | append_singleton rest c ih =>
      obtain ⟨ordered, -, last⟩ := List.pairwise_append.mp ordered
      rw [List.foldl_append]
      change Criterion.insertInto c (rest.foldl insert empty).toList = _
      rw [ih ordered, Criterion.insertInto_of_before]
      exact fun d member => last d member c (List.mem_singleton_self c)

@[simp] theorem get?_insert (s : Selector) (c : Criterion) (field : Field) :
    (s.insert c).get? field = if c.field = field then some c else s.get? field :=
  Criterion.find?_insertInto c s.criteria field

/-- On each field, the selector of a list has the last criterion of the list. -/
theorem get?_ofList (criteria : List Criterion) (field : Field) :
    (ofList criteria).get? field = (criteria.filter fun c => c.field = field).getLast? := by
  unfold ofList
  induction criteria using List.reverseRecOn with
  | nil => rfl
  | append_singleton rest c ih =>
      rw [List.foldl_append, List.filter_append, List.foldl_cons, List.foldl_nil, get?_insert, ih]
      by_cases asked : c.field = field <;> simp [asked]

/-- On each field, a selector has the last criterion that is given. -/
theorem get?_ofOptions (given : List (Option Criterion)) (field : Field) :
    (ofOptions given).get? field = Criterion.lastOn? given field :=
  get?_ofList _ field

@[simp] theorem ofOptions_map_some (criteria : List Criterion) :
    ofOptions (criteria.map some) = ofList criteria := by
  simp [ofOptions, List.filterMap_map]

/-! ### Equality -/

/-- Selectors with the same criteria are equal, since there is one order only. -/
theorem eq_of_mem_iff (same : ∀ c, c ∈ s.toList ↔ c ∈ t.toList) : s = t := by
  have shuffled : s.toList.Perm t.toList :=
    (List.perm_ext_iff_of_nodup s.nodup_fields.of_map t.nodup_fields.of_map).mpr same
  have listed : s.toList = t.toList :=
    shuffled.eq_of_pairwise (fun _ _ _ _ before after => absurd after (Nat.lt_asymm before))
      s.ordered t.ordered
  cases s
  cases t
  cases listed
  rfl

/-- Selectors that agree on all fields are equal. -/
theorem eq_of_get?_eq (agree : ∀ field, s.get? field = t.get? field) : s = t := by
  refine eq_of_mem_iff fun c => ?_
  have mem_iff (u : Selector) : c ∈ u.toList ↔ u.get? c.field = some c := by
    rw [get?_eq_some_iff, and_iff_left rfl]
  rw [mem_iff, mem_iff, agree]

/-- A selector comes back from its criteria in any order. -/
theorem ofList_of_perm
    {order : List Criterion}
    (shuffled : order.Perm s.toList) :
    ofList order = s := by
  refine eq_of_get?_eq fun field => ?_
  rw [get?_ofList, List.getLast?_filter]
  exact Criterion.find?_of_perm s.nodup_fields (order.reverse_perm.trans shuffled)

/--
Selectors are canonical.  The selector of criteria of which some are missing has no field twice, and
on each field it has the last criterion that is given, in whatever order its criteria are looked at.
Two selectors are equal exactly when they have the same criteria, and exactly when the last
criterion that was given for either is the same on each field.  From its own criteria, in any order,
a selector comes back.
-/
theorem told_by_last :
    (∀ given : List (Option Criterion),
      ((ofOptions given).toList.map (·.field)).Nodup ∧
      (∀ field, (ofOptions given).get? field = Criterion.lastOn? given field) ∧
      ∀ order : List Criterion, order.Perm (ofOptions given).toList →
        ∀ field, Criterion.find? order field = Criterion.lastOn? given field) ∧
    (∀ s t : Selector, s = t ↔ ∀ c, c ∈ s.toList ↔ c ∈ t.toList) ∧
    (∀ given given' : List (Option Criterion),
      ofOptions given = ofOptions given' ↔
        ∀ field, Criterion.lastOn? given field = Criterion.lastOn? given' field) ∧
    ∀ (s : Selector) (order : List Criterion), order.Perm s.toList →
      ofOptions (order.map some) = s := by
  refine ⟨fun given => ⟨nodup_fields _, get?_ofOptions given, ?_⟩, fun s t => ?_, ?_, ?_⟩
  · intro order shuffled field
    exact (Criterion.find?_of_perm (nodup_fields _) shuffled).trans (get?_ofOptions given field)
  · exact ⟨fun same c => same ▸ Iff.rfl, eq_of_mem_iff⟩
  · intro given given'
    simp only [← get?_ofOptions]
    exact ⟨fun same field => same ▸ rfl, eq_of_get?_eq⟩
  · intro s order shuffled
    rw [ofOptions_map_some, ofList_of_perm shuffled]

/-- A port that is given twice, with a missing criterion in between. -/
theorem told_by_last_replaced :
    let given : List (Option Criterion) :=
      [some (.inPort (.number 1)), some (.vlan (.number 5)), none, some (.inPort (.number 2))]
    let order : List Criterion := [.vlan (.number 5), .inPort (.number 2)]
    order.Perm (ofOptions given).toList ∧
      Criterion.find? order .inPort = some (.inPort (.number 2)) ∧
      ofOptions (order.map some) = ofOptions given := by
  intro given order
  have shuffled : order.Perm (ofOptions given).toList := .swap _ _ _
  obtain ⟨determined, -, -, rebuilt⟩ := told_by_last
  exact ⟨shuffled, (determined given).2.2 order shuffled .inPort, rebuilt _ order shuffled⟩

end Selector
end LineTerminal
