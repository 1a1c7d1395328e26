import LineTerminal.Rule
import Mathlib.Data.List.Basic

/-!
# What comes first

Of several items with a property often only the first one counts: the first criterion on a field,
the first output, the first push or pop of a tag, the first of several flaws of an objective.

A check looks for some flaws in their order.  It refuses for the first one that it finds, and passes
when there is none.  Checks in sequence look for the flaws of the first one first.
-/

namespace LineTerminal
variable {α : Type}

/-- The first item of a list that has a property. -/
def IsFirst (P : α → Prop) (items : List α) (a : α) : Prop :=
  ∃ before after, items = before ++ a :: after ∧ P a ∧ ∀ b ∈ before, ¬P b

namespace IsFirst
variable {P : α → Prop}
variable {items : List α}
variable {a b : α}

theorem mem (first : IsFirst P items a) : a ∈ items := by
  obtain ⟨before, after, rfl, -, -⟩ := first
  exact List.mem_append_right _ List.mem_cons_self

theorem holds (first : IsFirst P items a) : P a := by
  obtain ⟨-, -, -, holds, -⟩ := first
  exact holds

/-- The first item of a list is the head, or the first one of the tail. -/
theorem cons_iff : IsFirst P (b :: items) a ↔ P b ∧ a = b ∨ ¬P b ∧ IsFirst P items a := by
  constructor
  · rintro ⟨before, after, split, holds, others⟩
    cases before with
    | nil =>
        obtain ⟨rfl, -⟩ := List.cons.inj split
        exact .inl ⟨holds, rfl⟩
    | cons c rest =>
        obtain ⟨rfl, rfl⟩ := List.cons.inj split
        obtain ⟨other, others⟩ := List.forall_mem_cons.mp others
        exact .inr ⟨other, rest, after, rfl, holds, others⟩
  · rintro (⟨holds, rfl⟩ | ⟨other, before, after, rfl, holds, others⟩)
    · exact ⟨[], items, rfl, holds, by simp⟩
    · exact ⟨b :: before, after, rfl, holds, List.forall_mem_cons.mpr ⟨other, others⟩⟩

theorem not_nil : ¬IsFirst P [] a := by
  rintro ⟨before, after, split, -, -⟩
  simp at split

/-- The first item of two lists is in the first one if it has such an item. -/
theorem append_iff {others : List α} :
    IsFirst P (items ++ others) a ↔
      IsFirst P items a ∨ (∀ b ∈ items, ¬P b) ∧ IsFirst P others a := by
  induction items with
  | nil => simp [not_nil]
  | cons c rest ih =>
      rw [List.cons_append, cons_iff, cons_iff, ih, List.forall_mem_cons]
      tauto

/-- There is one first item at most. -/
theorem unique (first : IsFirst P items a) (second : IsFirst P items b) : a = b := by
  induction items with
  | nil => exact absurd first not_nil
  | cons c rest ih =>
      rcases cons_iff.mp first with ⟨holds, rfl⟩ | ⟨other, first⟩
      · rcases cons_iff.mp second with ⟨-, rfl⟩ | ⟨other, -⟩
        · rfl
        · exact absurd holds other
      · rcases cons_iff.mp second with ⟨holds, -⟩ | ⟨-, second⟩
        · exact absurd holds other
        · exact ih first second

end IsFirst

/-- What a search finds comes first. -/
theorem find?_eq_some_iff_isFirst
    {P : α → Prop}
    [DecidablePred P]
    {items : List α}
    {a : α} :
    items.find? (fun b => P b) = some a ↔ IsFirst P items a := by
  rw [List.find?_eq_some_iff_append]
  unfold IsFirst
  simp only [decide_eq_true_eq, Bool.not_eq_true', decide_eq_false_iff_not]
  constructor
  · rintro ⟨holds, before, after, split, others⟩
    exact ⟨before, after, split, holds, others⟩
  · rintro ⟨before, after, split, holds, others⟩
    exact ⟨holds, before, after, split, others⟩

/-- If some item has the property, one is the first. -/
theorem exists_isFirst_iff {P : α → Prop} {items : List α} :
    (∃ a, IsFirst P items a) ↔ ∃ a ∈ items, P a := by
  constructor
  · rintro ⟨a, first⟩
    exact ⟨a, first.mem, first.holds⟩
  · rintro ⟨a, member, holds⟩
    induction items with
    | nil => cases member
    | cons b rest ih =>
        by_cases head : P b
        · exact ⟨b, IsFirst.cons_iff.mpr (.inl ⟨head, rfl⟩)⟩
        · have later : a ∈ rest := by
            rcases List.mem_cons.mp member with rfl | later
            · exact absurd holds head
            · exact later
          obtain ⟨c, first⟩ := ih later
          exact ⟨c, IsFirst.cons_iff.mpr (.inr ⟨head, first⟩)⟩

/-! ### Checks -/

theorem orRefuse_some_bind
    {β : Type}
    (r : Refusal)
    (a : α)
    (rest : α → Except Rejection β) :
    (orRefuse r (some a) >>= rest) = rest a := rfl

/-- A check looks for flaws in their order, and passes with a good answer when there is none. -/
structure Checks {φ : Type} (In : φ → Prop) (code : φ → ErrorCode) (flaws : List φ)
    (check : Except Rejection α) (Good : α → Prop) : Prop where
  refuses : ∀ flaw, IsFirst In flaws flaw →
    ∃ r : Refusal, r.code = code flaw ∧ check = .error (.refused r)
  passes : (∀ flaw ∈ flaws, ¬In flaw) → ∃ a, check = .ok a ∧ Good a

namespace Checks
variable {φ β : Type}
variable {In : φ → Prop}
variable {code : φ → ErrorCode}
variable {flaw : φ}
variable {Good : α → Prop}

/-- What cannot fail looks for nothing. -/
theorem ok {a : α} (good : Good a) : Checks In code [] (.ok a) Good where
  refuses _ first := absurd first IsFirst.not_nil
  passes _ := ⟨a, rfl, good⟩

/-- A flaw that is absent can be looked for. -/
theorem skip
    (absent : ¬In flaw)
    {flaws : List φ}
    {check : Except Rejection α}
    (rest : Checks In code flaws check Good) :
    Checks In code (flaw :: flaws) check Good where
  refuses other first := by
    rcases IsFirst.cons_iff.mp first with ⟨present, -⟩ | ⟨-, first⟩
    · exact absurd present absent
    · exact rest.refuses other first
  passes others_absent := rest.passes (List.forall_mem_cons.mp others_absent).2

/-- A flaw that is present decides. -/
theorem stop
    (present : In flaw)
    {r : Refusal}
    (code_eq : r.code = code flaw)
    {flaws : List φ} :
    Checks In code (flaw :: flaws) (.error (.refused r)) Good where
  refuses other first := by
    rcases IsFirst.cons_iff.mp first with ⟨-, rfl⟩ | ⟨absent, -⟩
    · exact ⟨r, code_eq, rfl⟩
    · exact absurd present absent
  passes absent := absurd present (absent flaw List.mem_cons_self)

/-- A check that something is there. -/
theorem orRefuse
    (flaw : φ)
    {r : Refusal}
    {o : Option α}
    (code_eq : r.code = code flaw)
    (missing_iff : o = none ↔ In flaw) :
    Checks In code [flaw] (LineTerminal.orRefuse r o) fun a => o = some a := by
  cases o with
  | none => exact stop (missing_iff.mp rfl) code_eq
  | some a => exact skip (fun present => nomatch missing_iff.mpr present) (ok rfl)

/-- A check of a condition. -/
theorem require
    (flaw : φ)
    {r : Refusal}
    {condition : Prop}
    [Decidable condition]
    (code_eq : r.code = code flaw)
    (violated_iff : ¬condition ↔ In flaw) :
    Checks In code [flaw] (LineTerminal.require condition r) fun _ => condition := by
  unfold LineTerminal.require
  split
  · next holds => exact skip (fun present => violated_iff.mpr present holds) (ok holds)
  · next violated => exact stop (violated_iff.mp violated) code_eq

/-- Checks in sequence. -/
theorem bind
    {flaws others : List φ}
    {check : Except Rejection α}
    {rest : α → Except Rejection β}
    {Better : β → Prop}
    (first : Checks In code flaws check Good)
    (second : ∀ a, Good a → Checks In code others (rest a) Better) :
    Checks In code (flaws ++ others) (check >>= rest) Better where
  refuses flaw earliest := by
    rcases IsFirst.append_iff.mp earliest with found | ⟨absent, found⟩
    · obtain ⟨r, code_eq, refused⟩ := first.refuses flaw found
      exact ⟨r, code_eq, by rw [refused]; rfl⟩
    · obtain ⟨a, passed, good⟩ := first.passes absent
      rw [passed]
      exact (second a good).refuses flaw found
  passes absent := by
    obtain ⟨a, passed, good⟩ := first.passes fun flaw member =>
      absent flaw (List.mem_append_left _ member)
    rw [passed]
    exact (second a good).passes fun flaw member => absent flaw (List.mem_append_right _ member)

/-- A check finds a first flaw, or passes. -/
theorem total
    {flaws : List φ}
    {check : Except Rejection α}
    (checks : Checks In code flaws check Good) :
    (∃ flaw r, IsFirst In flaws flaw ∧ r.code = code flaw ∧ check = .error (.refused r)) ∨
      (∀ flaw ∈ flaws, ¬In flaw) ∧ ∃ a, check = .ok a ∧ Good a := by
  by_cases present : ∃ flaw ∈ flaws, In flaw
  · obtain ⟨flaw, first⟩ := exists_isFirst_iff.mpr present
    obtain ⟨r, code_eq, refused⟩ := checks.refuses flaw first
    exact .inl ⟨flaw, r, first, code_eq, refused⟩
  · have absent : ∀ flaw ∈ flaws, ¬In flaw := fun flaw member flawed =>
      present ⟨flaw, member, flawed⟩
    exact .inr ⟨absent, checks.passes absent⟩

end Checks
end LineTerminal
