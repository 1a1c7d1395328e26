import LineTerminal.Network
import LineTerminal.Proofs.Group.Record

/-!
# Addresses in figures

An IPv4 address is written as its octets in decimal figures, with dots between them.  An address
that is written so is read back, and no slash occurs in it.
-/

namespace LineTerminal
namespace Numeral

/-- Items that each have a value have a list of values. -/
theorem mapM_eq_some_map
    {α β : Type}
    {read : α → Option β}
    {value : α → β}
    {items : List α}
    (each : ∀ a ∈ items, read a = some (value a)) :
    items.mapM read = some (items.map value) := by
  induction items with
  | nil => rfl
  | cons a rest ih =>
      have first := each a List.mem_cons_self
      have others := ih fun b member => each b (List.mem_cons_of_mem _ member)
      rw [List.mapM_cons, first, others]
      rfl

theorem digitValue?_of_isDigit {c : Char} (digit : c.isDigit = true) :
    digitValue? c = some (c.toNat - 48) := by
  have between : '0' ≤ c ∧ c ≤ '9' := by
    simpa [Char.isDigit, Char.le_def, UInt32.le_iff_toNat_le] using digit
  rw [digitValue?, if_pos between]

theorem isDigit_of_mem_digits {n : Nat} {c : Char} (member : c ∈ digits n) : c.isDigit = true :=
  Nat.isDigit_of_mem_toDigits (by decide) (by decide) member

theorem length_digits_le_iff {n k : Nat} (positive : 0 < k) :
    (digits n).length ≤ k ↔ n < 10 ^ k :=
  Nat.length_toDigits_le_iff (by decide) positive

/-- Only the number zero begins with the figure zero. -/
theorem head?_digits_ne {n : Nat} (positive : 0 < n) : (digits n).head? ≠ some '0' := by
  induction n using Nat.strongRecOn with
  | ind n ih =>
      by_cases small : n < 10
      · have single : digits n = [n.digitChar] := Nat.toDigits_of_lt_base small
        have code : n.digitChar.toNat = 48 + n := Nat.toNat_digitChar_of_lt_ten small
        rw [single, List.head?_cons, ne_eq, Option.some.injEq]
        intro zero
        rw [zero] at code
        exact absurd code (by simp; omega)
      · have split : digits n = digits (n / 10) ++ [(n % 10).digitChar] :=
          Nat.toDigits_of_base_le (by decide) (Nat.le_of_not_lt small)
        have nonempty : digits (n / 10) ≠ [] := Nat.toDigits_ne_nil
        rw [split, List.head?_append, Option.or_of_isSome (by simpa using nonempty)]
        exact ih _ (by omega) (by omega)

/-- The value of figures, where those read before count ten times. -/
theorem ofDigits_eq_ofDigitChars (cs : List Char) :
    ofDigits 10 (cs.map fun c => c.toNat - 48) = Nat.ofDigitChars 10 cs 0 := by
  rw [ofDigits, Nat.ofDigitChars_eq_foldl, List.foldl_map]
  refine congrArg (fun f => List.foldl f 0 cs) ?_
  funext sofar c
  rw [Nat.mul_comm]
  rfl

/-- A number is read back from its figures, if these are not too many. -/
theorem natural?_digits {n : Nat} (few : (digits n).length ≤ maxDigits) :
    natural? (digits n) = some n := by
  have nonempty : digits n ≠ [] := Nat.toDigits_ne_nil
  have values : (digits n).mapM digitValue? = some ((digits n).map fun c => c.toNat - 48) :=
    mapM_eq_some_map fun c member => digitValue?_of_isDigit (isDigit_of_mem_digits member)
  rw [natural?, if_neg (by simp [nonempty, few]), values, Option.map_some,
    ofDigits_eq_ofDigitChars]
  exact congrArg some Nat.ofDigitChars_ten_toDigits

/-- No number is read where a figure is something else. -/
theorem natural?_eq_none
    {cs : List Char}
    {c : Char}
    (member : c ∈ cs)
    (other : digitValue? c = none) :
    natural? cs = none := by
  have unread : cs.mapM digitValue? = none := by
    induction cs with
    | nil => cases member
    | cons d rest ih =>
        rw [List.mapM_cons]
        rcases List.mem_cons.mp member with rfl | later
        · rw [other]
          rfl
        · rw [ih later]
          cases digitValue? d <;> rfl
  rw [natural?, unread]
  exact ite_self none

end Numeral

namespace Network

/-- Octets in decimal figures, with dots between them. -/
def dotted : Bytes → List Char
  | [] => []
  | [octet] => Numeral.digits octet.toNat
  | octet :: next :: rest => Numeral.digits octet.toNat ++ '.' :: dotted (next :: rest)

theorem length_digits_octet (octet : UInt8) : (Numeral.digits octet.toNat).length ≤ 3 := by
  have small : octet.toNat < 256 := octet.toNat_lt
  exact (Numeral.length_digits_le_iff (by decide)).mpr (by omega)

/-- An octet is read back from its figures. -/
theorem octet?_digits (octet : UInt8) : octet? (Numeral.digits octet.toNat) = some octet.toNat := by
  have small : octet.toNat < 256 := octet.toNat_lt
  have short := length_digits_octet octet
  have few : (Numeral.digits octet.toNat).length ≤ Numeral.maxDigits :=
    Nat.le_trans short (by decide)
  have unpadded : Numeral.digits octet.toNat = ['0'] ∨
      (Numeral.digits octet.toNat).head? ≠ some '0' := by
    rcases Nat.eq_zero_or_pos octet.toNat with zero | positive
    · rw [zero]
      exact .inl rfl
    · exact .inr (Numeral.head?_digits_ne positive)
  rw [octet?, Numeral.natural?_digits few]
  exact if_pos ⟨short, unpadded, Nat.le_of_lt_succ small⟩

theorem not_mem_digits {c : Char} (other : c.isDigit = false) (n : Nat) : c ∉ Numeral.digits n := by
  intro member
  rw [Numeral.isDigit_of_mem_digits member] at other
  cases other

/-- The fields between the dots are the figures of the octets. -/
theorem fields_dotted (octet : UInt8) (rest : Bytes) :
    Text.fields '.' (dotted (octet :: rest)) =
      (octet :: rest).map fun octet => Numeral.digits octet.toNat := by
  induction rest generalizing octet with
  | nil => exact Text.fields_of_not_mem (not_mem_digits rfl _)
  | cons next rest ih =>
      rw [dotted, Text.fields_append (not_mem_digits rfl _), ih]
      rfl

/-- There is no slash in an address. -/
theorem slash_not_mem_dotted (octets : Bytes) : '/' ∉ dotted octets := by
  induction octets with
  | nil => exact List.not_mem_nil
  | cons octet rest ih =>
      have first : '/' ∉ Numeral.digits octet.toNat := not_mem_digits rfl _
      cases rest with
      | nil => exact first
      | cons next rest =>
          rw [dotted, List.mem_append, List.mem_cons]
          simp [first, ih]

/-- An address is read back from its octets in figures. -/
theorem address4?_dotted (a b c d : UInt8) :
    address4? (dotted [a, b, c, d]) = some (Bytes.toNat [a, b, c, d]) := by
  have octets : ([a, b, c, d].map fun octet => Numeral.digits octet.toNat).mapM octet? =
      some ([a, b, c, d].map UInt8.toNat) := by
    simp only [List.map_cons, List.map_nil, List.mapM_cons, List.mapM_nil, octet?_digits]
    rfl
  unfold address4?
  rw [fields_dotted]
  exact congrArg (Option.map (Numeral.ofDigits 256)) octets

end Network
end LineTerminal
