import LineTerminal.Binary64

/-!
# The order of floating-point numbers

What is no number compares with nothing.  So two comparisons that exclude each other
need not be complementary: what is not at most zero is positive, or it is no number.
Everything else is at most infinity, which absorbs the numbers that are added to it or
subtracted from it.
-/

namespace LineTerminal
namespace Binary64
open Float.Model Float.Model.UnpackedFloat
variable {x y : Float}

/-- Positive infinity. -/
def infinity : Float := ofBits false infinityBits

/-- No number. -/
def notNumber : Float := ofBits false nanBits

/-- What the bits of a number stand for. -/
def unpacked (x : Float) : UnpackedFloat := x.toModel.unpack

theorem unpacked_zero : unpacked 0 = .zero .positive := rfl

theorem unpacked_infinity : unpacked infinity = .infinity .positive := rfl

theorem isNaN_notNumber : notNumber.isNaN = true := rfl

theorem isNaN_eq (x : Float) : x.isNaN = (unpacked x).isNaN := rfl

theorem le_iff_unpacked : x ≤ y ↔ (unpacked x).le (unpacked y) = true := by
  exact decide_eq_true_iff

theorem lt_iff_unpacked : x < y ↔ (unpacked x).lt (unpacked y) = true := by
  exact decide_eq_true_iff

theorem unpacked_of_isNaN (none : x.isNaN = true) : unpacked x = .notANumber := by
  rw [isNaN_eq] at none
  cases parts : unpacked x with
  | notANumber => rfl
  | infinity | zero | finite =>
      rw [parts] at none
      cases none

/-- What is no number is below nothing. -/
theorem not_le_of_isNaN (none : x.isNaN = true) (y : Float) : ¬x ≤ y := by
  rw [le_iff_unpacked, unpacked_of_isNaN none]
  exact nofun

/-- What is not at most zero is positive, unless it is no number. -/
theorem not_le_zero_iff : ¬x ≤ 0 ↔ 0 < x ∨ x.isNaN = true := by
  rw [le_iff_unpacked, lt_iff_unpacked, isNaN_eq, unpacked_zero]
  cases unpacked x with
  | notANumber => decide
  | infinity sign | zero sign => cases sign <;> decide
  | finite sign =>
      cases sign with
      | negative =>
          change ¬true = true ↔ false = true ∨ false = true
          decide
      | positive =>
          change ¬false = true ↔ true = true ∨ false = true
          decide

/-- What is positive is a number. -/
theorem isNaN_of_pos (positive : 0 < x) : x.isNaN = false := by
  refine Bool.eq_false_iff.2 fun none => ?_
  rw [lt_iff_unpacked, unpacked_of_isNaN none, unpacked_zero] at positive
  cases positive

/-- All that is not at most zero is positive, exactly when it is a number. -/
theorem pos_iff_of_not_le_zero (above : ¬x ≤ 0) : 0 < x ↔ x.isNaN = false := by
  refine ⟨isNaN_of_pos, fun number => ?_⟩
  refine (not_le_zero_iff.1 above).resolve_right fun none => ?_
  cases number.symm.trans none

/-- Every number is at most infinity. -/
theorem le_infinity (number : x.isNaN = false) : x ≤ infinity := by
  rw [isNaN_eq] at number
  rw [le_iff_unpacked, unpacked_infinity]
  cases parts : unpacked x with
  | notANumber =>
      rw [parts] at number
      cases number
  | infinity sign | zero sign | finite sign => cases sign <;> rfl

/-- Nothing is left of a finite number that is added to infinity. -/
theorem add_infinity (bounded : x.isFinite = true) : x + infinity = infinity := by
  have opened : x + infinity =
      .ofModel (pack (UnpackedFloat.add .binary64 (unpacked x) (unpacked infinity))) := rfl
  have finite : (unpacked x).isFinite = true := bounded
  rw [opened, unpacked_infinity]
  cases parts : unpacked x with
  | notANumber | infinity =>
      rw [parts] at finite
      cases finite
  | zero | finite => rfl

/-- Nor of one that is subtracted from it. -/
theorem infinity_sub (bounded : x.isFinite = true) : infinity - x = infinity := by
  have opened : infinity - x =
      .ofModel (pack (UnpackedFloat.sub .binary64 (unpacked infinity) (unpacked x))) := rfl
  have finite : (unpacked x).isFinite = true := bounded
  rw [opened, unpacked_infinity]
  cases parts : unpacked x with
  | notANumber | infinity =>
      rw [parts] at finite
      cases finite
  | zero | finite => rfl

end Binary64
end LineTerminal
