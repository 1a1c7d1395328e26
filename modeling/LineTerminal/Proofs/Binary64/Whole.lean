import LineTerminal.Binary64

/-!
# Whole numbers beyond the floating-point numbers

The greatest finite number has 53 bits, of which the first stands for `2 ^ 1023`.  A whole number
that is half a unit of the last of these bits above it, or more, is rounded up to a number that
there is not.
-/

namespace LineTerminal
namespace Binary64
variable {a b : Nat}

/-- The first bit of the greatest finite number stands for this power of two. -/
def topExponent : Nat := 1023

/-- The least whole number that is too large: half a unit above the greatest finite number. -/
def leastUnbounded : Nat := Nat.pow 2 (topExponent + 1) - Nat.pow 2 (topExponent - 53)

/-! ### Rounding to the nearest -/

/-- A quotient is rounded down or up. -/
theorem divNearestEven_range (a b : Nat) :
    a / b ≤ divNearestEven a b ∧ divNearestEven a b ≤ a / b + 1 := by
  unfold divNearestEven
  dsimp only
  split
  · omega
  · split <;> omega

/-- An odd quotient is rounded up from half-way on. -/
theorem divNearestEven_eq_succ_iff (odd : a / b % 2 = 1) :
    divNearestEven a b = a / b + 1 ↔ b ≤ 2 * (a % b) := by
  unfold divNearestEven
  dsimp only
  split
  · omega
  · split <;> omega

/-! ### The mantissa of a whole number -/

/-- The exponent of a whole number is told by its first bit. -/
theorem exponentOf_one (nonzero : a ≠ 0) : exponentOf a 1 = (Nat.log2 a : Int) - 52 := by
  have first : ¬a < Nat.pow 2 (Nat.log2 a) := Nat.not_lt.mpr (Nat.log2_self_le nonzero)
  have width : (53 : Int) + ((Nat.log2 a : Int) - (Nat.log2 1 : Nat) - 53) = Nat.log2 a := by
    rw [show Nat.log2 1 = 0 from rfl]
    omega
  have unscaled : (-(Nat.log2 a : Int)).toNat = 0 := by omega
  unfold exponentOf
  dsimp only
  rw [width, unscaled, Int.toNat_natCast, Nat.one_mul, show Nat.pow 2 0 = 1 from rfl, Nat.mul_one,
    if_neg first, show Nat.log2 1 = 0 from rfl]
  unfold leastExponent
  omega

/-- A whole number, filled up with zeros to 53 bits. -/
def filled (a : Nat) : Nat := a * Nat.pow 2 (52 - Nat.log2 a)

/-- The unit of the last of the first 53 bits of a whole number. -/
def lastUnit (a : Nat) : Nat := Nat.pow 2 (Nat.log2 a - 52)

theorem lastUnit_pos (a : Nat) : 0 < lastUnit a := Nat.pow_pos (by decide)

/-- The first of the 53 bits of a whole number is set. -/
theorem filled_div_lastUnit_range (nonzero : a ≠ 0) :
    leastNormal ≤ filled a / lastUnit a ∧ filled a / lastUnit a < 2 * leastNormal := by
  have positive : 0 < Nat.pow 2 (52 - Nat.log2 a) := Nat.pow_pos (by decide)
  have low : Nat.pow 2 (Nat.log2 a) ≤ a := Nat.log2_self_le nonzero
  have high : a < Nat.pow 2 (1 + Nat.log2 a) := Nat.add_comm .. ▸ Nat.lt_log2_self
  -- Either there are zeros to fill up with or there are bits to cut off.
  have shifted (k : Nat) : Nat.pow 2 (k + 52) * lastUnit a =
      Nat.pow 2 (k + Nat.log2 a) * Nat.pow 2 (52 - Nat.log2 a) := by
    calc Nat.pow 2 (k + 52) * lastUnit a
      _ = Nat.pow 2 (k + 52 + (Nat.log2 a - 52)) := (Nat.pow_add ..).symm
      _ = Nat.pow 2 (k + Nat.log2 a + (52 - Nat.log2 a)) := congrArg _ (by omega)
      _ = _ := Nat.pow_add ..
  constructor
  · refine (Nat.le_div_iff_mul_le (lastUnit_pos a)).mpr ?_
    have same := shifted 0
    rw [Nat.zero_add, Nat.zero_add] at same
    exact Nat.le_trans (Nat.le_of_eq same) (Nat.mul_le_mul_right _ low)
  · refine (Nat.div_lt_iff_lt_mul (lastUnit_pos a)).mpr ?_
    exact Nat.lt_of_lt_of_eq (Nat.mul_lt_mul_of_pos_right high positive) (shifted 1).symm

/-- The mantissa of a whole number. -/
def mantissaOf (a : Nat) : Nat := divNearestEven (filled a) (lastUnit a)

theorem mantissaOf_range (nonzero : a ≠ 0) :
    leastNormal ≤ mantissaOf a ∧ mantissaOf a ≤ 2 * leastNormal := by
  obtain ⟨low, high⟩ := filled_div_lastUnit_range nonzero
  obtain ⟨down, up⟩ := divNearestEven_range (filled a) (lastUnit a)
  unfold mantissaOf
  omega

/-- The bits of a whole number are cut off at infinity. -/
theorem bitsOfQuotient_one (nonzero : a ≠ 0) :
    bitsOfQuotient a 1 =
      min ((Nat.log2 a + 1023) * leastNormal + (mantissaOf a - leastNormal)) infinityBits := by
  have up : ((Nat.log2 a : Int) - 52).toNat = Nat.log2 a - 52 := by omega
  have down : (-((Nat.log2 a : Int) - 52)).toNat = 52 - Nat.log2 a := by omega
  have biased : ((Nat.log2 a : Int) - 52 + 1075).toNat = Nat.log2 a + 1023 := by omega
  unfold bitsOfQuotient
  rw [if_neg nonzero]
  dsimp only
  rw [exponentOf_one nonzero, up, down, biased, Nat.one_mul]
  exact congrArg (min · infinityBits) (if_neg (Nat.not_lt.mpr (mantissaOf_range nonzero).1))

/-! ### Beyond the greatest number -/

/-- A whole number is rounded up to the next power of two from half a unit below it on. -/
theorem mantissaOf_eq_iff (long : 53 ≤ Nat.log2 a) :
    mantissaOf a = 2 * leastNormal ↔
      Nat.pow 2 (Nat.log2 a + 1) ≤ a + Nat.pow 2 (Nat.log2 a - 53) := by
  have nonzero : a ≠ 0 := by
    rintro rfl
    cases long
  have unit_eq : lastUnit a = Nat.pow 2 (Nat.log2 a - 53) * 2 := by
    rw [lastUnit, show Nat.log2 a - 52 = Nat.log2 a - 53 + 1 by omega]
    exact Nat.pow_succ ..
  have power_eq : Nat.pow 2 (Nat.log2 a + 1) = 2 * leastNormal * lastUnit a := by
    rw [lastUnit, show Nat.log2 a + 1 = 53 + (Nat.log2 a - 52) by omega]
    exact Nat.pow_add ..
  have filled_eq : filled a = a := by
    rw [filled, Nat.sub_eq_zero_of_le (by omega)]
    exact Nat.mul_one a
  obtain ⟨low, high⟩ := filled_div_lastUnit_range nonzero
  obtain ⟨down, up⟩ := divNearestEven_range (filled a) (lastUnit a)
  have parts := Nat.div_add_mod' a (lastUnit a)
  have rest := Nat.mod_lt a (lastUnit_pos a)
  rw [power_eq, mantissaOf]
  rw [filled_eq] at low high down up ⊢
  by_cases last : a / lastUnit a + 1 = 2 * leastNormal
  · have odd : a / lastUnit a % 2 = 1 := by omega
    rw [← last, divNearestEven_eq_succ_iff odd, Nat.add_mul]
    omega
  · have below : a / lastUnit a + 2 ≤ 2 * leastNormal := by omega
    have apart := Nat.mul_le_mul_right (lastUnit a) below
    rw [Nat.add_mul] at apart
    omega

/-- The bits of a whole number reach those of a power of two from half a unit below it on. -/
theorem biased_le_iff
    (nonzero : a ≠ 0)
    {top : Nat}
    (long : 53 ≤ top) :
    (top + 1024) * leastNormal ≤
        (Nat.log2 a + 1023) * leastNormal + (mantissaOf a - leastNormal) ↔
      Nat.pow 2 (top + 1) ≤ a + Nat.pow 2 (top - 53) := by
  obtain ⟨least, most⟩ := mantissaOf_range nonzero
  have positive : 0 < leastNormal := by decide
  have binade (k : Nat) : (k + 1024) * leastNormal = (k + 1023) * leastNormal + leastNormal :=
    Nat.succ_mul ..
  have monotone {m n : Nat} (le : m ≤ n) : Nat.pow 2 m ≤ Nat.pow 2 n :=
    Nat.pow_le_pow_right (by decide) le
  rcases Nat.lt_trichotomy (Nat.log2 a) top with below | same | above
  · have high : a < Nat.pow 2 (Nat.log2 a + 1) := Nat.lt_log2_self
    have double : Nat.pow 2 (top + 1) = Nat.pow 2 top * 2 := Nat.pow_succ ..
    have next := monotone (show Nat.log2 a + 1 ≤ top from below)
    have half := monotone (Nat.sub_le top 53)
    have lower := Nat.mul_le_mul_right leastNormal (show Nat.log2 a + 1024 ≤ top + 1023 by omega)
    have binades := binade (Nat.log2 a)
    refine iff_of_false ?_ (by omega)
    rw [binade]
    omega
  · rw [← same, ← mantissaOf_eq_iff (same ▸ long), binade]
    omega
  · have low : Nat.pow 2 (Nat.log2 a) ≤ a := Nat.log2_self_le nonzero
    have next := monotone (show top + 1 ≤ Nat.log2 a from above)
    have lower := Nat.mul_le_mul_right leastNormal (show top + 1024 ≤ Nat.log2 a + 1023 by omega)
    exact iff_of_true (by omega) (by omega)

/-- There is no number for a whole number that is too large. -/
theorem ofInt?_eq_none_iff {n : Int} : ofInt? n = none ↔ leastUnbounded ≤ n.natAbs := by
  have cut_off_iff : ofInt? n = none ↔ bitsOfQuotient n.natAbs 1 = infinityBits := by
    unfold ofInt?
    dsimp only
    split <;> simp [*]
  rw [cut_off_iff]
  by_cases nonzero : n.natAbs = 0
  · have positive : ¬leastUnbounded ≤ 0 := by decide +kernel
    rw [nonzero]
    exact iff_of_false (by decide) positive
  · have limit_iff := biased_le_iff nonzero (show 53 ≤ topExponent by decide)
    rw [leastUnbounded, Nat.sub_le_iff_le_add, ← limit_iff, bitsOfQuotient_one nonzero]
    -- The bits of infinity are those of the next power of two.
    change _ ↔ infinityBits ≤ _
    omega

end Binary64
end LineTerminal
