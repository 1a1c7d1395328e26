import LineTerminal.Network
import LineTerminal.Proofs.Network.Dotted

/-!
# Multicast blocks

A block lies within the multicast addresses exactly when all its addresses do, though only its two
ends are looked at.  For IPv4 this is so when the first octet lies between 224 and 239 and at least
four bits are fixed, in whichever of the notations the number of these bits is given.
-/

namespace LineTerminal
namespace Network

/-! ### Masks -/

namespace Family
variable {f : Family} {m n : Nat}

/-- A mask and the addresses of a block that begins with zero fill the range of addresses. -/
theorem mask_add (bounded : n ≤ f.width) : f.mask n + 2 ^ (f.width - n) = 2 ^ f.width := by
  have small : 2 ^ (f.width - n) ≤ 2 ^ f.width := Nat.pow_le_pow_right (by decide) (by omega)
  exact Nat.sub_add_cancel small

/-- Masks of different lengths differ. -/
theorem mask_inj (bounded : m ≤ f.width) (bounded' : n ≤ f.width) :
    f.mask m = f.mask n ↔ m = n := by
  refine ⟨fun same => ?_, congrArg _⟩
  have first := mask_add bounded
  have second := mask_add bounded'
  have powers : 2 ^ (f.width - m) = 2 ^ (f.width - n) := by omega
  have exponents := Nat.pow_right_injective (Nat.le_refl 2) powers
  omega

/-- The length of a mask is found. -/
theorem maskLength?_mask (bounded : n ≤ f.width) : f.maskLength? (f.mask n) = some n := by
  rw [maskLength?, List.find?_range_eq_some]
  refine ⟨by simp, List.mem_range.mpr (Nat.lt_succ_of_le bounded), fun m shorter => ?_⟩
  have other : f.mask m ≠ f.mask n := fun same =>
    Nat.ne_of_lt shorter ((mask_inj (Nat.le_trans (Nat.le_of_lt shorter) bounded) bounded).mp same)
  simpa using other

/-- A number between zero and half the range of addresses is no mask. -/
theorem maskLength?_eq_none (positive : 0 < m) (small : 2 * m < 2 ^ f.width) :
    f.maskLength? m = none := by
  rw [maskLength?, List.find?_range_eq_none]
  intro n inside
  have whole : f.mask n + 2 ^ (f.width - n) = 2 ^ f.width := mask_add (Nat.le_of_lt_succ inside)
  have other : f.mask n ≠ m := by
    rintro rfl
    rcases Nat.eq_zero_or_pos n with rfl | fixed
    · rw [Nat.sub_zero] at whole
      omega
    · have doubled : 2 ^ f.width = 2 * 2 ^ (f.width - 1) := by
        rw [← pow_succ']
        congr 1
        omega
      have halves : 2 ^ (f.width - n) ≤ 2 ^ (f.width - 1) :=
        Nat.pow_le_pow_right (by decide) (by omega)
      omega
  simpa using other

/-- Between two multicast addresses all are. -/
theorem isMulticast_of_between
    {x y z : Nat}
    (first : f.isMulticast x = true)
    (last : f.isMulticast z = true)
    (above : x ≤ y)
    (below : y ≤ z) :
    f.isMulticast y = true := by
  have between (k : Nat) : x / k ≤ y / k ∧ y / k ≤ z / k :=
    ⟨Nat.div_le_div_right above, Nat.div_le_div_right below⟩
  cases f with
  | ipv4 =>
      have := between (Nat.pow 2 28)
      simp only [isMulticast, decide_eq_true_eq] at first last ⊢
      omega
  | ipv6 =>
      have := between (Nat.pow 2 120)
      simp only [isMulticast, decide_eq_true_eq] at first last ⊢
      omega

/-- The multicast addresses go from 224.0.0.0 to 239.255.255.255. -/
theorem isMulticast_ipv4_iff {x : Nat} :
    ipv4.isMulticast x = true ↔
      Bytes.toNat [224, 0, 0, 0] ≤ x ∧ x ≤ Bytes.toNat [239, 255, 255, 255] := by
  have lowest : Bytes.toNat [224, 0, 0, 0] = 224 * 2 ^ 24 := rfl
  have highest : Bytes.toNat [239, 255, 255, 255] = 240 * 2 ^ 24 - 1 := rfl
  have power : Nat.pow 2 28 = 2 ^ 28 := rfl
  rw [isMulticast, decide_eq_true_eq, lowest, highest, power]
  omega

end Family

/-! ### The addresses of a block -/

namespace Block
variable {b : Block} {x : Nat}

/-- An address is in a block if it agrees with that of the block in the bits that are fixed. -/
def Contains (b : Block) (x : Nat) : Prop :=
  x / 2 ^ (b.family.width - b.length) = b.address / 2 ^ (b.family.width - b.length)

theorem size_pos (b : Block) : 0 < b.size := Nat.pow_pos (by decide)

/-- The addresses of a block are those between its ends. -/
theorem contains_iff : b.Contains x ↔ b.first ≤ x ∧ x ≤ b.last := by
  change x / b.size = b.address / b.size ↔ _
  rw [Nat.div_eq_iff b.size_pos, last, first]
  have positive := b.size_pos
  omega

/-- A block of multicast addresses is told by its two ends. -/
theorem isMulticast_iff_contains :
    b.isMulticast = true ↔ ∀ x, b.Contains x → b.family.isMulticast x = true := by
  rw [isMulticast, Bool.and_eq_true]
  constructor
  · rintro ⟨first, last⟩ x member
    obtain ⟨above, below⟩ := contains_iff.mp member
    exact Family.isMulticast_of_between first last above below
  · intro all
    have ends : b.first ≤ b.last := Nat.le_add_right _ _
    exact ⟨all _ (contains_iff.mpr ⟨Nat.le_refl _, ends⟩),
      all _ (contains_iff.mpr ⟨ends, Nat.le_refl _⟩)⟩

/-- A block of IPv4 addresses is for multicast use if its first octet is and four bits are fixed. -/
theorem isMulticast_ipv4_iff
    {first second third fourth : UInt8}
    {n : Nat}
    (bounded : n ≤ 32) :
    (Block.mk .ipv4 (Bytes.toNat [first, second, third, fourth]) n).isMulticast = true ↔
      224 ≤ first ∧ first ≤ 239 ∧ 4 ≤ n := by
  let b : Block := ⟨.ipv4, Bytes.toNat [first, second, third, fourth], n⟩
  have number : b.address =
      ((first.toNat * 256 + second.toNat) * 256 + third.toNat) * 256 + fourth.toNat := by
    change (((0 * 256 + _) * 256 + _) * 256 + _) * 256 + _ = _
    rw [Nat.zero_mul, Nat.zero_add]
  have size : b.size = 2 ^ (32 - n) := rfl
  have octets : second.toNat < 256 ∧ third.toNat < 256 ∧ fourth.toNat < 256 :=
    ⟨second.toNat_lt, third.toNat_lt, fourth.toNat_lt⟩
  have multicast (x : Nat) : b.family.isMulticast x = true ↔ x / 2 ^ 28 = 14 := decide_eq_true_iff
  simp only [UInt8.le_iff_toNat_le]
  change b.isMulticast = true ↔ 224 ≤ first.toNat ∧ first.toNat ≤ 239 ∧ 4 ≤ n
  constructor
  · intro ends
    have own := (multicast b.address).mp (isMulticast_iff_contains.mp ends _ rfl)
    refine ⟨by omega, by omega, Nat.le_of_not_lt fun few => ?_⟩
    -- A block with fewer fixed bits has more addresses than there are for multicast use.
    have large : 2 ^ 29 ≤ b.size := by
      rw [size]
      exact Nat.pow_le_pow_right (by decide) (by omega)
    rw [isMulticast, Bool.and_eq_true, multicast, multicast, last] at ends
    omega
  · rintro ⟨above, below, fixed⟩
    rw [isMulticast_iff_contains]
    intro x member
    -- The first four bits are among those in which the addresses of the block agree.
    have multiple : 2 ^ 28 = b.size * 2 ^ (n - 4) := by
      rw [size, ← pow_add]
      congr 1
      omega
    have agrees : x / b.size = b.address / b.size := member
    rw [multicast, multiple, ← Nat.div_div_eq_div_mul, agrees, Nat.div_div_eq_div_mul, ← multiple]
    omega

/-! ### Notations -/

/-- The number whose first bits are set, of 32. -/
def netmask (n : Nat) : Nat := (2 ^ n - 1) * 2 ^ (32 - n)

/-- The number whose first bits are not set, of 32. -/
def hostmask (n : Nat) : Nat := 2 ^ (32 - n) - 1

/--
The texts of the blocks of an IPv4 address with so many bits fixed: the address alone, or with the
number of bits, or with a mask that has these bits set or all others.
-/
inductive Denotes (address : List Char) : Nat → List Char → Prop
  | alone : Denotes address 32 address
  | length {n : Nat} (bounded : n ≤ 32) : Denotes address n (address ++ '/' :: Numeral.digits n)
  | netmask {n : Nat} (bounded : n ≤ 32) :
      Denotes address n (address ++ '/' :: dotted (Bytes.bigEndian 4 (netmask n)))
  | hostmask {n : Nat} (positive : 1 ≤ n) (bounded : n ≤ 31) :
      Denotes address n (address ++ '/' :: dotted (Bytes.bigEndian 4 (hostmask n)))

/-- No more bits are fixed than there are. -/
theorem Denotes.bounded {address cs : List Char} {n : Nat} (denotes : Denotes address n cs) :
    n ≤ 32 := by
  cases denotes <;> omega

end Block

namespace Family

theorem netmask_eq_mask {n : Nat} (bounded : n ≤ 32) : Block.netmask n = ipv4.mask n := by
  have whole : 2 ^ 32 = 2 ^ n * 2 ^ (32 - n) := by
    rw [← pow_add, Nat.add_sub_of_le bounded]
  rw [Block.netmask, Nat.sub_mul, Nat.one_mul, ← whole]
  rfl

theorem hostmask_eq {n : Nat} (bounded : n ≤ 32) :
    2 ^ 32 - 1 - Block.hostmask n = ipv4.mask n := by
  have whole : ipv4.mask n + 2 ^ (32 - n) = 2 ^ 32 := mask_add bounded
  have positive : 0 < 2 ^ (32 - n) := Nat.pow_pos (by decide)
  rw [Block.hostmask]
  omega

/-- The number of fixed bits is read from its figures. -/
theorem length?_digits {f : Family} {n : Nat} (bounded : n ≤ f.width) :
    f.length? (Numeral.digits n) = some n := by
  have small : n < 10 ^ 3 := by
    cases f <;> exact Nat.lt_of_le_of_lt bounded (by decide)
  have few := (Numeral.length_digits_le_iff (by decide)).mpr small
  have number := Numeral.natural?_digits (Nat.le_trans few (by decide))
  unfold length?
  rw [number, Option.filter_some, if_pos (by simpa using bounded)]

/-- A mask in figures is read as a number, and looked for with its bits set or not. -/
theorem length?_dotted {m : Nat} (bounded : m < 2 ^ 32) :
    ipv4.length? (dotted (Bytes.bigEndian 4 m)) =
      (ipv4.maskLength? m <|> ipv4.maskLength? (2 ^ 32 - 1 - m)) := by
  have octets : address4? (dotted (Bytes.bigEndian 4 m)) = some m := by
    have read : address4? (dotted (Bytes.bigEndian 4 m)) =
        some (Bytes.toNat (Bytes.bigEndian 4 m)) :=
      address4?_dotted _ _ _ _
    rw [read, Bytes.toNat_bigEndian]
    exact congrArg some (Nat.mod_eq_of_lt bounded)
  have figures : Numeral.natural? (dotted (Bytes.bigEndian 4 m)) = none := by
    refine Numeral.natural?_eq_none (c := '.') ?_ rfl
    simp [Bytes.bigEndian, dotted]
  rw [length?, figures, Option.filter_none]
  dsimp only
  rw [octets]
  rfl

end Family

namespace Block

/-- A block is read from its address and the number of bits that are fixed. -/
theorem ofText?_append
    {n : Nat}
    {length : List Char}
    (a b c d : UInt8)
    (single : '/' ∉ length)
    (read : Family.ipv4.length? length = some n) :
    ofText? (dotted [a, b, c, d] ++ '/' :: length) =
      some ⟨.ipv4, Bytes.toNat [a, b, c, d], n⟩ := by
  have address : Family.ipv4.address? (dotted [a, b, c, d]) = some (Bytes.toNat [a, b, c, d]) :=
    address4?_dotted a b c d
  unfold ofText? ofFamily?
  rw [Text.fields_append (slash_not_mem_dotted _), Text.fields_of_not_mem single]
  dsimp only
  rw [address, read]
  rfl

/-- A block is read from each of its texts. -/
theorem ofText?_of_denotes
    {a b c d : UInt8}
    {n : Nat}
    {cs : List Char}
    (denotes : Denotes (dotted [a, b, c, d]) n cs) :
    ofText? cs = some ⟨.ipv4, Bytes.toNat [a, b, c, d], n⟩ := by
  cases denotes with
  | alone =>
      have address : Family.ipv4.address? (dotted [a, b, c, d]) =
          some (Bytes.toNat [a, b, c, d]) := address4?_dotted a b c d
      unfold ofText? ofFamily?
      rw [Text.fields_of_not_mem (slash_not_mem_dotted _)]
      dsimp only
      rw [address]
      rfl
  | length bounded =>
      exact ofText?_append a b c d (not_mem_digits rfl n) (Family.length?_digits bounded)
  | netmask bounded =>
      have whole : Family.ipv4.mask n + 2 ^ (32 - n) = 2 ^ 32 := Family.mask_add bounded
      have positive : 0 < 2 ^ (32 - n) := Nat.pow_pos (by decide)
      refine ofText?_append a b c d (slash_not_mem_dotted _) ?_
      rw [Family.length?_dotted, Family.netmask_eq_mask bounded, Family.maskLength?_mask bounded]
      · rfl
      · rw [Family.netmask_eq_mask bounded]
        omega
  | hostmask positive bounded =>
      have bounded' : n ≤ 32 := Nat.le_succ_of_le bounded
      -- Fewer than half of the addresses, so this is no mask with leading bits set.
      have several : 2 ^ 1 ≤ 2 ^ (32 - n) := Nat.pow_le_pow_right (by decide) (by omega)
      have few : 2 ^ (32 - n) ≤ 2 ^ 31 := Nat.pow_le_pow_right (by decide) (by omega)
      have none : Family.ipv4.maskLength? (hostmask n) = none := by
        refine Family.maskLength?_eq_none ?_ ?_
        · rw [hostmask]; omega
        · rw [hostmask, Family.width]; omega
      refine ofText?_append a b c d (slash_not_mem_dotted _) ?_
      rw [Family.length?_dotted, none, Family.hostmask_eq bounded',
        Family.maskLength?_mask bounded']
      · rfl
      · rw [hostmask]; omega

end Block
end Network

namespace Selector
open Network

/--
A selector for a block of IPv4 addresses, in whichever notation it is written, is judged without an
error.  It is for multicast exactly when all addresses of the block lie between 224.0.0.0 and
239.255.255.255, that is, when the first octet lies between 224 and 239 and at least four bits are
fixed.
-/
theorem multicast_iff_contained
    {s : Selector}
    {text : String}
    {a b c d : UInt8}
    {n : Nat}
    (matched : s.get? .ipv4Destination = some (.ipv4Destination (.text text)))
    (denotes : Block.Denotes (dotted [a, b, c, d]) n text.toList) :
    ∃ answer : Bool, s.isMulticast = .ok answer ∧
      (answer = true ↔ ∀ x, Block.Contains ⟨.ipv4, Bytes.toNat [a, b, c, d], n⟩ x →
        Bytes.toNat [224, 0, 0, 0] ≤ x ∧ x ≤ Bytes.toNat [239, 255, 255, 255]) ∧
      (answer = true ↔ 224 ≤ a ∧ a ≤ 239 ∧ 4 ≤ n) := by
  have read : Block.ofText? (Criterion.ipv4Destination (.text text)).value.plain.toList = _ :=
    Block.ofText?_of_denotes denotes
  refine ⟨Block.isMulticast ⟨.ipv4, Bytes.toNat [a, b, c, d], n⟩, ?_, ?_,
    Block.isMulticast_ipv4_iff denotes.bounded⟩
  · unfold isMulticast
    rw [matched]
    dsimp only
    rw [read]
  · rw [Block.isMulticast_iff_contains]
    exact forall_congr' fun x => imp_congr_right fun _ => Family.isMulticast_ipv4_iff

/-- The last multicast block of 20 bits is known by its mask with the other bits set. -/
theorem multicast_iff_contained_hostmask :
    ∃ s : Selector, s.get? .ipv4Destination =
        some (.ipv4Destination (.text "239.255.240.9/0.0.15.255")) ∧
      s.isMulticast = .ok true ∧
      ∀ x, Block.Contains ⟨.ipv4, Bytes.toNat [239, 255, 240, 9], 20⟩ x →
        Bytes.toNat [224, 0, 0, 0] ≤ x ∧ x ≤ Bytes.toNat [239, 255, 255, 255] := by
  let destination : Criterion := .ipv4Destination (.text "239.255.240.9/0.0.15.255")
  have matched : (ofList [.inPort (.number 1), destination]).get? .ipv4Destination =
      some destination := rfl
  have denotes : Block.Denotes (dotted [239, 255, 240, 9]) 20
      "239.255.240.9/0.0.15.255".toList :=
    .hostmask (by decide) (by decide)
  obtain ⟨answer, judged, contained_iff, answer_iff⟩ := multicast_iff_contained matched denotes
  obtain rfl := answer_iff.mpr (by decide)
  exact ⟨_, matched, judged, contained_iff.mp rfl⟩

end Selector
end LineTerminal
