import LineTerminal.Proofs.Dataplane.ToSubscriber
import Mathlib.Data.Int.Bitwise

/-!
# The metadata that tell clients apart

Table 0 tells clients apart by the port, the service tag and the metadata word of a packet.  The
word is made of the low 16 bits of the customer tag and the low 32 bits of the port of the client,
whatever integers these are, and both can be read off it.  So two clients share their packets in
table 0 if and only if these bits agree along with the port and the service tag.
-/

namespace LineTerminal
namespace Metadata

/-- The low bits of an integer in two's complement are its remainder. -/
theorem land_ones (m : Int) (k : Nat) : Int.land m (2 ^ k - 1) = m % 2 ^ k := by
  induction k generalizing m with
  | zero => cases m <;> simp [Int.land, Nat.ldiff]
  | succ k ih =>
      -- The lowest bits of the number and of the mask are split off.
      have doubled : (2 ^ (k + 1) : Int) = 2 * 2 ^ k := by rw [pow_succ, Int.mul_comm]
      have ones : (2 ^ (k + 1) - 1 : Int) = Int.bit true (2 ^ k - 1) := by
        rw [Int.bit_val, Bool.cond_true, doubled]
        omega
      have lowest : 0 ≤ (bif m.bodd then 1 else 0 : Int) ∧
          (bif m.bodd then 1 else 0 : Int) < 2 := by
        cases m.bodd <;> decide
      have positive : (0 : Int) < 2 ^ k := Int.pow_pos (by decide)
      have rest := Int.emod_add_mul_ediv m.div2 (2 ^ k)
      have below := Int.emod_lt_of_pos m.div2 positive
      have nonneg := Int.emod_nonneg m.div2 (Int.ne_of_gt positive)
      have whole := Int.bodd_add_div2 m
      calc Int.land m (2 ^ (k + 1) - 1)
        _ = Int.land (Int.bit m.bodd m.div2) (Int.bit true (2 ^ k - 1)) := by
          rw [ones, Int.bit_decomp]
        _ = 2 * (m.div2 % 2 ^ k) + (bif m.bodd then 1 else 0) := by
          rw [Int.land_bit, Bool.and_true, ih, Int.bit_val]
        _ = m % 2 ^ (k + 1) := by
          rw [doubled]
          refine ((Int.ediv_emod_unique (q := m.div2 / 2 ^ k) (by omega)).2 ⟨?_, ?_, ?_⟩).2.symm
          · rw [Int.mul_assoc]
            omega
          · omega
          · omega

/-- The bits of two numbers stand side by side if the first is shifted past those of the second. -/
theorem lor_shiftLeft
    {a b : Int}
    {k : Nat}
    (nonneg : 0 ≤ a)
    (nonneg' : 0 ≤ b)
    (below : b < 2 ^ k) :
    Int.lor (a <<< k) b = a * 2 ^ k + b := by
  lift a to Nat using nonneg
  lift b to Nat using nonneg'
  have small : b < 2 ^ k := by exact_mod_cast below
  change (((a <<< k) ||| b : Nat) : Int) = _
  rw [← Nat.shiftLeft_add_eq_or_of_lt small, Nat.shiftLeft_eq]
  push_cast
  rfl

/-- A metadata word in terms of bits: the masked VLAN identifier is shifted past the masked port. -/
theorem pack_eq_lor (vlan port : Int) :
    pack vlan port =
      Int.lor (Int.land vlan 0xFFFF <<< (32 : Nat)) (Int.land port 0xFFFFFFFF) := by
  have masked : Int.land vlan 0xFFFF = vlan % 2 ^ 16 := land_ones vlan 16
  have masked' : Int.land port 0xFFFFFFFF = port % 2 ^ 32 := land_ones port 32
  rw [masked, masked', lor_shiftLeft (by omega) (by omega) (by omega)]
  rfl

/-- The parts of a metadata word in terms of bits. -/
theorem split_eq_land (word : Int) :
    split word = (Int.land (word >>> (32 : Nat)) 0xFFFF, Int.land word 0xFFFFFFFF) := by
  have masked : Int.land (word >>> (32 : Nat)) 0xFFFF = word >>> (32 : Nat) % 2 ^ 16 :=
    land_ones _ 16
  have masked' : Int.land word 0xFFFFFFFF = word % 2 ^ 32 := land_ones word 32
  rw [masked, masked', Int.shiftRight_eq_div_pow]
  rfl

/-- Packing forgets all but the low bits of both parts. -/
theorem split_pack (vlan port : Int) :
    split (pack vlan port) = (vlan % 2 ^ 16, port % 2 ^ 32) := by
  simp only [split, pack, Prod.mk.injEq]
  omega

/-- A metadata word has 48 bits. -/
theorem pack_range (vlan port : Int) : 0 ≤ pack vlan port ∧ pack vlan port < 2 ^ 48 := by
  unfold pack
  omega

/-- Of a word the low 48 bits are put together again. -/
theorem pack_split (word : Int) : pack (split word).1 (split word).2 = word % 2 ^ 48 := by
  unfold pack split
  omega

/-- Two words are equal if both parts agree in the bits that are packed. -/
theorem pack_inj {vlan vlan' port port' : Int} :
    pack vlan port = pack vlan' port' ↔
      vlan % 2 ^ 16 = vlan' % 2 ^ 16 ∧ port % 2 ^ 32 = port' % 2 ^ 32 := by
  constructor
  · intro same
    have parts := congrArg split same
    rw [split_pack, split_pack] at parts
    exact Prod.mk.inj parts
  · rintro ⟨vlans, ports⟩
    unfold pack
    omega

end Metadata

namespace ForwardingObjective
open Metadata

/-- A rule of table 0 is listed behind one of the service table, and there are no others. -/
def Classifies (r : Rule) (l : Layout) (rules : List Rule) : Prop :=
  r.table = 0 ∧ ∃ serving, serving.table = l.serviceTable ∧ rules = [serving, r]

namespace Asks
variable {o : ForwardingObjective} {l : Layout} {rules : List Rule}
  {port outer inner sink port' outer' inner' sink' : Int} {output : Instruction}

/-- What table 0 matches is one thing for two clients if the port, the service tag and the packed
bits agree. -/
theorem selector_inj :
    selector port outer inner sink = selector port' outer' inner' sink' ↔
      port = port' ∧ outer = outer' ∧ inner % 2 ^ 16 = inner' % 2 ^ 16 ∧
        sink % 2 ^ 32 = sink' % 2 ^ 32 := by
  rw [← pack_inj]
  constructor
  · intro same
    have criteria : [Criterion.inPort (.number port), .metadata (.number (pack inner sink)),
        .vlan (.number outer)] = [.inPort (.number port'),
          .metadata (.number (pack inner' sink')), .vlan (.number outer')] :=
      congrArg Selector.toList same
    simp only [Criterion.inPort, Criterion.metadata, Criterion.vlan, List.cons.injEq,
      Criterion.mk.injEq, Value.number.injEq, true_and, and_true] at criteria
    exact ⟨criteria.1, criteria.2.2, criteria.2.1⟩
  · rintro ⟨rfl, rfl, words⟩
    rw [selector, selector, words]

/-- For an accepted objective, the rule of table 0 matches the port, the service tag and the
metadata. -/
theorem exists_classifies
    (asks : o.Asks port outer inner sink output)
    (accepted : o.toSubscriber l = .ok rules) :
    ∃ r, Classifies r l rules ∧ r.selector = selector port outer inner sink := by
  rcases asks.rules_eq accepted with ⟨-, rules_eq⟩ | ⟨-, pair, -, rules_eq⟩
  · exact ⟨_, ⟨rfl, _, rfl, rules_eq⟩, rfl⟩
  · exact ⟨_, ⟨rfl, _, rfl, rules_eq⟩, rfl⟩

end Asks

/--
Metadata and the clients that they tell apart.  The word for a VLAN identifier and a port has their
low 16 and 32 bits, which are read off it, and 48 bits in all; every word is put together again from
what is read off it, but for its higher bits.  So the rules of two objectives in table 0 match the
same packets if and only if these bits agree, and the port and the service tag do.  A client that
takes any tag is apart from those with a VLAN.
-/
theorem metadata_separates :
    (∀ vlan port : Int,
      pack vlan port =
        Int.lor (Int.land vlan 0xFFFF <<< (32 : Nat)) (Int.land port 0xFFFFFFFF) ∧
      split (pack vlan port) = (vlan % 2 ^ 16, port % 2 ^ 32) ∧
      0 ≤ pack vlan port ∧ pack vlan port < 2 ^ 48) ∧
    (∀ word : Int,
      split word = (Int.land (word >>> (32 : Nat)) 0xFFFF, Int.land word 0xFFFFFFFF) ∧
      pack (split word).1 (split word).2 = word % 2 ^ 48) ∧
    ∀ (o o' : ForwardingObjective) (l l' : Layout) (rules rules' : List Rule)
      (port outer inner sink port' outer' inner' sink' : Int) (output output' : Instruction),
      o.toSubscriber l = .ok rules → o.Asks port outer inner sink output →
      o'.toSubscriber l' = .ok rules' → o'.Asks port' outer' inner' sink' output' →
      ∃ r r', Classifies r l rules ∧ Classifies r' l' rules' ∧
        (r.selector = r'.selector ↔
          port = port' ∧ outer = outer' ∧ inner % 2 ^ 16 = inner' % 2 ^ 16 ∧
            sink % 2 ^ 32 = sink' % 2 ^ 32) ∧
        (inner = WellKnown.vlanAny → 0 ≤ inner' → inner' ≤ 4095 →
          r.selector ≠ r'.selector) := by
  refine ⟨fun vlan port => ⟨pack_eq_lor vlan port, split_pack vlan port, pack_range vlan port⟩,
    fun word => ⟨split_eq_land word, pack_split word⟩, ?_⟩
  intro o o' l l' rules rules' port outer inner sink port' outer' inner' sink' output output'
    accepted asks accepted' asks'
  obtain ⟨r, classifies, matched⟩ := asks.exists_classifies accepted
  obtain ⟨r', classifies', matched'⟩ := asks'.exists_classifies accepted'
  refine ⟨r, r', classifies, classifies', ?_, ?_⟩
  · rw [matched, matched', Asks.selector_inj]
  · rintro rfl nonneg below same
    rw [matched, matched', Asks.selector_inj] at same
    obtain ⟨-, -, vlans, -⟩ := same
    -- All 16 bits of either are kept, and `0x1000` is just beyond the identifiers of VLANs.
    unfold WellKnown.vlanAny at vlans
    omega

/-- A client at a port whose low 32 bits are those of another client. -/
def distantClient : ForwardingObjective :=
  { Dataplane.untaggedClient with
    treatment :=
      { immediate := [.popVlan, .setVlan (.number WellKnown.vlanNone),
          .output (.number (3 + 2 ^ 32))] } }

theorem metadata_separates_distantClient :
    ∃ rules rules' r r',
      Dataplane.untaggedClient.toSubscriber { device := "olt" } = .ok rules ∧
      distantClient.toSubscriber { device := "olt" } = .ok rules' ∧
      r ∈ rules ∧ r' ∈ rules' ∧ r.table = 0 ∧ r'.table = 0 ∧ r.selector = r'.selector := by
  obtain ⟨r, r', ⟨zero, serving, -, listed⟩, ⟨zero', serving', -, listed'⟩, same, -⟩ :=
    metadata_separates.2.2 Dataplane.untaggedClient distantClient { device := "olt" }
      { device := "olt" } _ _ 65536 200 100 3 65536 200 100 (3 + 2 ^ 32) _ _
      rfl ⟨rfl, rfl, rfl, rfl, rfl⟩ rfl ⟨rfl, rfl, rfl, rfl, rfl⟩
  refine ⟨_, _, r, r', rfl, rfl, ?_, ?_, zero, zero', same.2 ⟨rfl, rfl, rfl, rfl⟩⟩
  · rw [listed]
    exact List.mem_cons_of_mem _ (List.mem_singleton_self r)
  · rw [listed']
    exact List.mem_cons_of_mem _ (List.mem_singleton_self r')

end ForwardingObjective
end LineTerminal
