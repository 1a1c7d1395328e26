import LineTerminal.Value

/-!
# Match fields, criteria and selectors

A selector holds at most one criterion for each match field.  It is kept as the list of its
criteria in the order of the fields, so two selectors are equal exactly when they match the same
fields with the same operands.
-/

namespace LineTerminal

/-- The packet fields that a rule can match on. -/
inductive Field where
  | inPort
  | metadata
  | etherType
  | vlan
  | innerVlan
  | ipProtocol
  | ipv4Destination
  | udpSource
  | udpDestination
deriving DecidableEq

namespace Field

/-- All fields in their order. -/
def all : List Field :=
  [inPort, metadata, etherType, vlan, innerVlan, ipProtocol, ipv4Destination, udpSource,
    udpDestination]

/-- The place of a field in the order. -/
def rank : Field → Nat
  | inPort => 0
  | metadata => 1
  | etherType => 2
  | vlan => 3
  | innerVlan => 4
  | ipProtocol => 5
  | ipv4Destination => 6
  | udpSource => 7
  | udpDestination => 8

/-- The order distinguishes any two fields. -/
theorem rank_inj {f g : Field} : f.rank = g.rank ↔ f = g := by
  constructor
  · cases f <;> cases g <;> simp [rank]
  · rintro rfl
    rfl

end Field

/-- One match condition: a field and the operand it must match. -/
structure Criterion where
  /-- The field that is matched. -/
  field : Field
  /-- The operand it is compared with. -/
  value : Value
deriving DecidableEq

namespace Criterion

/-- Matches the ingress port. -/
def inPort (port : Value) : Criterion := ⟨.inPort, port⟩

/-- Matches the identifier of the outermost VLAN tag. -/
def vlan (id : Value) : Criterion := ⟨.vlan, id⟩

/-- Matches the identifier of the second VLAN tag. -/
def innerVlan (id : Value) : Criterion := ⟨.innerVlan, id⟩

/-- Matches the metadata word of the packet. -/
def metadata (word : Value) : Criterion := ⟨.metadata, word⟩

/-- Matches the ether type. -/
def etherType (type : Value) : Criterion := ⟨.etherType, type⟩

/-- Matches the IP protocol number. -/
def ipProtocol (number : Value) : Criterion := ⟨.ipProtocol, number⟩

/-- Matches the IPv4 destination prefix. -/
def ipv4Destination (network : Value) : Criterion := ⟨.ipv4Destination, network⟩

/-- Matches the UDP source port. -/
def udpSource (port : Value) : Criterion := ⟨.udpSource, port⟩

/-- Matches the UDP destination port. -/
def udpDestination (port : Value) : Criterion := ⟨.udpDestination, port⟩

/-- The order of criteria is the order of their fields. -/
def Before (a b : Criterion) : Prop :=
  a.field.rank < b.field.rank

instance : DecidableRel Before := fun a b =>
  inferInstanceAs (Decidable (a.field.rank < b.field.rank))

/-- The first criterion of `criteria` on the field `field`. -/
def find? (criteria : List Criterion) (field : Field) : Option Criterion :=
  criteria.find? fun c => c.field = field

/-- Puts `c` at its place in an ordered list, where it replaces a criterion on the same field. -/
def insertInto (c : Criterion) : List Criterion → List Criterion
  | [] => [c]
  | d :: rest =>
    if c.Before d then c :: d :: rest
    else if c.field = d.field then c :: rest
    else d :: insertInto c rest

/-- An insertion adds no field but that of the inserted criterion. -/
theorem before_of_mem_insertInto
    {c d x : Criterion}
    {rest : List Criterion}
    (first : d.Before c)
    (others : ∀ e ∈ rest, d.Before e)
    (member : x ∈ insertInto c rest) :
    d.Before x := by
  induction rest with
  | nil =>
      simp only [insertInto, List.mem_singleton] at member
      exact member ▸ first
  | cons e rest ih =>
      simp only [insertInto] at member
      split at member
      · rcases List.mem_cons.1 member with rfl | member
        · exact first
        · exact others x member
      · split at member
        · rcases List.mem_cons.1 member with rfl | member
          · exact first
          · exact others x (List.mem_cons_of_mem _ member)
        · rcases List.mem_cons.1 member with rfl | member
          · exact others x List.mem_cons_self
          · exact ih (fun y hy => others y (List.mem_cons_of_mem _ hy)) member

/-- Insertion keeps the order. -/
theorem pairwise_insertInto
    (c : Criterion)
    {criteria : List Criterion}
    (ordered : criteria.Pairwise Before) :
    (insertInto c criteria).Pairwise Before := by
  induction criteria with
  | nil => simp [insertInto]
  | cons d rest ih =>
      obtain ⟨least, ordered⟩ := List.pairwise_cons.1 ordered
      simp only [insertInto]
      split
      · rename_i before
        refine List.pairwise_cons.2 ⟨?_, List.pairwise_cons.2 ⟨least, ordered⟩⟩
        intro x member
        rcases List.mem_cons.1 member with rfl | member
        · exact before
        · exact Nat.lt_trans before (least x member)
      · split
        · rename_i same
          refine List.pairwise_cons.2 ⟨?_, ordered⟩
          intro x member
          have later := least x member
          unfold Before at later ⊢
          rwa [same]
        · rename_i before different
          refine List.pairwise_cons.2 ⟨?_, ih ordered⟩
          intro x member
          refine before_of_mem_insertInto ?_ least member
          unfold Before at before ⊢
          have : c.field.rank ≠ d.field.rank := fun equal => different (Field.rank_inj.1 equal)
          omega

end Criterion

/-- A set of criteria with at most one for each field. -/
structure Selector where
  /-- The criteria in the order of their fields. -/
  criteria : List Criterion
  /-- No field occurs twice, and the fields stand in their order. -/
  ordered : criteria.Pairwise Criterion.Before
deriving DecidableEq

namespace Selector

/-- The selector that matches every packet. -/
def empty : Selector := ⟨[], .nil⟩

/-- Adds a criterion, which replaces one on the same field. -/
def insert (s : Selector) (c : Criterion) : Selector :=
  ⟨c.insertInto s.criteria, Criterion.pairwise_insertInto c s.ordered⟩

/-- The selector of a list of criteria: of several on one field the last one counts. -/
def ofList (criteria : List Criterion) : Selector :=
  criteria.foldl insert empty

/-- The selector of criteria of which some are missing. -/
def ofOptions (given : List (Option Criterion)) : Selector :=
  ofList (given.filterMap id)

/-- The criteria in the order of their fields. -/
def toList (s : Selector) : List Criterion := s.criteria

/-- The criterion on a field. -/
def get? (s : Selector) (field : Field) : Option Criterion :=
  Criterion.find? s.criteria field

/-- Whether the selector matches exactly this VLAN identifier. -/
def matchesVlan (s : Selector) (id : Value) : Bool :=
  match s.get? .vlan with
  | some c => c.value = id
  | none => false

/-- Whether the selector matches untagged frames. -/
def matchesUntagged (s : Selector) : Bool :=
  s.matchesVlan (.number WellKnown.vlanNone)

/-- Whether the selector matches every tagged frame. -/
def matchesAnyVlan (s : Selector) : Bool :=
  s.matchesVlan (.number WellKnown.vlanAny)

end Selector
end LineTerminal
