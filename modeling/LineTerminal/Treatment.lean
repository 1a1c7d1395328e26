import LineTerminal.Text
import LineTerminal.Value

/-!
# Instructions and treatments

A treatment has two lists of instructions: the immediate ones are carried out as they are listed,
the deferred ones are collected and carried out when the packet leaves the pipeline.
-/

namespace LineTerminal

/-- What an instruction does. -/
inductive Action where
  | output
  | group
  | layer2
  | meter
  | table
deriving DecidableEq

/-- What a layer-2 instruction does to the VLAN tags. -/
inductive VlanOp where
  | push
  | pop
  | setId
deriving DecidableEq

/-- All VLAN operations in their order. -/
def VlanOp.all : List VlanOp := [push, pop, setId]

/-- One instruction.  The VLAN operation has a meaning only beside the action `layer2`. -/
structure Instruction where
  /-- The kind of the instruction. -/
  action : Action
  /-- The VLAN operation of a layer-2 instruction. -/
  vlanOp : Option VlanOp := none
  /-- Port, group, ether type, VLAN identifier, meter or table, depending on the kind. -/
  value : Value := .absent
deriving DecidableEq

namespace Instruction

/-- Sends the packet to a port. -/
def output (port : Value) : Instruction := ⟨.output, none, port⟩

/-- Hands the packet to a group. -/
def group (id : Value) : Instruction := ⟨.group, none, id⟩

/-- Adds an outermost VLAN tag with the given ether type. -/
def pushVlan (etherType : Value) : Instruction := ⟨.layer2, some .push, etherType⟩

/-- Removes the outermost VLAN tag. -/
def popVlan : Instruction := ⟨.layer2, some .pop, .absent⟩

/-- Sets the identifier of the outermost VLAN tag. -/
def setVlan (id : Value) : Instruction := ⟨.layer2, some .setId, id⟩

/-- Measures the packet against a meter. -/
def meter (id : Value) : Instruction := ⟨.meter, none, id⟩

/-- Continues in another table. -/
def transition (table : Value) : Instruction := ⟨.table, none, table⟩

/-- Whether this is the VLAN operation `op`. -/
def IsVlan (i : Instruction) (op : VlanOp) : Prop :=
  i.action = .layer2 ∧ i.vlanOp = some op

instance (i : Instruction) (op : VlanOp) : Decidable (i.IsVlan op) :=
  inferInstanceAs (Decidable (_ ∧ _))

/-- The VLAN operations `op` among `instructions`. -/
def vlanOps (op : VlanOp) (instructions : List Instruction) : List Instruction :=
  instructions.filter fun i => i.IsVlan op

/--
The Nth VLAN operation `op` together with the Nth setting of a VLAN identifier.  There are no pairs
when the two are not equally many.
-/
def vlanPairs (op : VlanOp) (instructions : List Instruction) : List (Instruction × Instruction) :=
  let ops := vlanOps op instructions
  let sets := vlanOps .setId instructions
  if ops.length = sets.length then ops.zip sets else []

/-- If there are pairs, they are made up of all the operations and all the settings. -/
theorem vlanOps_of_vlanPairs
    {op : VlanOp}
    {instructions : List Instruction}
    {pairs : List (Instruction × Instruction)}
    (paired : vlanPairs op instructions = pairs)
    (some_pair : pairs ≠ []) :
    vlanOps op instructions = pairs.map (·.1) ∧ vlanOps .setId instructions = pairs.map (·.2) := by
  simp only [vlanPairs] at paired
  split at paired
  · next same =>
    subst paired
    exact ⟨(List.map_fst_zip (Nat.le_of_eq same)).symm,
      (List.map_snd_zip (Nat.le_of_eq same.symm)).symm⟩
  · exact absurd paired.symm some_pair

/-- The first instruction of a kind. -/
def first? (action : Action) (instructions : List Instruction) : Option Instruction :=
  instructions.find? fun i => i.action = action

end Instruction

/-- What is done with the packets that a rule matches. -/
structure Treatment where
  /-- Instructions carried out at once, in this order. -/
  immediate : List Instruction := []
  /-- Instructions carried out when the packet leaves the pipeline. -/
  deferred : List Instruction := []
deriving DecidableEq

namespace Treatment

/-- The treatment without instructions, which drops the packet. -/
def empty : Treatment := {}

/-- A treatment of the given immediate instructions, those that are there, and a deferred one. -/
def ofOptions (immediate : List (Option Instruction)) (deferred : Option Instruction := none) :
    Treatment :=
  { immediate := immediate.filterMap id
    deferred := deferred.toList }

/-- All instructions: the immediate ones, then the deferred ones. -/
def all (t : Treatment) : List Instruction :=
  t.immediate ++ t.deferred

/-- Whether there is no instruction at all. -/
def isEmpty (t : Treatment) : Bool :=
  t.immediate.isEmpty && t.deferred.isEmpty

/-- The first meter. -/
def meter? (t : Treatment) : Option Instruction :=
  Instruction.first? .meter t.all

/-- The first transition to another table. -/
def transition? (t : Treatment) : Option Instruction :=
  Instruction.first? .table t.all

/-- The first output. -/
def output? (t : Treatment) : Option Instruction :=
  Instruction.first? .output t.all

/-- The first output among the immediate instructions. -/
def immediateOutput? (t : Treatment) : Option Instruction :=
  Instruction.first? .output t.immediate

/-- The first push or pop of a VLAN tag, which tells the direction of the traffic. -/
def pushOrPop? (t : Treatment) : Option VlanOp :=
  t.all.findSome? fun i =>
    if i.IsVlan .push then some .push
    else if i.IsVlan .pop then some .pop
    else none

end Treatment

/-! ### The text of a treatment

Group mappings describe the treatment of each bucket in one line.  Kinds are written with their
name and number in angle brackets, and a list of one instruction has a comma after it.
-/

namespace Value

/-- The text of an operand inside a larger text, where a text is quoted. -/
def described : Value → String
  | text s => Text.quoted s
  | v => v.plain

end Value

namespace Action

/-- The name of the kind. -/
def name : Action → String
  | output => "OUTPUT"
  | group => "GROUP"
  | layer2 => "L2MODIFICATION"
  | meter => "METER"
  | table => "TABLE"

/-- The number of the kind. -/
def number : Action → Nat
  | output => 1
  | group => 2
  | layer2 => 3
  | meter => 4
  | table => 5

/-- Name and number of the kind. -/
def described (a : Action) : String :=
  "<InstructionType." ++ a.name ++ ": " ++ Numeral.decimal a.number ++ ">"

end Action

namespace VlanOp

/-- The name of the operation. -/
def name : VlanOp → String
  | push => "VLAN_PUSH"
  | pop => "VLAN_POP"
  | setId => "VLAN_ID"

/-- The number of the operation. -/
def number : VlanOp → Nat
  | push => 1
  | pop => 2
  | setId => 3

/-- Name and number of the operation. -/
def described (op : VlanOp) : String :=
  "<L2SubType." ++ op.name ++ ": " ++ Numeral.decimal op.number ++ ">"

end VlanOp

/-- The text of an instruction. -/
def Instruction.described (i : Instruction) : String :=
  let vlanOp := match i.vlanOp with
    | some op => op.described
    | none => "None"
  "Instruction(type=" ++ i.action.described ++ ", subtype=" ++ vlanOp
    ++ ", value=" ++ i.value.described ++ ")"

namespace Treatment

/-- The text of a list of instructions. -/
def describedList : List Instruction → String
  | [] => "()"
  | [i] => "(" ++ i.described ++ ",)"
  | is => "(" ++ String.intercalate ", " (is.map Instruction.described) ++ ")"

/-- The text of a treatment. -/
def described (t : Treatment) : String :=
  "TrafficTreatment(immediate=" ++ describedList t.immediate
    ++ ", deferred=" ++ describedList t.deferred ++ ")"

end Treatment

end LineTerminal
