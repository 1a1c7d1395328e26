import LineTerminal.Numeral

/-!
# Values in rules

The operands of match fields and instructions, the numbers among them that have a meaning of their
own, and those that consist of two.
-/

namespace LineTerminal

/-! ### Operands

Match fields and instructions carry one operand each.  Most operands are numbers, an address prefix
is a text, and some instructions have none.
-/

/-- The operand of a match field or of an instruction. -/
inductive Value where
  /-- A number: a port, an identifier, an ether type or a table. -/
  | number (n : Int)
  /-- A text, such as an address prefix. -/
  | text (s : String)
  /-- No operand. -/
  | absent
deriving DecidableEq

namespace Value

/-- The numeric operand, if there is one. -/
def number? : Value → Option Int
  | number n => some n
  | _ => none

/-- The text of an operand on its own. -/
def plain : Value → String
  | number n => Numeral.decimal n
  | text s => s
  | absent => "None"

end Value

/-! ### Well-known numbers

Ether types, protocol numbers, ports and the two reserved VLAN identifiers that the pipeline of an
optical line terminal gives a meaning to.
-/

namespace WellKnown

/-- The VLAN identifier that stands for an untagged frame. -/
def vlanNone : Int := 0xFFFF

/-- The VLAN identifier that stands for any tag. -/
def vlanAny : Int := 0x1000

/-- The reserved port that leads to the controller. -/
def controllerPort : Int := 0xFFFFFFFD

/-- Ether type of IPv4. -/
def etherIpv4 : Int := 0x0800

/-- Ether type of a customer VLAN tag. -/
def etherVlan : Int := 0x8100

/-- Ether type of a service VLAN tag, the outer tag of a doubly tagged frame. -/
def etherServiceVlan : Int := 0x88A8

/-- Ether type of port authentication. -/
def etherEapol : Int := 0x888E

/-- Ether type of link discovery. -/
def etherLldp : Int := 0x88CC

/-- Protocol number of IGMP. -/
def protocolIgmp : Int := 2

/-- Protocol number of UDP. -/
def protocolUdp : Int := 17

/-- The UDP port a DHCP client sends from. -/
def dhcpClientPort : Int := 68

/-- The UDP port a DHCP server listens on. -/
def dhcpServerPort : Int := 67

end WellKnown

/-! ### Packet metadata

The client VLAN and the output port travel from the line card to the pipeline in one metadata word:
the low 16 bits of the VLAN above the low 32 bits of the port.
-/

namespace Metadata

/-- Packs a VLAN identifier and a port. -/
def pack (vlan port : Int) : Int :=
  vlan % 0x10000 * 0x100000000 + port % 0x100000000

/-- The VLAN identifier and the port in a metadata word. -/
def split (word : Int) : Int × Int :=
  (word / 0x100000000 % 0x10000, word % 0x100000000)

/-- Packs two operands if both are numbers. -/
def pack? (vlan port : Value) : Option Int := do
  return pack (← vlan.number?) (← port.number?)

end Metadata
end LineTerminal
