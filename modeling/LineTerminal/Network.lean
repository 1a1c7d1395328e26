import LineTerminal.Numeral
import LineTerminal.Selector
import LineTerminal.Text
import LineTerminal.Treatment

/-!
# Networks

The texts of internet addresses and of blocks of addresses, as far as they tell whether a block is
for multicast.
-/

namespace LineTerminal

/-! ### Internet addresses

The texts of IPv4 addresses, four decimal octets without leading zeros, and of IPv6 addresses, eight
hexadecimal groups of which one run may be left out, the last two may be written as an IPv4 address,
and after which a zone may be named.
-/

namespace Network

/-- One decimal octet: up to three digits, no leading zero, at most 255. -/
def octet? (cs : List Char) : Option Nat := do
  let n ← Numeral.natural? cs
  if cs.length ≤ 3 ∧ (cs = ['0'] ∨ cs.head? ≠ some '0') ∧ n ≤ 255 then some n else none

/-- An IPv4 address as a number of 32 bits. -/
def address4? (cs : List Char) : Option Nat :=
  match Text.fields '.' cs with
  | [a, b, c, d] => ([a, b, c, d].mapM octet?).map (Numeral.ofDigits 256)
  | _ => none

/-- One hexadecimal group of up to four digits. -/
def group? (cs : List Char) : Option Nat :=
  if cs.length ≤ 4 then (cs.mapM Numeral.hexValue?).map (Numeral.ofDigits 16) else none

/--
The groups between the colons, where `none` stands for an empty place.  An IPv4 address in the last
place makes two groups.
-/
def groups? : List (List Char) → Option (List (Option Nat))
  | [] => some []
  | [] :: rest => (groups? rest).map (none :: ·)
  | [last] =>
    if '.' ∈ last then (address4? last).map fun n => [some (n / 0x10000), some (n % 0x10000)]
    else (group? last).map fun n => [some n]
  | part :: rest => do
    let n ← group? part
    let others ← groups? rest
    return some n :: others

/--
An empty place at the end of the list is only there when the run that is left out stands at that
end, where it shows as two empty places.
-/
def dropEmptyEnd : List (Option Nat) → Option (List (Option Nat))
  | none :: none :: rest => some (none :: rest)
  | none :: _ => none
  | places => some places

/-- The eight groups, with zeros for the run that is left out. -/
def fill (places : List (Option Nat)) : Option (List Nat) :=
  let high := (places.takeWhile Option.isSome).filterMap id
  match places.dropWhile Option.isSome with
  | [] => if high.length = 8 then some high else none
  | _ :: rest =>
    let low := rest.filterMap id
    if low.length = rest.length ∧ high.length + low.length ≤ 7 then
      some (high ++ List.replicate (8 - high.length - low.length) 0 ++ low)
    else none

/-- An IPv6 address without a zone, as a number of 128 bits. -/
def bareAddress6? (cs : List Char) : Option Nat := do
  let places ← groups? (Text.fields ':' cs)
  let places ← dropEmptyEnd places
  let reversed ← dropEmptyEnd places.reverse
  let groups ← fill reversed.reverse
  return Numeral.ofDigits 0x10000 groups

/-- An IPv6 address as a number of 128 bits.  A zone after it must not be empty. -/
def address6? (cs : List Char) : Option Nat :=
  match Text.fields '%' cs with
  | [address] => bareAddress6? address
  | [address, zone] => if zone.isEmpty then none else bareAddress6? address
  | _ => none

end Network

/-! ### Address blocks

A block of addresses is written as one of its addresses and, after a slash, the number of leading
bits that the block fixes.  For IPv4 these bits may also be given as a mask that has them set, or as
one that has all others set.
-/

namespace Network

/-- The two families of addresses. -/
inductive Family where
  | ipv4
  | ipv6
deriving DecidableEq

namespace Family

/-- The number of bits of an address. -/
def width : Family → Nat
  | ipv4 => 32
  | ipv6 => 128

/-- Reads an address of the family. -/
def address? : Family → List Char → Option Nat
  | ipv4 => address4?
  | ipv6 => address6?

/-- Whether an address is for multicast use: 224.0.0.0/4 and ff00::/8. -/
def isMulticast : Family → Nat → Bool
  | ipv4, address => address / Nat.pow 2 28 = 0xE
  | ipv6, address => address / Nat.pow 2 120 = 0xFF

/-- The mask whose first `length` bits are set. -/
def mask (f : Family) (length : Nat) : Nat :=
  Nat.pow 2 f.width - Nat.pow 2 (f.width - length)

/-- The number of leading bits that a mask sets. -/
def maskLength? (f : Family) (m : Nat) : Option Nat :=
  (List.range (f.width + 1)).find? fun length => f.mask length = m

/-- The number of leading bits after the slash, in figures or, for IPv4, as a mask. -/
def length? (f : Family) (cs : List Char) : Option Nat :=
  match (Numeral.natural? cs).filter (· ≤ f.width) with
  | some length => some length
  | none =>
    match f with
    | ipv4 => do
      let m ← address4? cs
      f.maskLength? m <|> f.maskLength? (Nat.pow 2 f.width - 1 - m)
    | ipv6 => none

end Family

/-- A block of addresses: those that agree with `address` in the first `length` bits. -/
structure Block where
  /-- The family of the addresses. -/
  family : Family
  /-- One address of the block. -/
  address : Nat
  /-- The number of leading bits that the block fixes. -/
  length : Nat
deriving DecidableEq

namespace Block

/-- The number of addresses. -/
def size (b : Block) : Nat := Nat.pow 2 (b.family.width - b.length)

/-- The least address. -/
def first (b : Block) : Nat := b.address / b.size * b.size

/-- The greatest address. -/
def last (b : Block) : Nat := b.first + (b.size - 1)

/-- Whether the block lies within the multicast addresses, judged by its two ends. -/
def isMulticast (b : Block) : Bool :=
  b.family.isMulticast b.first && b.family.isMulticast b.last

/-- Reads a block of one family.  Without a slash it is a single address. -/
def ofFamily? (f : Family) (cs : List Char) : Option Block :=
  match Text.fields '/' cs with
  | [address] => (f.address? address).map fun a => ⟨f, a, f.width⟩
  | [address, length] => do
    let a ← f.address? address
    let l ← f.length? length
    return ⟨f, a, l⟩
  | _ => none

/-- Reads a block of either family. -/
def ofText? (cs : List Char) : Option Block :=
  ofFamily? .ipv4 cs <|> ofFamily? .ipv6 cs

end Block

/-- A text that is not an address block. -/
structure Unreadable where
  /-- The text that was read. -/
  text : String
deriving DecidableEq

/-- The text of the error. -/
def Unreadable.message (e : Unreadable) : String :=
  Text.quoted e.text ++ " does not appear to be an IPv4 or IPv6 network"

end Network

/--
Whether a selector matches a multicast destination.  Without a destination it does not; a
destination that is no address block is an error.
-/
def Selector.isMulticast (s : Selector) : Except Network.Unreadable Bool :=
  match s.get? .ipv4Destination with
  | none => .ok false
  | some c =>
    match Network.Block.ofText? c.value.plain.toList with
    | some block => .ok block.isMulticast
    | none => .error ⟨c.value.plain⟩

end LineTerminal
