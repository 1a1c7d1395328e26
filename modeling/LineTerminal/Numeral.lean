/-!
# Numerals and octets

The texts of whole numbers, and strings of octets.
-/

namespace LineTerminal

/-! ### Positional numerals

The texts of whole numbers: decimal with a minus sign, and hexadecimal in lower case.
-/

namespace Numeral

/-- The decimal digits of a natural number, without leading zeros. -/
def digits (n : Nat) : List Char := Nat.toDigits 10 n

/-- The hexadecimal digits of a natural number, in lower case and without leading zeros. -/
def hexDigits (n : Nat) : List Char := Nat.toDigits 16 n

/-- A sign and the digits of the magnitude, filled up with zeros to a total width. -/
def signed (digitsOf : Nat → List Char) (width : Nat) (n : Int) : String :=
  let sign := if n < 0 then ['-'] else []
  let magnitude := digitsOf n.natAbs
  String.ofList (sign ++ List.replicate (width - sign.length - magnitude.length) '0' ++ magnitude)

/-- The decimal text of a number. -/
def decimal (n : Int) : String := signed digits 0 n

/-- The hexadecimal text of a number, at least `width` characters wide. -/
def hex (width : Nat) (n : Int) : String := signed hexDigits width n

/-- The value of a hexadecimal digit of either case. -/
def hexValue? (c : Char) : Option Nat :=
  if '0' ≤ c ∧ c ≤ '9' then some (c.toNat - 48)
  else if 'a' ≤ c ∧ c ≤ 'f' then some (c.toNat - 87)
  else if 'A' ≤ c ∧ c ≤ 'F' then some (c.toNat - 55)
  else none

/-- The value of an ASCII decimal digit. -/
def digitValue? (c : Char) : Option Nat :=
  if '0' ≤ c ∧ c ≤ '9' then some (c.toNat - 48) else none

/-- The number that a list of digits stands for in a base, most significant digit first. -/
def ofDigits (base : Nat) (ds : List Nat) : Nat :=
  ds.foldl (fun n d => n * base + d) 0

/-- The most decimal digits that a numeral may have when it is read or written. -/
def maxDigits : Nat := 4300

/-- The number that ASCII decimal digits stand for: at least one digit, and not too many. -/
def natural? (cs : List Char) : Option Nat :=
  if cs.isEmpty || maxDigits < cs.length then none
  else (cs.mapM digitValue?).map (ofDigits 10)

end Numeral

/-! ### Octet strings

Octets are kept as a list.  Numbers are written most significant octet first.
-/

/-- A string of octets. -/
abbrev Bytes := List UInt8

namespace Bytes

/-- The `width` low octets of a number, most significant first. -/
def bigEndian : Nat → Nat → Bytes
  | 0, _ => []
  | width + 1, n => UInt8.ofNat (n / Nat.pow 256 width) :: bigEndian width n

/-- The number that octets stand for, most significant first. -/
def toNat (b : Bytes) : Nat :=
  b.foldl (fun n octet => n * 256 + octet.toNat) 0

/-- The UTF-8 form of a text. -/
def ofText (s : String) : Bytes := s.toUTF8.data.toList

/-- The text of octets that are the UTF-8 form of one. -/
def toText? (b : Bytes) : Option String := String.fromUTF8? b.toByteArray

/-- Two lower-case hexadecimal digits for each octet. -/
def hex (b : Bytes) : String :=
  String.ofList (b.flatMap fun octet =>
    [Nat.digitChar (octet.toNat / 16), Nat.digitChar (octet.toNat % 16)])

/-- Reads two hexadecimal digits, of either case, for each octet. -/
def ofHexDigits? : List Char → Option Bytes
  | [] => some []
  | [_] => none
  | c :: d :: rest => do
    let high ← Numeral.hexValue? c
    let low ← Numeral.hexValue? d
    let others ← ofHexDigits? rest
    return UInt8.ofNat (high * 16 + low) :: others

end Bytes

end LineTerminal
