import LineTerminal.Numeral

/-!
# Floating-point numbers

How a floating-point number of 64 bits is put together, how it is read from a numeral, and which
numeral it is written as.
-/

namespace LineTerminal
namespace Binary64

/-! ### The parts of a floating-point number

A number of 64 bits is no number, an infinity, or a natural mantissa times a power of two, with a
sign.
-/

/-- What the bits of a floating-point number stand for. -/
inductive Parts where
  /-- No number. -/
  | nan
  /-- An infinity with its sign. -/
  | infinite (negative : Bool)
  /-- `mantissa * 2 ^ exponent` with its sign. -/
  | finite (negative : Bool) (mantissa : Nat) (exponent : Int)
deriving DecidableEq

/-- The exponent of the least positive number. -/
def leastExponent : Int := -1074

/-- The mantissas of numbers above the least binade begin here. -/
def leastNormal : Nat := 0x10000000000000

/-- The value of the sign among the bits. -/
def signBit : Nat := 0x8000000000000000

/-- The parts that a bit pattern stands for. -/
def partsOfBits (bits : Nat) : Parts :=
  let negative : Bool := bits / signBit % 2 = 1
  let biased := bits / leastNormal % 2048
  let fraction := bits % leastNormal
  if biased = 2047 then
    if fraction = 0 then .infinite negative else .nan
  else if biased = 0 then .finite negative fraction leastExponent
  else .finite negative (leastNormal + fraction) (Int.ofNat biased - 1075)

/-- The parts of a number. -/
def parts (x : Float) : Parts := partsOfBits x.toBits.toNat

/-- The number without its fraction.  There is none for an infinity or for no number. -/
def truncate? (x : Float) : Option Int :=
  match parts x with
  | .finite negative mantissa exponent =>
    let magnitude :=
      if 0 ≤ exponent then mantissa * Nat.pow 2 exponent.toNat
      else mantissa / Nat.pow 2 (-exponent).toNat
    some (if negative then -(magnitude : Int) else magnitude)
  | _ => none

/-! ### Rounding to floating-point numbers

A quotient of natural numbers is rounded to the nearest floating-point number, and half-way to the
one with the even mantissa.
-/

/-- The quotient, rounded to the nearest natural number, and half-way to the even one. -/
def divNearestEven (a b : Nat) : Nat :=
  let q := a / b
  let r := a % b
  if 2 * r < b then q
  else if b < 2 * r then q + 1
  else q + q % 2

/-- The bits of positive infinity. -/
def infinityBits : Nat := 2047 * leastNormal

/-- The exponent at which the mantissa of `a / b` has 53 bits, unless it is too small. -/
def exponentOf (a b : Nat) : Int :=
  let e : Int := (Nat.log2 a : Int) - Nat.log2 b - 53
  let e := if a * Nat.pow 2 (-(53 + e)).toNat < b * Nat.pow 2 (53 + e).toNat then e else e + 1
  max e leastExponent

/-- The bits of the number nearest to `a / b`. -/
def bitsOfQuotient (a b : Nat) : Nat :=
  if a = 0 then 0
  else
    let e := exponentOf a b
    let mantissa := divNearestEven (a * Nat.pow 2 (-e).toNat) (b * Nat.pow 2 e.toNat)
    let bits :=
      if mantissa < leastNormal then mantissa
      else (e + 1075).toNat * leastNormal + (mantissa - leastNormal)
    min bits infinityBits

/-- The number with these bits and this sign. -/
def ofBits (negative : Bool) (bits : Nat) : Float :=
  Float.ofBits (UInt64.ofNat (bits + if negative then signBit else 0))

/-- The number nearest to a whole number.  There is none beyond the greatest finite one. -/
def ofInt? (n : Int) : Option Float :=
  let bits := bitsOfQuotient n.natAbs 1
  if bits = infinityBits then none else some (ofBits (n < 0) bits)

/--
The number nearest to `digits * 10 ^ exponent`, where `width` is the number of decimal digits.
Beyond the range of floating-point numbers the powers of ten are not computed.
-/
def bitsOfDecimal (digits width : Nat) (exponent : Int) : Nat :=
  if digits = 0 ∨ exponent + width < -330 then 0
  else if 330 + (width : Int) < exponent + width ∧ 330 < exponent then infinityBits
  else bitsOfQuotient (digits * Nat.pow 10 exponent.toNat) (Nat.pow 10 (-exponent).toNat)

/-! ### Reading floating-point numbers

A numeral is an optional sign, digits with at most one point among or around them, and an optional
exponent.  Infinity and no number have names, in either case of letters.
-/

/-- A sign at the front: whether it is a minus, and what follows. -/
def splitSign : List Char → Bool × List Char
  | '-' :: rest => (true, rest)
  | '+' :: rest => (false, rest)
  | rest => (false, rest)

/-- Whether a character is an ASCII decimal digit. -/
def isDigit (c : Char) : Bool := (Numeral.digitValue? c).isSome

/-- The value of a run of ASCII decimal digits. -/
def digitsValue (cs : List Char) : Nat := Numeral.ofDigits 10 (cs.filterMap Numeral.digitValue?)

/-- The exponent after the digits: nothing, or a letter, a sign and at least one digit. -/
def exponent? : List Char → Option Int
  | [] => some 0
  | mark :: rest =>
    let (negative, digits) := splitSign rest
    if (mark = 'e' ∨ mark = 'E') ∧ ¬digits.isEmpty ∧ digits.all isDigit then
      some (if negative then -(digitsValue digits : Int) else digitsValue digits)
    else none

/-- The bits of an unsigned numeral. -/
def unsignedBits? (cs : List Char) : Option Nat :=
  let whole := cs.takeWhile isDigit
  let afterWhole := cs.dropWhile isDigit
  let (fraction, tail) := match afterWhole with
    | '.' :: rest => (rest.takeWhile isDigit, rest.dropWhile isDigit)
    | rest => ([], rest)
  let digits := whole ++ fraction
  if digits.isEmpty then none
  else do
    let exponent ← exponent? tail
    return bitsOfDecimal (digitsValue digits) (digits.dropWhile (· = '0')).length
      (exponent - fraction.length)

/-- The bits of no number. -/
def nanBits : Nat := infinityBits + leastNormal / 2

/-- The bits of a name. -/
def namedBits? (cs : List Char) : Option Nat :=
  match String.ofList (cs.map Char.toLower) with
  | "inf" | "infinity" => some infinityBits
  | "nan" => some nanBits
  | _ => none

/-- The number that a numeral or a name stands for. -/
def read? (cs : List Char) : Option Float :=
  let (negative, rest) := splitSign cs
  (unsignedBits? rest <|> namedBits? rest).map (ofBits negative)

/-! ### Shortest decimals

The shortest decimal of a positive number `mantissa * 2 ^ exponent` is the one with the fewest
digits that lies in the interval of the reals that round to the number, and of those the nearest.
The interval reaches half-way to the two neighbours, and holds its ends exactly when the mantissa is
even.  The decimals with the last digit at `10 ^ place` form a grid; if any of its points lies in
the interval, so does one of the two around the number, so only these are tried.
-/

/-- A number and its rounding interval, in quarters of the distance to the next number. -/
structure Rounding where
  /-- The mantissa. -/
  mantissa : Nat
  /-- The exponent. -/
  exponent : Int

namespace Rounding

/-- The number itself, in quarters. -/
def centre (r : Rounding) : Nat := 4 * r.mantissa

/-- The lower end: nearer when the number below has a smaller exponent. -/
def lower (r : Rounding) : Nat :=
  if r.mantissa = leastNormal ∧ leastExponent < r.exponent then r.centre - 1 else r.centre - 2

/-- The upper end. -/
def upper (r : Rounding) : Nat := r.centre + 2

/-- The length of a quarter, over a denominator that makes grid points whole as well. -/
def unit (r : Rounding) (place : Int) : Nat :=
  Nat.pow 2 (r.exponent - 2).toNat * Nat.pow 10 (-place).toNat

/-- The distance of two grid points over the same denominator. -/
def step (r : Rounding) (place : Int) : Nat :=
  Nat.pow 10 place.toNat * Nat.pow 2 (2 - r.exponent).toNat

/-- Whether a grid point lies in the interval. -/
def Holds (r : Rounding) (place : Int) (point : Nat) : Prop :=
  let x := point * r.step place
  let low := r.lower * r.unit place
  let high := r.upper * r.unit place
  if r.mantissa % 2 = 0 then low ≤ x ∧ x ≤ high else low < x ∧ x < high

instance (r : Rounding) (place : Int) (point : Nat) : Decidable (r.Holds place point) := by
  unfold Holds
  exact inferInstance

/--
The grid point in the interval that is nearest to the number, if there is one.  Of two that are
equally near the even one is taken.
-/
def nearest? (r : Rounding) (place : Int) : Option Nat :=
  let x := r.centre * r.unit place
  let below := x / r.step place
  let above := below + 1
  let toBelow := x - below * r.step place
  let toAbove := above * r.step place - x
  if r.Holds place below ∧ r.Holds place above then
    if toBelow < toAbove then some below
    else if toAbove < toBelow then some above
    else some (below + below % 2)
  else if r.Holds place below then some below
  else if r.Holds place above then some above
  else none

/-- The first grid with a point in the interval, among a number of ever finer ones. -/
def search (r : Rounding) : Nat → Int → Option (Nat × Int)
  | 0, _ => none
  | grids + 1, place =>
    match r.nearest? place with
    | some point => some (point, place)
    | none => search r grids (place - 1)

/-- A place at or above that of the first digit. -/
def topPlace (r : Rounding) : Int :=
  (Nat.log2 r.mantissa + r.exponent + 1) * 30103 / 100000 + 1

end Rounding

/-- The significant digits of a decimal `0.d₁d₂… * 10 ^ point`. -/
structure Decimal where
  /-- The digits, of which neither the first nor the last is zero. -/
  digits : List Char
  /-- The power of ten that the digits after the point are multiplied with. -/
  point : Int

/-- The shortest decimal of a positive number. -/
def shortest (mantissa : Nat) (exponent : Int) : Decimal :=
  let r : Rounding := ⟨mantissa, exponent⟩
  match r.search 25 r.topPlace with
  | some (number, place) =>
    let digits := Numeral.digits number
    { digits := (digits.reverse.dropWhile (· = '0')).reverse
      point := place + digits.length }
  | none => ⟨[], 0⟩

/-! ### The text of a floating-point number -/

/-- How decimals are laid out. -/
structure Style where
  /-- The least position of the point that is written without an exponent. -/
  leastPoint : Int
  /-- The greatest position of the point that is written without an exponent. -/
  greatestPoint : Int
  /-- The least number of digits of an exponent. -/
  exponentWidth : Nat

/--
Durations are written without an exponent from 0.0001 on and below `10 ^ 16`, and exponents with a
sign and at least two digits.
-/
def Style.duration : Style := ⟨-3, 16, 2⟩

/-- The layout of a decimal.  A whole number keeps a zero after the point. -/
def Style.layOut (s : Style) (d : Decimal) : List Char :=
  let count := d.digits.length
  if s.leastPoint ≤ d.point ∧ d.point ≤ s.greatestPoint then
    if d.point ≤ 0 then '0' :: '.' :: List.replicate (-d.point).toNat '0' ++ d.digits
    else if d.point.toNat < count then
      d.digits.take d.point.toNat ++ '.' :: d.digits.drop d.point.toNat
    else d.digits ++ List.replicate (d.point.toNat - count) '0' ++ ['.', '0']
  else
    let exponent := d.point - 1
    let magnitude := Numeral.digits exponent.natAbs
    let fraction := if count ≤ 1 then [] else '.' :: d.digits.drop 1
    d.digits.take 1 ++ fraction ++ 'e' :: (if exponent < 0 then '-' else '+')
      :: List.replicate (s.exponentWidth - magnitude.length) '0' ++ magnitude

/-- The text of a number: the shortest decimal that reads back. -/
def text (x : Float) : String :=
  let sign (negative : Bool) := if negative then ['-'] else []
  match parts x with
  | .nan => "nan"
  | .infinite negative => String.ofList (sign negative ++ ['i', 'n', 'f'])
  | .finite negative 0 _ => String.ofList (sign negative ++ ['0', '.', '0'])
  | .finite negative mantissa exponent =>
    String.ofList (sign negative ++ Style.duration.layOut (shortest mantissa exponent))

end Binary64
end LineTerminal
