import LineTerminal.Binary64
import LineTerminal.Document.Tree
import LineTerminal.Text

/-!
# Numbers in documents

A value of a document can stand for a number: a truth value is one or zero, and a text may hold a
numeral, with the digits of any script, blanks around it, and single underscores between digits.
-/

namespace LineTerminal

namespace Tree

/-- Why a value does not stand for a number. -/
inductive NumberError where
  /-- The value is of another kind. -/
  | notNumeric
  /-- The text is no numeral, or the number is none. -/
  | unreadable
  /-- The number is too large. -/
  | unbounded
  /-- The value is too deep to be written out. -/
  | tooDeep
deriving DecidableEq

/-- The value itself is to blame, which is of a kind that can be read. -/
def NumberError.IsValueError : NumberError → Prop
  | unreadable => True
  | notNumeric | unbounded | tooDeep => False

/--
A text in ASCII: the digits of all scripts become ASCII digits and the blanks beyond ASCII become
blanks.  Another character beyond ASCII becomes one that no numeral has.
-/
def asciiNumeral (cs : List Char) : List Char :=
  cs.map fun c =>
    if c.toNat < 0x7F then c
    else if Text.isWideBlank c then ' '
    else match Text.decimalValue? c with
      | some d => Nat.digitChar d
      | none => '?'

/-- Leaves out the underscores, each of which has to stand between two digits. -/
def dropUnderscores? (cs : List Char) : Option (List Char) :=
  let isDigit (c : Option Char) : Bool := c.any Binary64.isDigit
  let rec go (previous : Option Char) : List Char → Option (List Char)
    | [] => some []
    | c :: rest =>
      if c = '_' then
        if isDigit previous && isDigit rest.head? then go (some c) rest else none
      else (go (some c) rest).map (c :: ·)
  go none cs

/-- A numeral without the blanks around it: whether it has a minus sign, and the rest. -/
def signedNumeral (cs : List Char) : Bool × List Char :=
  Binary64.splitSign (Text.trim Text.isAsciiBlank (asciiNumeral cs))

/-- The whole number that a text stands for. -/
def readInt? (cs : List Char) : Option Int := do
  let (negative, rest) := signedNumeral cs
  let n ← Numeral.natural? (← dropUnderscores? rest)
  return if negative then -(n : Int) else n

/-- A numeral without the mark of its base: a zero and a letter, of either case. -/
def afterMark (mark : Char) : List Char → List Char
  | '0' :: c :: rest => if c.toLower = mark then rest else '0' :: c :: rest
  | cs => cs

/-- The whole number that a text without underscores stands for in a base with a mark. -/
def readIntIn? (base : Nat) (mark : Char) (cs : List Char) : Option Int := do
  let (negative, rest) := signedNumeral cs
  let digits ← (afterMark mark rest).mapM Numeral.hexValue?
  if digits.isEmpty || digits.any (base ≤ ·) then none
  else
    let n := Numeral.ofDigits base digits
    return if negative then -(n : Int) else n

/-- The floating-point number that a text stands for. -/
def readFloat? (cs : List Char) : Option Float := do
  Binary64.read? (← dropUnderscores? (Text.trim Text.isAsciiBlank (asciiNumeral cs)))

/-- Octets as the characters that they are in ASCII. -/
def asciiChars (b : Bytes) : List Char :=
  b.map fun octet => if octet < 0x80 then Char.ofNat octet.toNat else '?'

/-- The whole number that a value stands for.  A fraction is cut off. -/
def toInt : Tree → Except NumberError Int
  | bool b => .ok (if b then 1 else 0)
  | int n => .ok n
  | float x =>
    match Binary64.truncate? x with
    | some n => .ok n
    | none => .error (if Binary64.parts x = .nan then .unreadable else .unbounded)
  | text ps => (readInt? (ps.map Text.Point.shown)).elim (.error .unreadable) .ok
  | bytes b => (readInt? (asciiChars b)).elim (.error .unreadable) .ok
  | _ => .error .notNumeric

/-- The floating-point number that a value stands for. -/
def toFloat : Tree → Except NumberError Float
  | bool b => .ok (if b then 1 else 0)
  | int n => (Binary64.ofInt? n).elim (.error .unbounded) .ok
  | float x => .ok x
  | text ps => (readFloat? (ps.map Text.Point.shown)).elim (.error .unreadable) .ok
  | bytes b => (readFloat? (asciiChars b)).elim (.error .unreadable) .ok
  | _ => .error .notNumeric

/-- The text of a value, whatever its kind. -/
def toText (t : Tree) : Except NumberError (List Text.Point) :=
  if maxDepth < t.depth then .error .tooDeep else t.text?.elim (.error .unreadable) .ok

end Tree

/-! ### The order of a set of numbers

The members of a set have no order of their own.  A set of numbers is shown in the order of the
places of a table.  The place of a number follows from its hash value, or from the next tries if the
place is taken.  Equal numbers have the same hash value, whatever their kind.
-/

namespace NumberSet

/-- A prime.  Without a sign, numbers that differ by a multiple of it have the same hash value. -/
def modulus : Nat := 0x1FFFFFFFFFFFFFFF

/-- The number of bits of the prime.  Two to this power leaves one as its remainder. -/
def modulusBits : Nat := 61

/-- The number of words of 64 bits. -/
def wordCount : Nat := 0x10000000000000000

/-- A remainder with a sign as a word.  Minus one is no hash value, and minus two stands for it. -/
def signed (negative : Bool) (remainder : Nat) : Nat :=
  if negative then (wordCount - if remainder = 1 then 2 else remainder) % wordCount else remainder

/-- The hash value of an infinity without its sign. -/
def hashOfInfinity : Nat := 314159

/-- The hash value of a value if it is a number. -/
def hash? : Tree → Option Nat
  | .bool b => some (if b then 1 else 0)
  | .int n => some (signed (n < 0) (n.natAbs % modulus))
  | .float x =>
    match Binary64.parts x with
    | .nan => none
    | .infinite negative => some (signed negative hashOfInfinity)
    | .finite negative mantissa exponent =>
      let power := Nat.pow 2 (exponent.emod modulusBits).toNat
      some (signed negative (mantissa * power % modulus))
  | _ => none

/-- A table, some of whose places are taken. -/
abbrev Table := Array (Option Tree)

/-- The number of places of a table for so many members. -/
def sizeFor (count : Nat) : Nat := if count ≤ 4 then 8 else (2 * count + 1).nextPowerOfTwo

/-- The number of places that are tried after one another. -/
def runLength : Nat := 10

/-- The places of a table that are tried from one place on. -/
def run (t : Table) (place : Nat) : List Nat :=
  if place + runLength ≤ t.size then List.range' place runLength else [place]

/-- Whether a place of a table can be taken. -/
def isFree (t : Table) (place : Nat) : Bool :=
  match t[place]? with
  | some none => true
  | _ => false

/-- The first free place from a place on, in at most so many runs.  A word tells where to go on. -/
def freeFrom? (t : Table) : Nat → Nat → Nat → Option Nat
  | 0, _, _ => none
  | runs + 1, place, word =>
    match (run t place).find? (isFree t) with
    | some found => some found
    | none =>
      let rest := word / 32
      freeFrom? t runs ((5 * place + 1 + rest) % t.size) rest

/--
The free place for a hash value.  After 13 runs nothing is left of a word, and from then on the runs
begin at every place in turn, since the number of places is a power of two.
-/
def freePlace? (t : Table) (hash : Nat) : Option Nat :=
  freeFrom? t (t.size + 13) (hash % t.size) hash

/-- Puts a member in its place. -/
def put (t : Table) (member : Tree × Nat) : Table :=
  match freePlace? t member.2 with
  | some place => t.setIfInBounds place (some member.1)
  | none => t

/-- The members of a set in the order in which they are shown, if they all are numbers. -/
def arranged (members : List Tree) : List Tree :=
  match members.mapM hash? with
  | some hashes =>
    let empty : Table := Array.replicate (sizeFor members.length) none
    ((members.zip hashes).foldl put empty).toList.filterMap id
  | none => members

end NumberSet
end LineTerminal
