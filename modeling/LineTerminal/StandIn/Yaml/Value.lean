import LineTerminal.Document.Number
import LineTerminal.Document.Tree
import LineTerminal.Numeral
import LineTerminal.StandIn.Yaml.Text
import LineTerminal.Text
import LineTerminal.Text.LetterCase

/-!
# A stand-in for the loader of documents: types

The types that the texts in a document have, and their values.
-/

namespace LineTerminal
namespace Yaml

/-! ### Types of values

A tag names the type of a value.  The types that every document can use have names of their own.
-/

/-- The type of a value. -/
inductive Tag where
  | null
  | bool
  | int
  | float
  | text
  | binary
  | timestamp
  | sequence
  | mapping
  | set
  /-- A sequence of mappings with one entry each, whose keys differ. -/
  | orderedMapping
  /-- A sequence of mappings with one entry each. -/
  | pairs
  /-- The key under which other mappings are merged into a mapping. -/
  | merge
  /-- The key of a value that stands for the whole mapping. -/
  | default
  /-- Any other type. -/
  | other (name : String)
deriving DecidableEq

namespace Tag

/-- What the names of the common types begin with. -/
def commonStart : String := "tag:yaml.org,2002:"

/-- The common types and the ends of their names. -/
def common : List (String × Tag) :=
  [("null", null), ("bool", bool), ("int", int), ("float", float), ("str", text),
    ("binary", binary), ("timestamp", timestamp), ("seq", sequence), ("map", mapping),
    ("set", set), ("omap", orderedMapping), ("pairs", pairs), ("merge", merge),
    ("value", default)]

/-- The type with a name. -/
def ofName (name : String) : Tag :=
  match common.find? fun entry => commonStart ++ entry.1 = name with
  | some (_, tag) => tag
  | none => other name

end Tag

/-! ### The types of plain scalars

A plain scalar without a tag has the type whose notation it is written in, and is a text if there is
none.  No text is written in the notations of two types.
-/

namespace Implicit

/-- The notations of nothing. -/
def nulls : List String := ["", "~", "null", "Null", "NULL"]

/-- The notations of truth values. -/
def bools : List String :=
  ["yes", "Yes", "YES", "no", "No", "NO", "true", "True", "TRUE", "false", "False", "FALSE",
    "on", "On", "ON", "off", "Off", "OFF"]

/-- Texts that look like the mark of a tag, an anchor or an alias. -/
def marks : List String := ["!", "&", "*"]

/-- The notations of infinity. -/
def infinities : List (List Char) :=
  [['.', 'i', 'n', 'f'], ['.', 'I', 'n', 'f'], ['.', 'I', 'N', 'F']]

/-- The notations of what is not a number. -/
def notNumbers : List (List Char) :=
  [['.', 'n', 'a', 'n'], ['.', 'N', 'a', 'N'], ['.', 'N', 'A', 'N']]

/-- A text without a sign before it. -/
def unsigned : List Char → List Char
  | '+' :: rest => rest
  | '-' :: rest => rest
  | cs => cs

/-- Whether a character is a digit or an underscore. -/
def isDigitOrLow (c : Char) : Bool := c.isDigit || c = '_'

/-- Whether a text is one character from a class, or more. -/
def isRun (p : Char → Bool) (cs : List Char) : Bool := !cs.isEmpty && cs.all p

/-- The text after a number below sixty of one or two digits. -/
def afterSixtieth? : List Char → Option (List Char)
  | a :: b :: rest =>
    if '0' ≤ a && a ≤ '5' && b.isDigit then some rest
    else if a.isDigit then some (b :: rest)
    else none
  | [a] => if a.isDigit then some [] else none
  | [] => none

/-- The text after a colon and a number below sixty, as often as there are some. -/
def afterSixtieths (atLeastOne : Bool) : Nat → List Char → Option (List Char)
  | 0, _ => none
  | bound + 1, cs =>
    match cs with
    | ':' :: rest =>
      match afterSixtieth? rest with
      | some after => afterSixtieths false bound after
      | none => if atLeastOne then none else some cs
    | _ => if atLeastOne then none else some cs

/-- Whether a text consists of numbers in base sixty, after the first one. -/
def isSixtieths (cs : List Char) : Bool :=
  afterSixtieths true (cs.length + 1) cs = some []

/-- Whether a text is a whole number without its sign. -/
def isUnsignedInt : List Char → Bool
  | '0' :: 'b' :: rest => isRun (fun c => c = '0' || c = '1' || c = '_') rest
  | '0' :: 'x' :: rest =>
    isRun (fun c => isDigitOrLow c || ('a' ≤ c && c ≤ 'f') || ('A' ≤ c && c ≤ 'F')) rest
  | '0' :: rest => rest.all fun c => ('0' ≤ c && c ≤ '7') || c = '_'
  | c :: rest =>
    c.isDigit && (rest.all isDigitOrLow || isSixtieths (rest.dropWhile isDigitOrLow))
  | [] => false

/-- Whether a text is an exponent, which has a sign, or nothing. -/
def isExponent : List Char → Bool
  | [] => true
  | e :: sign :: digits =>
    (e = 'e' || e = 'E') && (sign = '+' || sign = '-') && isRun Char.isDigit digits
  | _ => false

/-- Whether a text is a point, maybe digits, and maybe an exponent. -/
def isFraction : List Char → Bool
  | '.' :: rest => isExponent (rest.dropWhile isDigitOrLow)
  | _ => false

/-- Whether a text is a number in base sixty with a fraction, after its first number. -/
def isSixtiethFraction (cs : List Char) : Bool :=
  match afterSixtieths true (cs.length + 1) cs with
  | some ('.' :: rest) => rest.all isDigitOrLow
  | _ => false

/-- Whether a text is a floating-point number. -/
def isFloat (cs : List Char) : Bool :=
  let bare := unsigned cs
  infinities.contains bare || notNumbers.contains cs
    || match bare with
      | '.' :: c :: _ => c.isDigit && bare = cs && isFraction bare
      | c :: rest =>
        let after := rest.dropWhile isDigitOrLow
        c.isDigit && (isFraction after || isSixtiethFraction after)
      | [] => false

/-- Whether a text is a whole number. -/
def isInt (cs : List Char) : Bool := isUnsignedInt (unsigned cs)

end Implicit

/-! ### Binary values

Octets are written in base 64, four characters for three octets.  Characters without a value are
skipped.
-/

namespace Binary

/-- The value of a character in base 64. -/
def sextet? (c : Char) : Option Nat :=
  if 'A' ≤ c ∧ c ≤ 'Z' then some (c.toNat - 65)
  else if 'a' ≤ c ∧ c ≤ 'z' then some (c.toNat - 71)
  else if '0' ≤ c ∧ c ≤ '9' then some (c.toNat + 4)
  else if c = '+' then some 62
  else if c = '/' then some 63
  else none

/-- The octets that so many sextets are enough for. -/
def octets (sextets : List Nat) : Bytes :=
  let n := sextets.foldl (fun n s => n * 64 + s) 0
  match sextets.length with
  | 2 => [UInt8.ofNat (n / 16)]
  | 3 => Bytes.bigEndian 2 (n / 4)
  | 4 => Bytes.bigEndian 3 n
  | _ => []

/--
The octets of a text after some sextets of a group, and after some padding.  Padding ends the text
when it fills the group up; otherwise it is skipped.
-/
def read? (group : List Nat) (padding : Nat) : List Char → Option Bytes
  | [] => if group.isEmpty then some [] else none
  | c :: rest =>
    if c = '=' then
      if 2 ≤ group.length then
        if 4 ≤ group.length + padding + 1 then some (octets group)
        else read? group (padding + 1) rest
      else read? group padding rest
    else
      match sextet? c with
      | none => read? group padding rest
      | some s =>
        if group.length = 3 then (read? [] 0 rest).map (octets (group ++ [s]) ++ ·)
        else read? (group ++ [s]) 0 rest

/-- The octets of a text in ASCII. -/
def ofText? (text : String) : Option Bytes :=
  let cs := text.toList
  if cs.all fun c => c.toNat < 0x80 then read? [] 0 cs else none

end Binary

/-! ### Points of time

A day is written as year, month and day.  A time may follow, with a fraction of a second and with
the difference to universal time, and then the end of a line.
-/

/-- A day, and maybe a time, as it is written. -/
structure Stamp where
  /-- Year, month and day, which need not be in the calendar. -/
  date : Date
  /-- The point of time, if a time is written. -/
  moment : Option Moment

namespace Stamp

/-- A number of `least` to `most` digits, as many as there are, and the text after it. -/
def number? (least most : Nat) (cs : List Char) : Option (Nat × List Char) :=
  let digits := (cs.take most).takeWhile Char.isDigit
  if digits.length < least then none
  else (digits.mapM Numeral.digitValue?).map fun ds =>
    (Numeral.ofDigits 10 ds, cs.drop digits.length)

/-- The text after a character. -/
def after? (c : Char) : List Char → Option (List Char)
  | x :: rest => if x = c then some rest else none
  | [] => none

/-- Whether a character is a space or a tab. -/
def isGap (c : Char) : Bool := c = ' ' || c = '\t'

/-- The text after what separates day and time: a letter, or blanks. -/
def afterSeparator? : List Char → Option (List Char)
  | c :: rest =>
    if c = 'T' || c = 't' then some rest
    else if isGap c then some (rest.dropWhile isGap)
    else none
  | [] => none

/-- The millionths of a second that a fraction begins with, and the text after the fraction. -/
def fraction (cs : List Char) : Nat × List Char :=
  match cs with
  | '.' :: rest =>
    let digits := rest.takeWhile Char.isDigit
    let millionths := (digits ++ List.replicate 6 '0').take 6
    (Numeral.ofDigits 10 (millionths.filterMap Numeral.digitValue?), rest.dropWhile Char.isDigit)
  | _ => (0, cs)

/-- The minutes of a difference to universal time. -/
def offset? (cs : List Char) : Option Nat := do
  let (hours, rest) ← number? 1 2 cs
  if rest.isEmpty then return hours * 60
  let (minutes, rest) ← number? 2 2 (← after? ':' rest)
  if rest.isEmpty then return hours * 60 + minutes else none

/-- The difference to universal time at the end of a text, if one is written. -/
def zone? (cs : List Char) : Option (Option Int) :=
  match cs.dropWhile isGap with
  | ['Z'] => some (some 0)
  | '+' :: rest => (offset? rest).map fun n => some n
  | '-' :: rest => (offset? rest).map fun n => some (-n)
  | _ => if cs.isEmpty then some none else none

/-- The point of time whose time is written after a day. -/
def moment? (date : Date) (cs : List Char) : Option Moment := do
  let (hour, rest) ← number? 1 2 (← afterSeparator? cs)
  let (minute, rest) ← number? 2 2 (← after? ':' rest)
  let (second, rest) ← number? 2 2 (← after? ':' rest)
  let (fraction, rest) := fraction rest
  let offset ← zone? rest
  return { date, hour, minute, second, fraction, offset }

/-- Reads a day, and maybe a time.  A line may end after it. -/
def read? (cs : List Char) : Option Stamp := do
  let (year, rest) ← number? 4 4 (dropLineEnd cs)
  let (month, rest) ← number? 1 2 (← after? '-' rest)
  let (day, rest) ← number? 1 2 (← after? '-' rest)
  let date : Date := ⟨year, month, day⟩
  if rest.isEmpty then return ⟨date, none⟩
  return ⟨date, some (← moment? date rest)⟩

/-- The value of a stamp, which has to be in the calendar. -/
def value (s : Stamp) : Result Tree :=
  match s.moment with
  | none => s.date.error?.elim (return .date s.date) fun e => .error (.notInCalendar e)
  | some m => m.error?.elim (return .moment m) fun e => .error (.notInCalendar e)

/-- Whether a plain scalar is a point of time.  A day alone is written with ten characters. -/
def isImplicit (cs : List Char) : Bool :=
  match read? cs with
  | some stamp => stamp.moment.isSome || (dropLineEnd cs).length = 10
  | none => false

end Stamp

/-! ### The values of scalars -/

/--
The type of a scalar without a tag, told by its text.  A line feed at the end does not matter,
unless it is the whole text.
-/
def Tag.ofPlain (text : String) : Tag :=
  let cs := dropLineEnd text.toList
  let bare := String.ofList cs
  if cs.isEmpty && !text.isEmpty then .text
  else if Implicit.nulls.contains bare then null
  else if Implicit.bools.contains bare then bool
  else if Implicit.isFloat cs then float
  else if Implicit.isInt cs then int
  else if Stamp.isImplicit text.toList then timestamp
  else if bare = "<<" then merge
  else if bare = "=" then default
  else if Implicit.marks.contains bare then other (commonStart ++ "yaml")
  else .text

namespace Scalar

/-- Whether a number has a minus sign, and its text without a sign. -/
def splitSign : List Char → Bool × List Char
  | '-' :: rest => (true, rest)
  | '+' :: rest => (false, rest)
  | cs => (false, cs)

/-- The whole number of a text without sign and underscores.  A leading zero makes it octal. -/
def unsignedInt? : List Char → Option Int
  | [] => none
  | ['0'] => some 0
  | '0' :: 'b' :: rest => Tree.readIntIn? 2 'b' rest
  | '0' :: 'x' :: rest => Tree.readIntIn? 16 'x' rest
  | '0' :: rest => Tree.readIntIn? 8 'o' ('0' :: rest)
  | cs =>
    if cs.contains ':' then do
      let parts ← (Text.fields ':' cs).mapM Tree.readInt?
      return parts.foldl (fun n part => n * 60 + part) 0
    else Tree.readInt? cs

/-- The whole number of a text. -/
def int (text : String) : Result Int :=
  let (isNegative, cs) := splitSign (text.toList.filter (· ≠ '_'))
  if cs.isEmpty then .error .emptyNumber
  else (unsignedInt? cs).elim (.error .notNumber) fun n => .ok (if isNegative then -n else n)

/--
The sum of numbers in base sixty, from the last one on, each with the power of its place.  The power
has to be a floating-point number itself.
-/
def sumSixtieths (parts : List Float) : Result Float := do
  let (sum, _) ← parts.reverse.foldlM (fun (sum, power) part =>
    match Binary64.ofInt? power with
    | some weight => return (sum + part * weight, power * 60)
    | none => .error .tooManyPlaces) ((0 : Float), (1 : Int))
  return sum

/-- The notation of what is not a number, without a sign. -/
def notNumber : List Char := ['.', 'n', 'a', 'n']

/-- The floating-point number of a text in small letters, without sign and underscores. -/
def unsignedFloat (cs : List Char) : Result Float :=
  if cs = ['.', 'i', 'n', 'f'] then return 1 / 0
  else if cs = notNumber then return 0 / 0
  else if cs.contains ':' then
    ((Text.fields ':' cs).mapM Tree.readFloat?).elim (.error .notNumber) sumSixtieths
  else (Tree.readFloat? cs).elim (.error .notNumber) .ok

/-- Whether a floating-point number has a minus sign, and its text in small letters without it. -/
def floatParts (text : String) : Bool × List Char :=
  splitSign ((text.toList.filter (· ≠ '_')).map Char.toLower)

/-- The floating-point number of a text. -/
def float (text : String) : Result Float := do
  if text.all (· = '_') then .error .emptyNumber
  let (isNegative, cs) := floatParts text
  let x ← unsignedFloat cs
  return if isNegative then -1 * x else x

/-- The truth value of a text, where capital letters do not matter. -/
def bool (text : String) : Result Bool :=
  let small := String.ofList (Text.lower text.toList)
  if ["yes", "true", "on"].contains small then return true
  else if ["no", "false", "off"].contains small then return false
  else .error (.notTruth small)

/-- The point of time of a text. -/
def time (text : String) : Result Tree :=
  (Stamp.read? text.toList).elim (.error .notTime) Stamp.value

/-- The octets of a text. -/
def binary (text : String) : Result Bytes :=
  (Binary.ofText? text).elim (malformed .badBinary) .ok

end Scalar

end Yaml
end LineTerminal
