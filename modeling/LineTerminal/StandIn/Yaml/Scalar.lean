import LineTerminal.Numeral
import LineTerminal.StandIn.Yaml.Text
import LineTerminal.Text

/-!
# A stand-in for the loader of documents: scalars

How the texts in a document are written: without quotes, in quotes, or in lines of their own.
-/

namespace LineTerminal
namespace Yaml

/-! ### Folding

Within a scalar that goes over several lines, a single line break stands for a space, and of several
line breaks the first one is dropped.
-/

/-- What lies between the end of a line and the next text. -/
structure LineGap where
  /-- The line breaks of the empty lines. -/
  breaks : List Char
  /-- The number of blanks before the next text in its line. -/
  column : Nat
  /-- Whether the gap ends at a marker between documents. -/
  marker : Bool
  /-- The text from there on. -/
  rest : List Char

/-- Skips empty lines and the blanks before the next text, beginning after so many blanks. -/
def LineGap.read (isGap : Char → Bool) (column : Nat) : List Char → LineGap
  | [] => ⟨[], column, false, []⟩
  | c :: rest =>
    if column = 0 && atMarker (c :: rest) then ⟨[], column, true, c :: rest⟩
    else if isGap c then LineGap.read isGap (column + 1) rest
    else if isBreak c then
      let gap := LineGap.read isGap 0 rest
      { gap with breaks := breakText c :: gap.breaks }
    else ⟨[], column, false, c :: rest⟩

/-- What a line break and the breaks of the empty lines after it stand for. -/
def folded (first : Char) (breaks : List Char) : List Char :=
  if breakText first ≠ '\n' then breakText first :: breaks
  else if breaks.isEmpty then [' ']
  else breaks

/-! ### Plain scalars

A plain scalar has no quotes.  It consists of words, with spaces or folded lines between them, and
ends before a colon or a comment that stands apart, and at a line that is not indented enough.
Within a flow collection it also ends before the characters that give the collection its shape.
-/

/-- A plain scalar at the beginning of a text. -/
structure Plain where
  /-- What the scalar stands for. -/
  text : List Char
  /-- Whether a line ends after the scalar. -/
  endsLine : Bool
  /-- The text after the scalar, and after the blanks and empty lines that follow it. -/
  rest : List Char

namespace Plain

/-- Whether a plain scalar can begin with a text. -/
def canStart (inFlow : Bool) : List Char → Bool
  | [] => false
  | c :: rest =>
    !(isBlank c || isBreak c || indicators.contains c)
      || (!endsWord rest && (c = '-' || (!inFlow && (c = '?' || c = ':'))))

/-- Whether a word ends before a character. -/
def endsBefore (inFlow : Bool) (c : Char) (rest : List Char) : Bool :=
  isBlank c || isBreak c
    || (c = ':' && (endsWord rest || (inFlow && rest.head?.any flowIndicators.contains)))
    || (inFlow && (c = '?' || flowIndicators.contains c))

/-- The first word of a text, and the text after it. -/
def word (inFlow : Bool) : List Char → List Char × List Char
  | [] => ([], [])
  | c :: rest =>
    if endsBefore inFlow c rest then ([], c :: rest)
    else
      let (w, after) := word inFlow rest
      (c :: w, after)

/-- What lies between two words. -/
structure Gap where
  /-- What the gap stands for; nothing if the scalar ends here. -/
  text : List Char
  /-- The indentation of the next word, if it stands in another line. -/
  column : Option Nat
  /-- The text after the gap. -/
  rest : List Char

/-- The gap at the beginning of a text. -/
def Gap.read (cs : List Char) : Gap :=
  let after := cs.dropWhile (· = ' ')
  match after with
  | c :: rest =>
    if isBreak c then
      let gap := LineGap.read (· = ' ') 0 rest
      { text := if gap.marker then [] else folded c gap.breaks
        column := some gap.column
        rest := gap.rest }
    else ⟨cs.takeWhile (· = ' '), none, after⟩
  | [] => ⟨cs, none, []⟩

/-- Whether the scalar goes on after a gap with a word that is indented enough. -/
def Gap.isInner (inFlow : Bool) (indent : Nat) (gap : Gap) : Bool :=
  !gap.text.isEmpty && gap.rest.head? ≠ some '#'
    && (inFlow || gap.column.all (indent ≤ ·))
    && !(word inFlow gap.rest).1.isEmpty

/-- The words of a scalar, of which there are at most so many. -/
def words (inFlow : Bool) (indent : Nat) : Nat → List Char → Plain
  | 0, cs => ⟨[], false, cs⟩
  | bound + 1, cs =>
    let (w, after) := word inFlow cs
    let gap := Gap.read after
    if gap.isInner inFlow indent then
      let others := words inFlow indent bound gap.rest
      { others with text := w ++ gap.text ++ others.text }
    else ⟨w, gap.column.isSome, gap.rest⟩

/-- The plain scalar at the beginning of a text, whose lines are indented by at least so much. -/
def read (inFlow : Bool) (indent : Nat) (cs : List Char) : Plain :=
  words inFlow indent (cs.length + 1) cs

end Plain

/-! ### Quoted scalars

Between single quotes, a quote is written twice and all else stands for itself.  Between double
quotes, a backslash begins an escape, which may stand for half a surrogate pair.  In both, lines are
folded, and no line may look like a marker between documents.
-/

namespace Quoted

/-- A part of a scalar and the text after it. -/
abbrev Read := Result (List Text.Point × List Char)

/-- The empty lines after a line break, which must not end at a marker. -/
def lineGap (cs : List Char) : Result (List Char × List Char) :=
  let gap := LineGap.read isBlank 0 cs
  if gap.marker then malformed .openQuote else return (gap.breaks, gap.rest)

/-- What blanks and line breaks at the beginning of a text stand for. -/
def space (cs : List Char) : Read :=
  match cs.dropWhile isBlank with
  | [] => malformed .openQuote
  | c :: rest =>
    if isBreak c then do
      let (breaks, after) ← lineGap rest
      return ((folded c breaks).map .char, after)
    else return ((cs.takeWhile isBlank).map .char, c :: rest)

/-- The characters that one character after a backslash stands for. -/
def shortEscapes : List (Char × Char) :=
  [('0', '\x00'), ('a', '\x07'), ('b', '\x08'), ('t', '\t'), ('\t', '\t'), ('n', '\n'),
    ('v', '\x0b'), ('f', '\x0c'), ('r', '\r'), ('e', '\x1b'), (' ', ' '), ('"', '"'),
    ('\\', '\\'), ('/', '/'), ('N', '\x85'), ('_', '\xa0'), ('L', '\u2028'), ('P', '\u2029')]

/-- The number of hexadecimal digits after the character that begins a long escape. -/
def longEscapes : List (Char × Nat) := [('x', 2), ('u', 4), ('U', 8)]

/-- The code point with a number. -/
def point (code : Nat) : Result Text.Point :=
  (Text.Point.ofCode? code).elim (.error (.noSuchCharacter code)) .ok

/-- The code point that so many hexadecimal digits stand for, and the text after them. -/
def longEscape (width : Nat) (cs : List Char) : Read :=
  let digits := cs.take width
  match digits.mapM Numeral.hexValue? with
  | some values =>
    if digits.length = width then do
      let p ← point (Numeral.ofDigits 16 values)
      return ([p], cs.drop width)
    else malformed .badEscape
  | none => malformed .badEscape

/-- What an escape stands for.  The text begins after the backslash. -/
def escape : List Char → Read
  | [] => malformed .badEscape
  | c :: rest =>
    match shortEscapes.lookup c with
    | some x => return ([.char x], rest)
    | none =>
      match longEscapes.lookup c with
      | some width => longEscape width rest
      | none =>
        if isBreak c then do
          let (breaks, after) ← lineGap rest
          return (breaks.map .char, after)
        else malformed .badEscape

/-- What the first part of a text stands for, or `none` at the closing quote; and the text after. -/
def part (double : Bool) : List Char → Result (Option (List Text.Point) × List Char)
  | [] => malformed .openQuote
  | c :: rest => do
    if isBlank c || isBreak c then
      let (text, after) ← space (c :: rest)
      return (some text, after)
    else if double && c = '\\' then
      let (text, after) ← escape rest
      return (some text, after)
    else if !double && c = '\'' && rest.head? = some '\'' then return (some [.char c], rest.tail)
    else if c = (if double then '"' else '\'') then return (none, rest)
    else return (some [.char c], rest)

/-- The rest of a scalar after its opening quote, which has at most so many parts. -/
def parts (double : Bool) : Nat → List Char → Read
  | 0, _ => malformed .openQuote
  | bound + 1, cs => do
    match ← part double cs with
    | (none, rest) => return ([], rest)
    | (some text, rest) =>
      let (others, after) ← parts double bound rest
      return (text ++ others, after)

/-- The scalar at the beginning of a text, after its opening quote. -/
def read (double : Bool) (cs : List Char) : Read :=
  parts double (cs.length + 1) cs

end Quoted

/-! ### Block scalars

A block scalar is written in lines of their own that are indented alike.  Its header tells whether
lines are folded, what is done with the line breaks at the end, and how deep the lines are indented;
otherwise the first line tells it.
-/

namespace Block

/-- What is done with the line breaks at the end of a scalar. -/
inductive Chomping where
  /-- All are dropped. -/
  | strip
  /-- The first one is kept. -/
  | clip
  /-- All are kept. -/
  | keep
deriving DecidableEq

/-- What a header tells. -/
structure Header where
  /-- What is done with the line breaks at the end. -/
  chomping : Chomping := .clip
  /-- How much deeper than the collection around it the scalar is indented. -/
  increment : Option Nat := none

/-- The chomping that a header begins with, and the text after it. -/
def chomping? : List Char → Option (Chomping × List Char)
  | '+' :: rest => some (.keep, rest)
  | '-' :: rest => some (.strip, rest)
  | _ => none

/-- The increment that a header begins with, and the text after it.  It must not be zero. -/
def increment? : List Char → Result (Option (Nat × List Char))
  | [] => return none
  | c :: rest =>
    match Numeral.digitValue? c with
    | none => return none
    | some 0 => malformed .badHeader
    | some n => return some (n, rest)

/-- The two indicators of a header, in either order, and the text after them. -/
def indicators (cs : List Char) : Result (Header × List Char) := do
  match chomping? cs with
  | some (chomping, rest) =>
    match ← increment? rest with
    | some (n, after) => return ({ chomping, increment := some n }, after)
    | none => return ({ chomping }, rest)
  | none =>
    match ← increment? cs with
    | some (n, rest) =>
      match chomping? rest with
      | some (chomping, after) => return ({ chomping, increment := some n }, after)
      | none => return ({ increment := some n }, rest)
    | none => return ({}, cs)

/-- The text after the rest of a line, which may hold a comment only. -/
def afterComment? (cs : List Char) : Option (List Char) :=
  let trimmed := cs.dropWhile (· = ' ')
  let rest := if trimmed.head? = some '#' then trimmed.dropWhile (!isBreak ·) else trimmed
  if endsLine rest then some rest.tail else none

/-- The header at the beginning of a text, and the lines after it. -/
def header (cs : List Char) : Result (Header × List Char) := do
  let (h, rest) ← indicators cs
  if !endsField rest then malformed .badHeader
  match afterComment? rest with
  | some lines => return (h, lines)
  | none => malformed .badHeader

/-- A place before a line of text. -/
structure LineStart where
  /-- The line breaks of the empty lines before. -/
  breaks : List Char
  /-- The indentation of the line, as far as it is skipped. -/
  column : Nat
  /-- The text after the indentation. -/
  rest : List Char

/-- Skips empty lines and at most `indent` spaces of each line, after `column` spaces. -/
def LineStart.read (indent column : Nat) : List Char → LineStart
  | [] => ⟨[], column, []⟩
  | c :: rest =>
    if c = ' ' && column < indent then LineStart.read indent (column + 1) rest
    else if isBreak c then
      let start := LineStart.read indent 0 rest
      { start with breaks := breakText c :: start.breaks }
    else ⟨[], column, c :: rest⟩

/-- Skips empty lines and all spaces, and finds the deepest indentation on the way. -/
def LineStart.readFirst (column deepest : Nat) : List Char → LineStart × Nat
  | [] => (⟨[], column, []⟩, deepest)
  | c :: rest =>
    if c = ' ' then LineStart.readFirst (column + 1) (max deepest (column + 1)) rest
    else if isBreak c then
      let (start, found) := LineStart.readFirst 0 deepest rest
      ({ start with breaks := breakText c :: start.breaks }, found)
    else (⟨[], column, c :: rest⟩, deepest)

/-- Whether a line of the scalar begins here. -/
def LineStart.isInner (start : LineStart) (indent : Nat) : Bool :=
  start.column = indent && !start.rest.isEmpty

/-- What is kept of the line breaks at the end. -/
def Chomping.tail (c : Chomping) (lineBreak breaks : List Char) : List Char :=
  match c with
  | strip => []
  | clip => lineBreak
  | keep => lineBreak ++ breaks

/-- The line break between two lines.  Lines that begin with a blank are not folded. -/
def joint (isFolded : Bool) (line lineBreak : List Char) (next : LineStart) : List Char :=
  if isFolded && lineBreak = ['\n'] && !line.head?.any isBlank && !next.rest.head?.any isBlank then
    if next.breaks.isEmpty then [' '] else []
  else lineBreak

/-- The lines of a scalar, of which there are at most so many, and the text after them. -/
def lines (isFolded : Bool) (chomping : Chomping) (indent : Nat) :
    Nat → List Char → List Char × List Char
  | 0, cs => ([], cs)
  | bound + 1, cs =>
    let line := cs.takeWhile (!isBreak ·)
    let after := cs.dropWhile (!isBreak ·)
    let lineBreak := (after.take 1).map breakText
    let next := LineStart.read indent 0 after.tail
    if next.isInner indent then
      let (text, rest) := lines isFolded chomping indent bound next.rest
      (line ++ joint isFolded line lineBreak next ++ next.breaks ++ text, rest)
    else (line ++ chomping.tail lineBreak next.breaks, next.rest)

/--
The scalar at the beginning of a text, after the indicator that opens it, and the text after it.
The lines are indented by at least `least`.
-/
def read (isFolded : Bool) (least : Nat) (cs : List Char) : Result (List Char × List Char) := do
  let (h, rest) ← header cs
  let least := max 1 least
  let (start, indent) := match h.increment with
    | some n =>
      let indent := least + n - 1
      (LineStart.read indent 0 rest, indent)
    | none =>
      let (start, deepest) := LineStart.readFirst 0 0 rest
      (start, max least deepest)
  if start.isInner indent then
    let (text, after) := lines isFolded h.chomping indent (rest.length + 1) start.rest
    return (start.breaks ++ text, after)
  else return (h.chomping.tail [] start.breaks, start.rest)

end Block
end Yaml
end LineTerminal
