import LineTerminal.Document.Date

/-!
# A stand-in for the loader of documents: the text

Documents are loaded from texts in YAML.  The loader is to run what is made of documents, on any text
that is given: no module outside of it depends on how it works.  This part of it is about the
characters of a text, and about what can be wrong with it.
-/

namespace LineTerminal
namespace Yaml

/-! ### The characters of YAML

Which characters a document may hold, and the classes of characters that its grammar tells apart.
Texts are lists of characters here.
-/

/-- The mark that may open a document to tell the byte order. -/
def byteOrderMark : Char := '\ufeff'

/-- Whether a document may hold a character. -/
def isAllowed (c : Char) : Bool :=
  let n := c.toNat
  n = 0x09 || n = 0x0A || n = 0x0D || n = 0x85
    || (0x20 ≤ n && n ≤ 0x7E) || (0xA0 ≤ n && n ≤ 0xFFFD) || 0x10000 ≤ n

/-- Whether a character breaks a line. -/
def isBreak (c : Char) : Bool :=
  c = '\n' || c = '\x85' || c = '\u2028' || c = '\u2029'

/-- What a line break stands for in a scalar: the separators of lines and paragraphs are kept. -/
def breakText (c : Char) : Char :=
  if c = '\x85' then '\n' else c

/-- Whether a character is a space or a tab. -/
def isBlank (c : Char) : Bool :=
  c = ' ' || c = '\t'

/-- A text without a line feed at its end. -/
def dropLineEnd (cs : List Char) : List Char :=
  if cs.getLast? = some '\n' then cs.dropLast else cs

/-- Whether a text ends or goes on with a line break. -/
def endsLine : List Char → Bool
  | [] => true
  | c :: _ => isBreak c

/-- Whether a text ends or goes on with a space or a line break. -/
def endsField : List Char → Bool
  | [] => true
  | c :: _ => c = ' ' || isBreak c

/-- Whether a text ends or goes on with a space, a tab or a line break. -/
def endsWord : List Char → Bool
  | [] => true
  | c :: _ => isBlank c || isBreak c

/-- Whether a line begins with a marker between documents, `---` or `...`. -/
def atMarker : List Char → Bool
  | '-' :: '-' :: '-' :: rest => endsWord rest
  | '.' :: '.' :: '.' :: rest => endsWord rest
  | _ => false

/-- Whether a character can be part of a name. -/
def isNameChar (c : Char) : Bool :=
  c.isAlphanum || c = '-' || c = '_'

/-- Whether a character can be part of the name of a tag. -/
def isTagChar (c : Char) : Bool :=
  c.isAlphanum || "-;/?:@&=+$,_.!~*'()[]%".contains c

/-- The characters that give a flow collection its shape. -/
def flowIndicators : List Char := [',', '[', ']', '\x7b', '\x7d']

/-- The characters that no plain scalar begins with. -/
def indicators : List Char :=
  flowIndicators ++
    ['-', '?', ':', '#', '&', '*', '!', '|', '>', '\'', '"', '%', '@', '\x60']

/-! ### What can be wrong with a document -/

/-- Why a text is not a document. -/
inductive Error where
  /-- The text holds a character that a document must not hold. -/
  | badCharacter (c : Char)
  /-- No token begins with the text at this place. -/
  | noToken
  /-- A sequence entry stands in the middle of a line. -/
  | misplacedEntry
  /-- A key stands in the middle of a line. -/
  | misplacedKey
  /-- A value stands in the middle of a line. -/
  | misplacedValue
  /-- A line that has to be a key has no colon. -/
  | keyWithoutValue
  /-- The end of a quoted scalar is missing. -/
  | openQuote
  /-- An escape is unknown or incomplete. -/
  | badEscape
  /-- The header of a block scalar is malformed. -/
  | badHeader
  /-- The name of an anchor or an alias is malformed. -/
  | badAnchor
  /-- A tag is malformed. -/
  | badTag
  /-- A directive is malformed. -/
  | badDirective
  /-- The document is written for another version of the language. -/
  | otherVersion
  /-- A directive occurs twice. -/
  | repeatedDirective
  /-- A token stands where another one is needed. -/
  | unexpected
  /-- A tag has an unknown handle. -/
  | unknownHandle (handle : String)
  /-- An alias has no anchor before it. -/
  | unknownAnchor (name : String)
  /-- An anchor occurs twice. -/
  | repeatedAnchor (name : String)
  /-- There is more than one document. -/
  | manyDocuments
  /-- A value has a tag of an unknown type. -/
  | unknownType (tag : String)
  /-- A value is not of the kind that its tag demands. -/
  | wrongKind
  /-- A collection is used as a key. -/
  | collectionAsKey
  /-- Something else than mappings is merged into a mapping. -/
  | badMerge
  /-- A binary value is malformed. -/
  | badBinary
deriving DecidableEq

/-- Why there is no value of a document. -/
inductive Failure where
  /-- The text is not a document. -/
  | malformed (e : Error)
  /-- An escape stands for a code point beyond the last one. -/
  | noSuchCharacter (code : Nat)
  /-- A text that has to be a number is none, or has too many digits. -/
  | notNumber
  /-- A text that has to be a number has no characters but signs and underscores. -/
  | emptyNumber
  /-- A number in base sixty has too many places. -/
  | tooManyPlaces
  /-- A text that has to be a truth value is none.  It is told in small letters. -/
  | notTruth (text : String)
  /-- A text that has to be a point of time is none. -/
  | notTime
  /-- A point of time is written as a mapping. -/
  | timeInMapping
  /-- A point of time is not in the calendar. -/
  | notInCalendar (e : CalendarError)
  /-- The collections are nested too deep. -/
  | tooDeep
deriving DecidableEq

/-- The text of a failure, where it has one. -/
def Failure.message? : Failure → Option String
  | noSuchCharacter code =>
    if code < 0x80000000 then some "chr() arg not in range(0x110000)" else none
  | notTruth text => some text
  | notInCalendar e => some e.message
  | _ => none

/-- A result, unless something is wrong. -/
abbrev Result := Except Failure

/-- The text is not a document. -/
def malformed {α : Type} (e : Error) : Result α := .error (.malformed e)

/-! ### Places in a document

A cursor is a place in the text of a document.  Lines and columns decide about the structure, so a
cursor keeps count of them.
-/

/-- The ends of lines become one line feed each. -/
def unifyLineEnds : List Char → List Char
  | [] => []
  | '\r' :: '\n' :: rest => '\n' :: unifyLineEnds rest
  | '\r' :: rest => '\n' :: unifyLineEnds rest
  | c :: rest => c :: unifyLineEnds rest

/-- A place in a text. -/
structure Cursor where
  /-- The text from here on. -/
  rest : List Char
  /-- The number of characters before. -/
  index : Nat := 0
  /-- The number of line breaks before. -/
  line : Nat := 0
  /-- The number of characters before in the same line, without byte order marks. -/
  column : Nat := 0

namespace Cursor

/-- The place after a character. -/
def next (c : Cursor) : Cursor :=
  match c.rest with
  | [] => c
  | x :: rest =>
    if isBreak x then { rest, index := c.index + 1, line := c.line + 1 }
    else if x = byteOrderMark then { c with rest, index := c.index + 1 }
    else { c with rest, index := c.index + 1, column := c.column + 1 }

/-- The place after so many characters. -/
def advance : Nat → Cursor → Cursor
  | 0, c => c
  | n + 1, c => advance n c.next

/-- The place where a text begins that the text from here on ends with. -/
def upTo (c : Cursor) (rest : List Char) : Cursor :=
  c.advance (c.rest.length - rest.length)

/-- The start of a text, which has to hold allowed characters only. -/
def ofText (text : String) : Result Cursor :=
  let cs := unifyLineEnds text.toList
  match cs.find? fun c => !isAllowed c with
  | some c => malformed (.badCharacter c)
  | none =>
    let start : Cursor := { rest := cs }
    return if cs.head? = some byteOrderMark then start.next else start

end Cursor

end Yaml
end LineTerminal
