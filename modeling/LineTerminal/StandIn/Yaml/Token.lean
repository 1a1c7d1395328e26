import LineTerminal.Numeral
import LineTerminal.StandIn.Yaml.Scalar
import LineTerminal.StandIn.Yaml.Text
import LineTerminal.Text

/-!
# A stand-in for the loader of documents: tokens

How the text of a document is cut into tokens.
-/

namespace LineTerminal
namespace Yaml

/-! ### Tokens

The tokens of a document.  The shape of block collections is told by their indentation; the tokens
that open and close them have no text.
-/

/-- A line that tells how the document after it is to be read. -/
inductive Directive where
  /-- The version of the language. -/
  | version (major minor : Nat)
  /-- A handle stands for the beginning of tags. -/
  | handle (name start : String)
  /-- Anything else has no meaning. -/
  | other
deriving DecidableEq

/-- A tag as it is written. -/
structure TagText where
  /-- The handle, unless the tag is written in full. -/
  handle : Option String
  /-- The text after the handle. -/
  suffix : String
deriving DecidableEq

/-- A token. -/
inductive Token where
  /-- A directive. -/
  | directive (d : Directive)
  /-- The marker at the beginning of a document. -/
  | documentStart
  /-- The marker at the end of a document. -/
  | documentEnd
  /-- A block sequence begins. -/
  | blockSequence
  /-- A block mapping begins. -/
  | blockMapping
  /-- A block collection ends. -/
  | blockEnd
  /-- A flow sequence begins. -/
  | flowSequence
  /-- A flow sequence ends. -/
  | flowSequenceEnd
  /-- A flow mapping begins. -/
  | flowMapping
  /-- A flow mapping ends. -/
  | flowMappingEnd
  /-- An entry of a block sequence. -/
  | entry
  /-- The comma between the entries of a flow collection. -/
  | separator
  /-- A key of a mapping. -/
  | key
  /-- A value of a mapping. -/
  | value
  /-- A value that was anchored before. -/
  | alias (name : String)
  /-- The name of the value after it. -/
  | anchor (name : String)
  /-- The tag of the value after it. -/
  | tag (t : TagText)
  /-- A scalar; a plain one has no quotes and stands in a line. -/
  | scalar (text : List Text.Point) (plain : Bool)
deriving DecidableEq

/-- The tokens of a text, up to the first place where something is wrong. -/
structure TokenStream where
  /-- The tokens in order. -/
  tokens : List Token
  /-- What is wrong with the text after the tokens. -/
  failure : Option Failure := none

/-! ### Anchors, tags and directives

The small grammars of the marks that stand before values and documents.  Each function reads a mark
at the beginning of a text and answers with the text after it.
-/

namespace Mark

/-- The name of an anchor or an alias. -/
def anchor (cs : List Char) : Result (String × List Char) :=
  let name := cs.takeWhile isNameChar
  let rest := cs.dropWhile isNameChar
  let ends := endsWord rest || rest.head?.any ("?:,]\x7d%@\x60".contains ·)
  if !name.isEmpty && ends then return (String.ofList name, rest)
  else malformed .badAnchor

/-- The octets of the escapes at the beginning of a text. -/
def octets : List Char → Result (List UInt8 × List Char)
  | '%' :: a :: b :: rest =>
    match Numeral.hexValue? a, Numeral.hexValue? b with
    | some high, some low => do
      let (others, after) ← octets rest
      return (UInt8.ofNat (high * 16 + low) :: others, after)
    | _, _ => malformed .badTag
  | '%' :: _ => malformed .badTag
  | cs => return ([], cs)

/-- The characters of a tag, with escapes for octets, in at most so many parts. -/
def tagChars : Nat → List Char → Result (List Char × List Char)
  | 0, cs => return ([], cs)
  | bound + 1, cs => do
    match cs with
    | [] => return ([], cs)
    | c :: rest =>
      if c = '%' then
        let (os, after) ← octets cs
        match String.fromUTF8? ⟨os.toArray⟩ with
        | none => malformed .badTag
        | some text =>
          let (others, tail) ← tagChars bound after
          return (text.toList ++ others, tail)
      else if isTagChar c then
        let (others, after) ← tagChars bound rest
        return (c :: others, after)
      else return ([], cs)

/-- The beginning or the end of a tag, which must not be empty. -/
def tagPart (cs : List Char) : Result (String × List Char) := do
  let (text, rest) ← tagChars (cs.length + 1) cs
  if rest.length = cs.length then malformed .badTag
  else return (String.ofList text, rest)

/-- The handle of a tag: an exclamation mark, or a name between two of them. -/
def handle : List Char → Result (String × List Char)
  | '!' :: rest =>
    let name := rest.takeWhile isNameChar
    match rest.dropWhile isNameChar with
    | '!' :: after => return (String.ofList ('!' :: name ++ ['!']), after)
    | after =>
      if rest.head? = some ' ' then return ("!", after) else malformed .badTag
  | _ => malformed .badTag

/-- A tag.  The text begins after its exclamation mark. -/
def tag (cs : List Char) : Result (TagText × List Char) := do
  let (t, rest) ← written cs
  if endsField rest then return (t, rest) else malformed .badTag
where
  /-- The tag without a look at what follows. -/
  written (cs : List Char) : Result (TagText × List Char) := do
    if cs.head? = some '<' then
      let (suffix, rest) ← tagPart cs.tail
      match rest with
      | '>' :: after => return (⟨none, suffix⟩, after)
      | _ => malformed .badTag
    else if endsWord cs then return (⟨none, "!"⟩, cs)
    else if (cs.takeWhile fun c => !endsField [c]).contains '!' then
      let (name, rest) ← handle ('!' :: cs)
      let (suffix, after) ← tagPart rest
      return (⟨some name, suffix⟩, after)
    else
      let (suffix, after) ← tagPart cs
      return (⟨some "!", suffix⟩, after)

/-- The text after some spaces. -/
def afterSpaces (cs : List Char) : List Char := cs.dropWhile (· = ' ')

/-- A number of a version. -/
def versionNumber (cs : List Char) : Result (Nat × List Char) :=
  let digits := cs.takeWhile Char.isDigit
  if digits.isEmpty then malformed .badDirective
  else match Numeral.natural? digits with
    | some n => return (n, cs.dropWhile Char.isDigit)
    | none => .error .notNumber

/-- A version: two numbers with a point between them. -/
def version (cs : List Char) : Result (Directive × List Char) := do
  let (major, rest) ← versionNumber (afterSpaces cs)
  match rest with
  | '.' :: rest =>
    let (minor, after) ← versionNumber rest
    if endsField after then return (.version major minor, after) else malformed .badDirective
  | _ => malformed .badDirective

/-- The declaration of a handle. -/
def handleDeclaration (cs : List Char) : Result (Directive × List Char) := do
  let (name, rest) ← handle (afterSpaces cs)
  if rest.head? ≠ some ' ' then malformed .badDirective
  let (start, after) ← tagPart (afterSpaces rest)
  if endsField after then return (.handle name start, after) else malformed .badDirective

/-- A directive and the line break after it.  The text begins after its percent sign. -/
def directive (cs : List Char) : Result (Directive × List Char) := do
  let name := cs.takeWhile isNameChar
  let rest := cs.dropWhile isNameChar
  if name.isEmpty || !endsField rest then malformed .badDirective
  let (d, after) ← match String.ofList name with
    | "YAML" => version rest
    | "TAG" => handleDeclaration rest
    | _ => pure (.other, rest.dropWhile (!isBreak ·))
  let trimmed := afterSpaces after
  let after := if trimmed.head? = some '#' then trimmed.dropWhile (!isBreak ·) else trimmed
  if endsLine after then return (d, after.tail) else malformed .badDirective

end Mark

/-! ### Reading tokens

A key is only known to be one when its colon is found.  Wherever a key can begin, the lexer
therefore leaves a slot among the tokens, which stays empty unless the colon follows in the same
line and not too far away.  Where something is wrong with the text, the tokens before it are kept:
it only matters if somebody asks for the next one.
-/

/-- A place where a key may have begun. -/
structure KeyPlace where
  /-- The number of its slot. -/
  slot : Nat
  /-- Whether the line makes no sense unless a key begins here. -/
  isRequired : Bool
  /-- The place in the text. -/
  cursor : Cursor

/-- The greatest number of characters between the beginning of a key and its colon. -/
def maxKeyLength : Nat := 1024

/-- The state of the lexer. -/
structure Lexer where
  /-- The place in the text. -/
  cursor : Cursor
  /-- The tokens so far, in slots. -/
  slots : Array (List Token) := #[]
  /-- The columns of the open block collections, innermost first. -/
  columns : List Nat := []
  /-- Whether a key can begin here. -/
  allowsKey : Bool := true
  /-- Where a key may have begun in the innermost flow collection. -/
  place : Option KeyPlace := none
  /-- Where keys may have begun around the flow collections, innermost first. -/
  outer : List (Option KeyPlace) := []

namespace Lexer

/-- Whether the lexer is within a flow collection. -/
def inFlow (l : Lexer) : Bool := !l.outer.isEmpty

/-- The least indentation of a scalar in the innermost block collection. -/
def indent (l : Lexer) : Nat :=
  match l.columns with
  | [] => 0
  | column :: _ => column + 1

/-- Adds a token. -/
def push (l : Lexer) (t : Token) : Lexer :=
  { l with slots := l.slots.push [t] }

/-- Moves on to where a text begins. -/
def upTo (l : Lexer) (rest : List Char) : Lexer :=
  { l with cursor := l.cursor.upTo rest }

/-- Closes the block collections that satisfy a condition, from the innermost one on. -/
def closeWhile (p : Nat → Bool) (l : Lexer) : Lexer :=
  if l.inFlow then l
  else
    let closed := l.columns.takeWhile p
    { l with
      columns := l.columns.dropWhile p
      slots := l.slots ++ (closed.map fun _ => [Token.blockEnd]).toArray }

/-- Opens a block collection at a column if none is open there.  The answer tells which. -/
def openAt (column : Nat) (t : Token) (l : Lexer) : Lexer × List Token :=
  if l.indent ≤ column then ({ l with columns := column :: l.columns }, [t]) else (l, [])

/-- Opens a block collection here if none is open at this column. -/
def openHere (t : Token) (l : Lexer) : Lexer :=
  let (opened, ts) := l.openAt l.cursor.column t
  { opened with slots := opened.slots.push ts }

/-- Gives up a place where a key may have begun. -/
def abandon : Option KeyPlace → Result Unit
  | some place => if place.isRequired then malformed .keyWithoutValue else return
  | none => return

/-- Gives up the place in the innermost flow collection. -/
def dropPlace (l : Lexer) : Result Lexer := do
  abandon l.place
  return { l with place := none }

/-- Keeps a place unless it is in another line or too far away. -/
def refresh (c : Cursor) (place : Option KeyPlace) : Result (Option KeyPlace) := do
  match place with
  | none => return none
  | some p =>
    if p.cursor.line ≠ c.line || maxKeyLength < c.index - p.cursor.index then
      abandon place
      return none
    else return place

/-- Gives up all places that are in another line or too far away. -/
def dropStale (l : Lexer) : Result Lexer := do
  let place ← refresh l.cursor l.place
  let outer ← l.outer.mapM (refresh l.cursor)
  return { l with place, outer }

/-- Notes that a key may begin here, if one can. -/
def savePlace (l : Lexer) : Result Lexer := do
  if l.allowsKey then
    let l ← l.dropPlace
    let isRequired := !l.inFlow && l.columns.head? = some l.cursor.column
    return { l with
      place := some { slot := l.slots.size, isRequired, cursor := l.cursor }
      slots := l.slots.push [] }
  else return l

/-- Adds a character to a number of characters that may have a line break among them. -/
def counted (isLineBreak : Bool) (more : Nat × Bool) : Nat × Bool :=
  (more.1 + 1, isLineBreak || more.2)

/-- The number of characters before the next token, and whether a line break is among them. -/
def beforeToken (inComment : Bool) : List Char → Nat × Bool
  | [] => (0, false)
  | c :: rest =>
    if isBreak c then counted true (beforeToken false rest)
    else if inComment || c = '#' then counted false (beforeToken true rest)
    else if c = ' ' then counted false (beforeToken false rest)
    else (0, false)

/-- Moves on to the next token, where the block collections end that are indented more. -/
def toToken (l : Lexer) : Result Lexer := do
  let (skipped, broken) := beforeToken false l.cursor.rest
  let moved := { l with cursor := l.cursor.advance skipped }
  let fresh ← dropStale { moved with allowsKey := l.allowsKey || (broken && !l.inFlow) }
  return fresh.closeWhile (fresh.cursor.column < ·)

/-- Ends all block collections, as it is done between documents. -/
def toBoundary (l : Lexer) : Result Lexer := (l.closeWhile fun _ => true).dropPlace

/-- A token after which no key begins. -/
def item (t : Token) (rest : List Char) (l : Lexer) : Lexer :=
  { (l.push t).upTo rest with allowsKey := false }

/-- The beginning of a flow collection, which may begin a key. -/
def openFlow (t : Token) (rest : List Char) (l : Lexer) : Result Lexer := do
  let l ← l.savePlace
  return { (l.push t).upTo rest with allowsKey := true, place := none, outer := l.place :: l.outer }

/-- The end of a flow collection. -/
def closeFlow (t : Token) (rest : List Char) (l : Lexer) : Result Lexer := do
  let l ← l.dropPlace
  match l.outer with
  | [] => malformed .unexpected
  | place :: outer => return { (l.push t).upTo rest with allowsKey := false, place, outer }

/-- The comma between two entries of a flow collection. -/
def separator (rest : List Char) (l : Lexer) : Result Lexer := do
  let l ← l.dropPlace
  return { (l.push .separator).upTo rest with allowsKey := true }

/-- An entry of a block sequence. -/
def entry (rest : List Char) (l : Lexer) : Result Lexer := do
  if !l.inFlow && !l.allowsKey then malformed .misplacedEntry
  let opened := if l.inFlow then l else l.openHere .blockSequence
  let l ← opened.dropPlace
  return { (l.push .entry).upTo rest with allowsKey := true }

/-- A key that is marked as one. -/
def key (rest : List Char) (l : Lexer) : Result Lexer := do
  if !l.inFlow && !l.allowsKey then malformed .misplacedKey
  let opened := if l.inFlow then l else l.openHere .blockMapping
  let l ← opened.dropPlace
  return { (l.push .key).upTo rest with allowsKey := !l.inFlow }

/-- A value, which may make a key of what is before it. -/
def value (rest : List Char) (l : Lexer) : Result Lexer := do
  match l.place with
  | some place =>
    let (opened, ts) := if l.inFlow then (l, []) else l.openAt place.cursor.column .blockMapping
    let filled := { opened with
      slots := opened.slots.setIfInBounds place.slot (ts ++ [Token.key])
      place := none }
    return { (filled.push .value).upTo rest with allowsKey := false }
  | none =>
    if !l.inFlow && !l.allowsKey then malformed .misplacedValue
    let opened := if l.inFlow then l else l.openHere .blockMapping
    return { (opened.push .value).upTo rest with allowsKey := !l.inFlow }

/-- A block scalar, after which a key can begin. -/
def blockScalar (isFolded : Bool) (rest : List Char) (l : Lexer) : Result Lexer := do
  let l ← l.dropPlace
  let (text, after) ← Block.read isFolded l.indent rest
  return { l.item (.scalar (text.map .char) false) after with allowsKey := true }

/-- A plain scalar.  If its line ends, a key can begin after it. -/
def plainScalar (l : Lexer) : Result Lexer := do
  let plain := Plain.read l.inFlow l.indent l.cursor.rest
  let l ← l.savePlace
  let t := Token.scalar (plain.text.map .char) true
  return { l.item t plain.rest with allowsKey := plain.endsLine }

/-- A quoted scalar. -/
def quotedScalar (double : Bool) (rest : List Char) (l : Lexer) : Result Lexer := do
  let l ← l.savePlace
  let (text, after) ← Quoted.read double rest
  return l.item (.scalar text false) after

/-- A directive, before which all block collections end. -/
def directive (rest : List Char) (l : Lexer) : Result Lexer := do
  let l ← l.toBoundary
  let (d, after) ← Mark.directive rest
  return l.item (.directive d) after

/-- An anchor, an alias or a tag, which may begin a key. -/
def mark (first : Char) (rest : List Char) (l : Lexer) : Result Lexer := do
  let l ← l.savePlace
  if first = '!' then
    let (t, after) ← Mark.tag rest
    return l.item (.tag t) after
  else
    let (name, after) ← Mark.anchor rest
    return l.item (if first = '*' then .alias name else .anchor name) after

/-- Reads one token that begins with a character. -/
def step (first : Char) (rest : List Char) (l : Lexer) : Result Lexer := do
  let atLineStart := l.cursor.column = 0
  if first = '%' && atLineStart then l.directive rest
  else if atMarker (first :: rest) && atLineStart then
    let l ← l.toBoundary
    return l.item (if first = '-' then .documentStart else .documentEnd) (rest.drop 2)
  else if first = '[' then l.openFlow .flowSequence rest
  else if first = '\x7b' then l.openFlow .flowMapping rest
  else if first = ']' then l.closeFlow .flowSequenceEnd rest
  else if first = '\x7d' then l.closeFlow .flowMappingEnd rest
  else if first = ',' then l.separator rest
  else if first = '-' && endsWord rest then l.entry rest
  else if first = '?' && (l.inFlow || endsWord rest) then l.key rest
  else if first = ':' && (l.inFlow || endsWord rest) then l.value rest
  else if first = '*' || first = '&' || first = '!' then l.mark first rest
  else if first = '|' && !l.inFlow then l.blockScalar false rest
  else if first = '>' && !l.inFlow then l.blockScalar true rest
  else if first = '\'' || first = '"' then l.quotedScalar (first = '"') rest
  else if Plain.canStart l.inFlow (first :: rest) then l.plainScalar
  else malformed .noToken

/-- Reads on to the end of the next token.  The answer tells whether the text is at its end. -/
def advance (l : Lexer) : Result (Bool × Lexer) := do
  let l ← l.toToken
  match l.cursor.rest with
  | [] => return (true, ← l.toBoundary)
  | first :: rest => return (false, ← l.step first rest)

/-- The tokens so far. -/
def tokens (l : Lexer) : List Token := l.slots.toList.flatten

/-- The first slot in which a key may have begun. -/
def firstPlace? (l : Lexer) : Option Nat :=
  ((l.place :: l.outer).filterMap fun place => place.map (·.slot)).min?

/--
The tokens when something is wrong after them.  From the first place on where a key may have begun,
nothing is known.
-/
def stop (l : Lexer) (f : Failure) : TokenStream :=
  let known := (l.firstPlace?.elim l.slots.toList l.slots.toList.take).flatten
  { tokens := known, failure := some f }

/-- The tokens of the rest of the text, of which there are at most so many. -/
def run : Nat → Lexer → TokenStream
  | 0, l => l.stop (.malformed .noToken)
  | bound + 1, l =>
    match l.dropStale with
    | .error f => l.stop f
    | .ok fresh =>
      match fresh.advance with
      | .error f => fresh.stop f
      | .ok (true, last) => { tokens := last.tokens }
      | .ok (false, next) => run bound next

end Lexer

/-- The tokens of a text, which has to hold allowed characters only. -/
def TokenStream.ofText (text : String) : TokenStream :=
  match Cursor.ofText text with
  | .error f => { tokens := [], failure := some f }
  | .ok cursor => Lexer.run (cursor.rest.length + 1) { cursor }

end Yaml
end LineTerminal
