import LineTerminal.Binary64
import LineTerminal.Document.Date
import LineTerminal.Numeral
import LineTerminal.Text

/-!
# Document trees

The values that a configuration document is made of, and their texts.  A text on its own is written
as it is, inside a collection it is quoted.  Whole numbers with too many digits have no text.
-/

namespace LineTerminal

/-- The kinds of collections that can be part of themselves. -/
inductive Tree.Shape where
  | list
  | map
  | pair
deriving DecidableEq

/-- How a collection is shown at the place where it occurs within itself. -/
def Tree.Shape.described : Tree.Shape → String
  | list => "[...]"
  | map => "\x7b...\x7d"
  | pair => "(...)"

/-- A value of a document. -/
inductive Tree where
  | null
  | bool (b : Bool)
  | int (n : Int)
  | float (x : Float)
  | text (ps : List Text.Point)
  | bytes (b : Bytes)
  | date (d : Date)
  | moment (m : Moment)
  | list (items : List Tree)
  | map (entries : List (Tree × Tree))
  | set (items : List Tree)
  | pair (first second : Tree)
  /-- A collection that is part of itself, at the place where it occurs again. -/
  | again (shape : Tree.Shape)

/-- The decimal text of a number that does not have too many digits. -/
def Numeral.limited? (n : Int) : Option String :=
  if (Numeral.digits n.natAbs).length ≤ Numeral.maxDigits then some (Numeral.decimal n) else none

/-- The quoted text of octets, where those beyond ASCII are escaped. -/
def Bytes.quoted (b : Bytes) : String :=
  let cs := b.map fun octet => Char.ofNat octet.toNat
  let quote := Text.quoteFor cs
  let escape (c : Char) : List Char :=
    if c.toNat < 0x80 then Text.escape quote c
    else Text.backslash :: 'x' :: Text.hexPadded 2 c.toNat
  String.ofList ('b' :: quote :: cs.flatMap escape ++ [quote])

namespace Tree

/-- A text as a value. -/
def ofString (s : String) : Tree := text (Text.points s)

mutual

/-- The text of a value inside a collection. -/
def described? : Tree → Option String
  | null => some "None"
  | bool true => some "True"
  | bool false => some "False"
  | int n => Numeral.limited? n
  | float x => some (Binary64.text x)
  | text ps => some (Text.quotedPoints ps)
  | bytes b => some b.quoted
  | date d => some d.described
  | moment m => some m.described
  | list items => (describedItems? items).map (bracketed "[" "]")
  | map entries => (describedEntries? entries).map (bracketed "\x7b" "\x7d")
  | set [] => some "set()"
  | set items => (describedItems? items).map (bracketed "\x7b" "\x7d")
  | pair first second => do
    let a ← first.described?
    let b ← second.described?
    return bracketed "(" ")" [a, b]
  | again shape => some shape.described

/-- The texts of several values inside a collection. -/
def describedItems? : List Tree → Option (List String)
  | [] => some []
  | item :: rest => do
    let first ← item.described?
    let others ← describedItems? rest
    return first :: others

/-- The texts of several entries of a mapping. -/
def describedEntries? : List (Tree × Tree) → Option (List String)
  | [] => some []
  | (key, value) :: rest => do
    let k ← key.described?
    let v ← value.described?
    let others ← describedEntries? rest
    return (k ++ ": " ++ v) :: others

end

mutual

/-- The number of values within each other. -/
def depth : Tree → Nat
  | list items | set items => depthOfItems items + 1
  | map entries => depthOfEntries entries + 1
  | pair first second => max first.depth second.depth + 1
  | _ => 1

/-- The depth of the deepest of several values. -/
def depthOfItems : List Tree → Nat
  | [] => 0
  | item :: rest => max item.depth (depthOfItems rest)

/-- The depth of the deepest value in several entries. -/
def depthOfEntries : List (Tree × Tree) → Nat
  | [] => 0
  | (key, value) :: rest => max (max key.depth value.depth) (depthOfEntries rest)

end

/-- The greatest depth of a value that can be written out. -/
def maxDepth : Nat := 990

/-- The text of a value on its own. -/
def text? : Tree → Option (List Text.Point)
  | text ps => some ps
  | date d => some (Text.points d.text)
  | moment m => some (Text.points m.text)
  | t => t.described?.map Text.points

/-- What stands under a key of a mapping. -/
def get? {α : Type} (entries : List (Tree × α)) (key : String) : Option α :=
  (entries.find? fun entry => match entry.1 with
    | text ps => ps = Text.points key
    | _ => false).map (·.2)

/-- A truth value as a number, and a floating-point number as a whole one if it is one. -/
def simplified : Tree → Tree
  | bool b => int (if b then 1 else 0)
  | float x =>
    match Binary64.truncate? x with
    | some n => if (Binary64.ofInt? n).any (· == x) then int n else float x
    | none => float x
  | t => t

/--
Whether two values are equal as keys of a mapping.  Collections are no keys, and what is not a
number is not even equal to itself.
-/
def sameKey (s t : Tree) : Bool :=
  match s.simplified, t.simplified with
  | null, null => true
  | int m, int n => m = n
  | float x, float y => x == y
  | text a, text b => a = b
  | bytes a, bytes b => a = b
  | date a, date b => a = b
  | moment a, moment b => a.same b
  | _, _ => false

/-- Adds an entry.  An equal key keeps its place and gets the new value. -/
def insert (key value : Tree) : List (Tree × Tree) → List (Tree × Tree)
  | [] => [(key, value)]
  | (k, v) :: rest =>
    if k.sameKey key then (k, value) :: rest else (k, v) :: insert key value rest

/-- Entries without two equal keys.  A key has the last value that is given for it. -/
def distinct (entries : List (Tree × Tree)) : List (Tree × Tree) :=
  entries.foldl (fun done (key, value) => insert key value done) []

end Tree
end LineTerminal
