import LineTerminal.Document.Number
import LineTerminal.Settings.Options
import LineTerminal.Text

/-!
# A stand-in for the library of options

A library that keeps options, to run what is made of them: no other module depends on how it works.
A value that is set for an option is converted to the kind of the option at once; a blank text sets a
number to nothing.

The texts in an option may refer to other options by a dollar sign and a name, which may stand in
braces.  Two dollar signs stand for one, and so do a backslash and a dollar sign.  Any other dollar
sign stands for itself.
-/

namespace LineTerminal
namespace StandIn

/-! ### Texts with references -/

namespace Template

/-- A part of a text with references. -/
inductive Part where
  /-- A character that stands for itself. -/
  | char (c : Char)
  /-- The value with a name. -/
  | reference (name : String)
deriving DecidableEq

/-- Whether a name can begin with a character.  What differs from an ASCII letter by case is one. -/
def isNameStart (c : Char) : Bool :=
  c.isAlpha || c = '_' || ['\u0130', '\u0131', '\u017f', '\u212a'].contains c

/-- Whether a name can go on with a character. -/
def isNameChar (c : Char) : Bool := isNameStart c || c.isDigit || c = '.'

/-- The name at the beginning of a text, and the text after it. -/
def name? : List Char → Option (String × List Char)
  | [] => none
  | c :: rest =>
    if isNameStart c then
      some (String.ofList (c :: rest.takeWhile isNameChar), rest.dropWhile isNameChar)
    else none

/-- What is after a dollar sign: another one, a name, or a name in braces; and the text after it. -/
def afterSign? : List Char → Option (Part × List Char)
  | '$' :: rest => some (.char '$', rest)
  | '\x7b' :: rest =>
    match name? rest with
    | some (name, '\x7d' :: after) => some (.reference name, after)
    | _ => none
  | cs => (name? cs).map fun (name, after) => (.reference name, after)

/-- A text in which a backslash and a dollar sign have become two dollar signs. -/
def doubled : List Char → List Char
  | [] => []
  | '\\' :: '$' :: rest => '$' :: '$' :: doubled rest
  | c :: rest => c :: doubled rest

/-- The parts of a text, of which there are at most so many. -/
def partsWithin : Nat → List Char → List Part
  | 0, _ => []
  | _, [] => []
  | bound + 1, c :: rest =>
    match if c = '$' then afterSign? rest else none with
    | some (part, after) => part :: partsWithin bound after
    | none => .char c :: partsWithin bound rest

/-- The parts of a text. -/
def parts (text : String) : List Part :=
  partsWithin text.length (doubled text.toList)

/-- The text of a part, given the values with names. -/
def Part.expand? (value? : String → Option String) : Part → Option (List Char)
  | char c => some [c]
  | reference name => (value? name).map String.toList

/-- A text in which all references are replaced, unless a value is missing. -/
def expand? (value? : String → Option String) (text : String) : Option String :=
  ((parts text).mapM (Part.expand? value?)).map fun texts => String.ofList texts.flatten

mutual

/-- A value in which all references in texts are replaced, unless a value is missing. -/
def expandAll? (value? : String → Option String) : Tree → Option Tree
  | .text ps => (expand? value? (Text.shown ps)).map .ofString
  | .list items => (expandItems? value? items).map .list
  | .map entries => (expandEntries? value? entries).map fun done => .map (Tree.distinct done)
  | t => some t

/-- Several values in which all references are replaced. -/
def expandItems? (value? : String → Option String) : List Tree → Option (List Tree)
  | [] => some []
  | item :: rest => do
    let first ← expandAll? value? item
    let others ← expandItems? value? rest
    return first :: others

/-- Several entries in which all references are replaced, in the keys as well. -/
def expandEntries? (value? : String → Option String) :
    List (Tree × Tree) → Option (List (Tree × Tree))
  | [] => some []
  | (key, value) :: rest => do
    let k ← expandAll? value? key
    let v ← expandAll? value? value
    let others ← expandEntries? value? rest
    return (k, v) :: others

end

/-- Without dollar signs nothing is doubled. -/
theorem doubled_of_not_mem {cs : List Char} (absent : '$' ∉ cs) : doubled cs = cs := by
  fun_induction doubled cs with
  | case1 => rfl
  | case2 rest _ => simp at absent
  | case3 c rest _ ih => rw [ih fun member => absent (List.mem_cons_of_mem _ member)]

/-- Without dollar signs all parts are characters. -/
theorem partsWithin_of_not_mem {cs : List Char} (absent : '$' ∉ cs) :
    partsWithin cs.length cs = cs.map .char := by
  induction cs with
  | nil => rfl
  | cons c rest ih =>
      have other : c ≠ '$' := fun equal => absent (equal ▸ List.mem_cons_self)
      have tail : '$' ∉ rest := fun member => absent (List.mem_cons_of_mem _ member)
      simp [partsWithin, other, ih tail]

/-- Characters stand for themselves. -/
theorem mapM_expand?_char (value? : String → Option String) (cs : List Char) :
    (cs.map .char).mapM (Part.expand? value?) = some (cs.map ([·])) := by
  induction cs with
  | nil => rfl
  | cons c rest ih => simp [List.mapM_cons, Part.expand?, ih]

/-- A text without dollar signs stands for itself. -/
theorem expand?_of_not_mem (value? : String → Option String) {text : String}
    (absent : '$' ∉ text.toList) : expand? value? text = some text := by
  have length : text.length = text.toList.length := String.length_toList.symm
  rw [expand?, parts, doubled_of_not_mem absent, length, partsWithin_of_not_mem absent,
    mapM_expand?_char]
  have whole : (text.toList.map ([·])).flatten = text.toList := by
    induction text.toList with
    | nil => rfl
    | cons c rest ih => simp [ih]
  simp [whole]

/-- And so it does as a value. -/
theorem expandAll?_of_not_mem (value? : String → Option String) {text : String}
    (absent : '$' ∉ text.toList) :
    expandAll? value? (.ofString text) = some (.ofString text) := by
  rw [Tree.ofString, expandAll?, Text.shown_points, expand?_of_not_mem value? absent]
  rfl

end Template

/-! ### Values of options -/

/-- What can be wrong with a value that is set for an option, or with the name of an option. -/
inductive Error where
  /-- There is no such option. -/
  | unknown
  /-- A value cannot be converted. -/
  | number (e : Tree.NumberError)
  /-- A count is below the least one. -/
  | belowMinimum
  /-- A text is not among those that are allowed. -/
  | notAllowed (allowed : List String) (found : List Text.Point)
  /-- A value stands neither for one text nor for several. -/
  | notTexts
deriving DecidableEq

/-- The text of an error, where it has one. -/
def Error.message? : Error → Option String
  | notAllowed allowed found =>
    some ("Valid values are [" ++ ", ".intercalate allowed ++ "], but found "
      ++ Text.quotedPoints found)
  | unknown | number _ | belowMinimum | notTexts => none

/-- The value itself is to blame, which an option of its kind can hold. -/
def Error.IsValueError : Error → Prop
  | number e => e.IsValueError
  | belowMinimum | notAllowed .. => True
  | unknown | notTexts => False

/-- What an option holds. -/
inductive Kind where
  /-- What a declaration says. -/
  | declared (kind : OptionKind)
  /-- One of some texts. -/
  | oneOf (allowed : List String)
  /-- Several texts. -/
  | texts
  /-- A value of any kind. -/
  | anything
deriving DecidableEq

/-- A count, which must not be below the least one. -/
def checkCount (least n : Int) : Except Error Tree :=
  if n < least then throw .belowMinimum else return .int n

/-- A number that is set by a value of another kind, unless the value is a blank text. -/
def fromText (value : Tree) (convert : Tree → Except Error Tree) : Except Error Tree := do
  let text ← value.toText.mapError .number
  if text.all fun p => Text.isBlank p.shown then return .null else convert value

/-- A value as a text. -/
def toText (value : Tree) : Except Error Tree := .text <$> value.toText.mapError .number

/--
The texts between the commas of a text, without the blanks around them.  The commas at its end are
left out.
-/
def textsIn (cs : List Char) : List (List Char) :=
  let front := ((Text.trim Text.isBlank cs).reverse.dropWhile (· = ',')).reverse
  if front.isEmpty then [] else (Text.fields ',' front).map (Text.trim Text.isBlank)

/-- A value as several texts. -/
def toTexts : Tree → Except Error Tree
  | .list items => .list <$> items.mapM toText
  | .text ps =>
    return .list ((textsIn (ps.map Text.Point.shown)).map fun cs => .text (cs.map .char))
  | _ => throw .notTexts

/-- A value as a text that has to be among those that are allowed. -/
def toOneOf (allowed : List String) (value : Tree) : Except Error Tree := do
  let text ← value.toText.mapError .number
  if allowed.any fun t => Text.points t = text then return .text text
  else throw (.notAllowed allowed text)

/-- A value as an option holds it.  Truth values count as numbers, but keep their text. -/
def Kind.convert (kind : Kind) (value : Tree) : Except Error Tree :=
  match kind, value with
  | _, .null => return .null
  | declared (.count _), .bool b => return .bool b
  | declared (.count least), .int n => checkCount least n
  | declared (.count least), _ =>
    fromText value fun t => do checkCount least (← t.toInt.mapError .number)
  | declared .duration, .float x => return .float x
  | declared .duration, _ => fromText value fun t => .float <$> t.toFloat.mapError .number
  | declared .text, _ => toText value
  | oneOf allowed, _ => toOneOf allowed value
  | texts, _ => toTexts value
  | anything, _ => return value

/-- A value of a kind as it is held. -/
def treeOf : (kind : OptionKind) → kind.Value → Tree
  | .count _, n => .int n
  | .duration, x => .float x
  | .text, s => .ofString s

/-- What is held, as a value of a kind, if it is there. -/
def valueOf? : (kind : OptionKind) → Tree → Option kind.Value
  | .count _, .bool b => some (if b then (1 : Int) else (0 : Int))
  | .count _, .int n => some n
  | .duration, .float x => some x
  | .text, .text ps => some (Text.shown ps)
  | _, _ => none

/-! ### Controllers -/

/-- A controller has options with names and kinds, and what they hold. -/
structure Controller where
  /-- The options in order. -/
  entries : List (String × Kind × Tree)

namespace Controller

/-- The options that every controller has. -/
def commonEntries : List (String × Kind × Tree) :=
  [("config_source", .texts, .list []), ("shell_completion", .oneOf ["bash", "zsh"], .null)]

/-- The options for files, which a controller gets when it is started. -/
def fileEntries : List (String × Kind × Tree) :=
  [("config_file", .anything, .list []), ("config_dir", .texts, .list [])]

/-- A controller with no other options, whether or not it has been started. -/
def initial (started : Bool) : Controller :=
  ⟨commonEntries ++ if started then fileEntries else []⟩

/-- Declares options to a controller. -/
def register (options : List OptionSpec) (c : Controller) : Controller :=
  ⟨options.map (fun o => (o.name, .declared o.kind, treeOf o.kind o.default)) ++ c.entries⟩

/-- What an option holds. -/
def get? (c : Controller) (name : String) : Option Tree := (c.entries.lookup name).map (·.2)

/-- Sets an option. -/
def set (c : Controller) (name : String) (value : Tree) : Except Error Controller := do
  match c.entries.lookup name with
  | none => throw .unknown
  | some (kind, _) =>
    let held ← kind.convert value
    return { entries := c.entries.map fun entry =>
      if entry.1 = name then (name, kind, held) else entry }

/-- The text that takes the place of a reference to a value. -/
def textOf? : Tree → Option String
  | .null => some ""
  | value => value.text?.map Text.shown

/--
What an option holds, with its references replaced.  If the references lead on more often than there
are options, they go in a circle, and there is no value.
-/
def valueWithin (c : Controller) : Nat → String → Option Tree
  | 0, _ => none
  | bound + 1, name =>
    (c.get? name).bind (Template.expandAll? fun reference =>
      (c.valueWithin bound reference).bind textOf?)

/-- What an option holds, with its references replaced. -/
def value? (c : Controller) (name : String) : Option Tree := c.valueWithin c.entries.length name

/-- Reads an option. -/
def read (o : OptionSpec) (c : Controller) : Except Error (Option o.kind.Value) :=
  match c.value? o.name with
  | none => throw .unknown
  | some held => return valueOf? o.kind held

end Controller

/-- The library of these controllers, which are started or not. -/
def library (started : Bool) : OptionLibrary Controller Error where
  fresh := .initial started
  register := Controller.register
  set v c := c.set v.option.name (treeOf v.option.kind v.value)
  read := Controller.read
  aboutValue := Error.IsValueError

end StandIn
end LineTerminal
