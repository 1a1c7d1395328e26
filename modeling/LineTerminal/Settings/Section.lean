import LineTerminal.Document.Number
import LineTerminal.Settings.Basic

/-!
# Settings in a document

A section of a document names any of the five settings.  Their values are converted in order, and
only then checked.  Another section lists the devices.
-/

namespace LineTerminal

/-- What can be wrong with the sections of a document. -/
inductive SectionError where
  /-- A value cannot be converted. -/
  | number (e : Tree.NumberError)
  /-- A value is out of range. -/
  | draft (e : Draft.Error)
  /-- The devices are not a list. -/
  | devicesNotList
  /-- A device occurs twice. -/
  | deviceTwice
  /-- The document is not a mapping. -/
  | documentNotMapping
  /-- The section of the pipeline is not a mapping. -/
  | pipelineNotMapping
  /-- A text has half a surrogate pair in it. -/
  | brokenText
deriving DecidableEq

namespace SectionError

/-- Shapes and ranges are judged by value errors, and so are the texts of numbers. -/
def IsValueError : SectionError → Prop
  | number e => e.IsValueError
  | draft _ | devicesNotList | deviceTwice | documentNotMapping | pipelineNotMapping
  | brokenText => True

/-- The text of an error, where it has one. -/
def message? : SectionError → Option String
  | number _ | brokenText => none
  | draft e => some e.message
  | devicesNotList => some "'devices' section must be a list"
  | deviceTwice => some "'devices' section lists a device more than once"
  | documentNotMapping => some "Pipeline configuration must be a mapping"
  | pipelineNotMapping => some "'pipeline' section must be a mapping"

end SectionError

/-- The value under a name in a section, converted, if it is there. -/
def valueIn? {α : Type} (entries : List (Tree × Tree)) (name : String)
    (convert : Tree → Except Tree.NumberError α) : Except Tree.NumberError (Option α) :=
  (Tree.get? entries name).mapM convert

/-- The names of the settings. -/
def settingNames : List String :=
  ["qq_table", "no_action_priority", "pending_group_ttl", "eviction_interval",
    "group_key_namespace"]

/-- The name of the space of group keys, if it is in a section. -/
def keySpaceIn? (entries : List (Tree × Tree)) :
    Except Tree.NumberError (Option (List Text.Point)) :=
  valueIn? entries "group_key_namespace" Tree.toText

/-- What a section proposes. -/
def Proposal.ofSection (entries : List (Tree × Tree)) : Except Tree.NumberError Proposal := do
  let serviceTable ← valueIn? entries "qq_table" Tree.toInt
  let dropPriority ← valueIn? entries "no_action_priority" Tree.toInt
  let timeToLive ← valueIn? entries "pending_group_ttl" Tree.toFloat
  let sweepInterval ← valueIn? entries "eviction_interval" Tree.toFloat
  let keySpace ← keySpaceIn? entries
  return {
    serviceTable, dropPriority, timeToLive, sweepInterval
    keySpace := keySpace.map Text.shown }

/-- The settings in a section. -/
def Settings.ofSection (entries : List (Tree × Tree)) : Except SectionError Settings := do
  let proposal ← (Proposal.ofSection entries).mapError .number
  proposal.draft.check.mapError .draft

/-- What a section proposes is checked. -/
theorem Settings.ofSection_of_ok
    {entries : List (Tree × Tree)}
    {p : Proposal}
    (read : Proposal.ofSection entries = .ok p) :
    Settings.ofSection entries = p.draft.check.mapError .draft := by
  rw [ofSection, read]
  rfl

/-- If a value cannot be converted, nothing is checked. -/
theorem Settings.ofSection_of_error
    {entries : List (Tree × Tree)}
    {e : Tree.NumberError}
    (failed : Proposal.ofSection entries = .error e) :
    Settings.ofSection entries = .error (.number e) := by
  rw [ofSection, failed]
  rfl

/-- The settings in a section are what it proposes, if that passes its check. -/
theorem Settings.ofSection_eq_ok_iff {entries : List (Tree × Tree)} {s : Settings} :
    Settings.ofSection entries = .ok s ↔
      ∃ p, Proposal.ofSection entries = .ok p ∧ p.draft.check = .ok s := by
  cases read : Proposal.ofSection entries with
  | error e =>
      rw [ofSection_of_error read]
      refine iff_of_false nofun ?_
      rintro ⟨p, ⟨⟩, -⟩
  | ok p =>
      rw [ofSection_of_ok read]
      constructor
      · intro accepted
        cases checked : p.draft.check with
        | error e =>
            rw [checked] at accepted
            cases accepted
        | ok s' =>
            rw [checked] at accepted
            cases accepted
            exact ⟨p, rfl, checked⟩
      · rintro ⟨_, ⟨⟩, checked⟩
        rw [checked]
        rfl

/-- A text that consists of characters. -/
def wholeText (ps : List Text.Point) : Except SectionError String :=
  (Text.ofPoints? ps).elim (.error .brokenText) .ok

/-- The devices that a section lists, each by its text.  Broken texts are compared, too. -/
def devicesOf : Tree → Except SectionError (List String)
  | .list items => do
    let texts ← items.mapM fun item => item.toText.mapError .number
    match texts.mapM Text.ofPoints? with
    | some devices => if devices.Nodup then return devices else throw .deviceTwice
    | none => throw (if texts.Nodup then .brokenText else .deviceTwice)
  | _ => .error .devicesNotList

/-- The devices of a section differ. -/
theorem nodup_of_devicesOf
    {listed : Tree}
    {devices : List String}
    (accepted : devicesOf listed = .ok devices) :
    devices.Nodup := by
  unfold devicesOf at accepted
  split at accepted
  · next items =>
    cases read : items.mapM fun item => item.toText.mapError SectionError.number with
    | error e => simp [read, bind, Except.bind] at accepted
    | ok texts =>
        simp only [read, bind, Except.bind] at accepted
        split at accepted
        · split at accepted
          · next distinct =>
            cases accepted
            exact distinct
          · cases accepted
        · cases accepted
  · cases accepted

/-! ### Settings in a file

A file holds a document with a section for the pipeline and a list of devices.  Both may be left
out.  The notation of documents is up to a loader, which is a parameter.
-/

/--
The value of a document, as a loader makes it.  The values in it have numbers, since one can be a part
of several others, and of itself.
-/
structure LoadedDocument where
  /-- The value of the whole document. -/
  root : Nat
  /-- The keys of a mapping with the values under them, if the value is a mapping. -/
  mapping? : Nat → Option (List (Tree × Nat))
  /-- The values in a list, if the value is a list. -/
  list? : Nat → Option (List Tree)
  /-- The value as a tree. -/
  tree : Nat → Tree

/-- What can be wrong with a file. -/
inductive FileError (ε : Type) where
  /-- The loader makes no value of the file. -/
  | document (f : ε)
  /-- The document has the wrong shape, or its values do. -/
  | shape (e : SectionError)
deriving DecidableEq

/-- The settings and the devices of a file. -/
structure SettingsFile where
  /-- The settings of every pipeline. -/
  settings : Settings
  /-- The devices, in order. -/
  devices : List String

namespace SettingsFile

/-- What stands in the section of the pipeline, given what stands in a document. -/
def pipelineSection (d : LoadedDocument) (entries : List (Tree × Nat)) :
    Except SectionError (List (Tree × Tree)) :=
  match Tree.get? entries "pipeline" with
  | none => return []
  | some i =>
    match d.mapping? i with
    | none => throw .pipelineNotMapping
    | some values =>
      return settingNames.filterMap fun name =>
        (Tree.get? values name).map fun j => (.ofString name, d.tree j)

/-- The list of devices, given what stands in a document. -/
def deviceList (d : LoadedDocument) (entries : List (Tree × Nat)) :
    Except SectionError (List String) :=
  match Tree.get? entries "devices" with
  | none => return []
  | some i =>
    match d.list? i with
    | none => throw .devicesNotList
    | some items => devicesOf (.list items)

/--
The settings and the devices of a document.  The section of the pipeline is judged before the
devices, except that its texts may be broken.
-/
def ofDocument (d : LoadedDocument) : Except SectionError SettingsFile := do
  match d.mapping? d.root with
  | none => throw .documentNotMapping
  | some entries =>
    let values ← pipelineSection d entries
    let settings ← Settings.ofSection values
    let devices ← deviceList d entries
    let _ ← ((← (keySpaceIn? values).mapError .number).mapM wholeText)
    return { settings, devices }

/-- Reads a file with a loader. -/
def ofText {ε : Type} (load : String → Except ε LoadedDocument) (text : String) :
    Except (FileError ε) SettingsFile := do
  let d ← (load text).mapError .document
  (ofDocument d).mapError .shape

end SettingsFile

end LineTerminal
