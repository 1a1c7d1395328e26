import LineTerminal.Numeral
import LineTerminal.Treatment
import LineTerminal.Value

/-!
# Groups

Groups with their keys, and the records that say which key the group of a next objective has.
-/

namespace LineTerminal

/-! ### Group keys

A group is found again by a key that is computed from the identifier of the request that asked for
it: the name of a key space, a slash, and the identifier as a signed number of 32 bits, most
significant octet first.
-/

/-- The key under which a device keeps a group. -/
structure GroupKey where
  /-- The octets of the key. -/
  bytes : Bytes
deriving DecidableEq

/-- The text of a key: its octets as one hexadecimal number. -/
def GroupKey.text (k : GroupKey) : String :=
  "GroupKey(0x" ++ k.bytes.hex ++ ")"

/-- A named space of keys. -/
structure KeySpace where
  /-- The name that all keys of the space begin with. -/
  name : String
  /-- The name is not empty. -/
  name_ne_empty : name ≠ ""

namespace KeySpace

/-- What there is no key space or no key for. -/
inductive Error where
  /-- A name without a character. -/
  | nameEmpty
  /-- An identifier that a signed number of 32 bits cannot hold. -/
  | idOutOfRange (id : Value)
deriving DecidableEq

/-- The text of an error. -/
def Error.message : Error → String
  | nameEmpty => "group key namespace must not be empty"
  | idOutOfRange id => "next objective id " ++ id.plain ++ " is out of range"

/-- The key space of a name. -/
def ofName (name : String) : Except Error KeySpace :=
  if h : name ≠ "" then .ok ⟨name, h⟩ else .error .nameEmpty

/-- The octets that all keys of the space begin with: its name and a slash. -/
def start (s : KeySpace) : Bytes := Bytes.ofText s.name ++ [0x2F]

/-- The name that stands before the slash. -/
def nameIn? (start : Bytes) : Option String := Bytes.toText? start.dropLast

/-- The identifiers that a signed number of 32 bits can hold. -/
def InRange (id : Int) : Prop := -0x80000000 ≤ id ∧ id < 0x80000000

instance (id : Int) : Decidable (InRange id) :=
  inferInstanceAs (Decidable (_ ∧ _))

/-- The octets of a key in terms of the identifier. -/
def keyOf (s : KeySpace) (id : Int) : GroupKey :=
  ⟨s.start ++ Bytes.bigEndian 4 (id % 0x100000000).toNat⟩

/-- The key of an identifier, which has to be a number in range. -/
def keyFor? (s : KeySpace) : Value → Option GroupKey
  | .number id => if InRange id then some (s.keyOf id) else none
  | _ => none

/-- The key of an identifier, or the error that there is none. -/
def keyFor (s : KeySpace) (id : Value) : Except Error GroupKey :=
  match s.keyFor? id with
  | some key => .ok key
  | none => .error (.idOutOfRange id)

end KeySpace

/-! ### Group records

The record that is stored for a confirmed group holds its key: four octets of magic, one of
version, two of length, then the key itself.
-/

namespace GroupRecord

/-- The octets every record begins with. -/
def magic : Bytes := [0x4F, 0x4C, 0x54, 0x47]

/-- The version of the format. -/
def version : UInt8 := 1

/-- The longest key that a record can hold. -/
def maxKeyLength : Nat := 65535

/-- What can be wrong with the octets of a record. -/
inductive Error where
  | truncated
  | unknownFormat
  | unsupportedVersion (v : UInt8)
  | lengthMismatch
deriving DecidableEq

/-- The text of an error. -/
def Error.message : Error → String
  | truncated => "next group record is truncated"
  | unknownFormat => "next group record has an unknown format"
  | unsupportedVersion v =>
    "unsupported next group record version " ++ Numeral.decimal v.toNat
  | lengthMismatch => "next group record length mismatch"

/-- The record of a key, which must not be too long. -/
def encode? (key : GroupKey) : Option Bytes :=
  if key.bytes.length ≤ maxKeyLength then
    some (magic ++ version :: Bytes.bigEndian 2 key.bytes.length ++ key.bytes)
  else none

/-- The key in a record. -/
def decode : Bytes → Except Error GroupKey
  | m₁ :: m₂ :: m₃ :: m₄ :: v :: high :: low :: payload =>
    if [m₁, m₂, m₃, m₄] ≠ magic then .error .unknownFormat
    else if v ≠ version then .error (.unsupportedVersion v)
    else if payload.length ≠ Bytes.toNat [high, low] then .error .lengthMismatch
    else .ok ⟨payload⟩
  | _ => .error .truncated

end GroupRecord

/-! ### Groups

A group replicates a packet to each of its buckets.  A device keeps its groups under keys.
-/

/-- A group that a device has installed. -/
structure Group where
  /-- The identifier that instructions refer to. -/
  id : Value
  /-- What is done with the copy of each bucket. -/
  buckets : List Treatment

/-- What is asked of the group service. -/
inductive GroupRequest where
  /-- Install a group. -/
  | add
  /-- Remove a group. -/
  | remove
  /-- Add buckets to a group, which gets a new key. -/
  | addBuckets (newKey : GroupKey)
  /-- Take buckets from a group, which gets a new key. -/
  | removeBuckets (newKey : GroupKey)
deriving DecidableEq

/-- What the group service reports of a group. -/
inductive GroupEvent where
  | addRequested
  | added
  | updated
  | removed
  | addFailed
  | updateFailed
  | removeFailed
deriving DecidableEq

/-- Whether an event confirms that a group is installed. -/
def GroupEvent.Confirms (e : GroupEvent) : Prop := e = added ∨ e = updated

instance (e : GroupEvent) : Decidable e.Confirms :=
  inferInstanceAs (Decidable (_ ∨ _))

/-- What is stored for a next objective. -/
inductive StoredRecord where
  /-- The record of a confirmed group. -/
  | group (key : GroupKey)
  /-- Octets that somebody else has stored, if any. -/
  | raw (data : Option Bytes)

/-- The octets of a stored record.  There are none when the key of the group is too long. -/
def StoredRecord.data : StoredRecord → Option (Option Bytes)
  | group key => (GroupRecord.encode? key).map some
  | raw data => some data

end LineTerminal
