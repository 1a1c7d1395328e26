import LineTerminal.Proofs.Group.Record

/-!
# What a key identifies

A key tells the name of its space and the identifier.  The identifier takes up the last four octets,
whatever they are, and the slash before them is the last octet of the start, so a slash in the name
or among the four octets does no harm.  The start of a key tells the name, since no two texts have
the same octets.
-/

namespace LineTerminal
namespace Bytes

/-- A text is read back from its octets. -/
theorem toText?_ofText (s : String) : toText? (ofText s) = some s := by
  have whole : (ofText s).toByteArray = s.toByteArray := by
    apply ByteArray.ext
    rw [List.data_toByteArray]
    rfl
  have valid : s.toByteArray.IsValidUTF8 := s.isValidUTF8
  rw [toText?, whole, String.fromUTF8?, dif_pos valid]
  rfl

/-- No two texts have the same octets. -/
theorem ofText_inj {s t : String} : ofText s = ofText t ↔ s = t := by
  refine ⟨fun same => ?_, congrArg _⟩
  apply Option.some.inj
  rw [← toText?_ofText s, same, toText?_ofText]

/-- Numbers that fit are told apart by their octets. -/
theorem bigEndian_inj
    {width m n : Nat}
    (fits : m < 256 ^ width)
    (fits' : n < 256 ^ width) :
    bigEndian width m = bigEndian width n ↔ m = n := by
  refine ⟨fun same => ?_, congrArg _⟩
  have values := congrArg toNat same
  rwa [toNat_bigEndian, toNat_bigEndian, Nat.mod_eq_of_lt fits, Nat.mod_eq_of_lt fits'] at values

end Bytes

namespace KeySpace
variable {s t : KeySpace}
variable {id id' : Int}

/-- Every name that is not empty makes a key space. -/
theorem ofName_of_ne_empty {name : String} (nonempty : name ≠ "") :
    ofName name = .ok ⟨name, nonempty⟩ :=
  dif_pos nonempty

/-- The start of its keys tells the name of a space. -/
theorem nameIn?_start (s : KeySpace) : nameIn? s.start = some s.name := by
  rw [nameIn?, start, List.dropLast_concat]
  exact Bytes.toText?_ofText s.name

theorem start_inj : s.start = t.start ↔ s.name = t.name := by
  rw [start, start, List.append_left_inj, Bytes.ofText_inj]

/-- The identifiers in range are told apart by what they leave of a multiple of 2³². -/
theorem residue_inj (inRange : InRange id) (inRange' : InRange id') :
    (id % 0x100000000).toNat = (id' % 0x100000000).toNat ↔ id = id' := by
  unfold InRange at inRange inRange'
  omega

/-- Keys are the same if they have the same name before the slash and the same identifier. -/
theorem keyOf_inj (inRange : InRange id) (inRange' : InRange id') :
    s.keyOf id = t.keyOf id' ↔ s.name = t.name ∧ id = id' := by
  have fits (n : Int) : (n % 0x100000000).toNat < 256 ^ 4 := by omega
  have octets := Bytes.bigEndian_inj (fits id) (fits id')
  rw [residue_inj inRange inRange'] at octets
  rw [← start_inj, ← octets, keyOf, keyOf, GroupKey.mk.injEq]
  constructor
  · intro same
    -- The two starts end where the last four octets begin.
    exact List.append_inj' same (by rw [Bytes.length_bigEndian, Bytes.length_bigEndian])
  · rintro ⟨starts, identifiers⟩
    rw [starts, identifiers]

/-- A key is found exactly for the identifiers in range. -/
theorem keyFor_eq_ok_iff {key : GroupKey} :
    s.keyFor (.number id) = .ok key ↔ InRange id ∧ s.keyOf id = key := by
  unfold keyFor keyFor?
  by_cases inRange : InRange id
  · simp [inRange]
  · simp [inRange]

theorem keyFor_of_not_inRange (outside : ¬InRange id) :
    s.keyFor (.number id) = .error (.idOutOfRange (.number id)) := by
  unfold keyFor keyFor?
  dsimp only
  rw [if_neg outside]

/--
Every name that is not empty makes a space, whose keys begin with the octets that the name is read
back from.  The identifiers from -2³¹ to 2³¹ - 1 have keys, and all others are refused.  Two keys are
the same exactly when the names of their spaces and the identifiers are.
-/
theorem key_identifies
    {name other : String}
    (nonempty : name ≠ "")
    (nonempty' : other ≠ "") :
    ∃ s t, ofName name = .ok s ∧ ofName other = .ok t ∧
      nameIn? s.start = some name ∧
      (∀ id : Int, (∃ key, s.keyFor (.number id) = .ok key) ↔
        -2147483648 ≤ id ∧ id ≤ 2147483647) ∧
      (∀ id : Int, ¬(-2147483648 ≤ id ∧ id ≤ 2147483647) →
        s.keyFor (.number id) = .error (.idOutOfRange (.number id))) ∧
      ∀ (id id' : Int) (key key' : GroupKey),
        s.keyFor (.number id) = .ok key → t.keyFor (.number id') = .ok key' →
          (key = key' ↔ name = other ∧ id = id') := by
  refine ⟨_, _, ofName_of_ne_empty nonempty, ofName_of_ne_empty nonempty', nameIn?_start _, ?_, ?_,
    ?_⟩
  · intro id
    constructor
    · rintro ⟨key, found⟩
      have inRange := (keyFor_eq_ok_iff.mp found).1
      unfold InRange at inRange
      omega
    · intro inside
      refine ⟨_, keyFor_eq_ok_iff.mpr ⟨?_, rfl⟩⟩
      unfold InRange
      omega
  · intro id outside
    apply keyFor_of_not_inRange
    unfold InRange
    omega
  · intro id id' key key' found found'
    obtain ⟨inRange, rfl⟩ := keyFor_eq_ok_iff.mp found
    obtain ⟨inRange', rfl⟩ := keyFor_eq_ok_iff.mp found'
    exact keyOf_inj inRange inRange'

/-- A name with a slash at its end and an identifier whose octets are slashes are kept apart. -/
theorem key_identifies_slashes :
    ∃ s t key key', ofName "olt/" = .ok s ∧ ofName "olt" = .ok t ∧
      nameIn? s.start = some "olt/" ∧ s.keyFor (.number (-1)) = .ok key ∧
      t.keyFor (.number 0x2F2F2F2F) = .ok key' ∧ key ≠ key' ∧
      s.keyFor (.number 0x80000000) = .error (.idOutOfRange (.number 0x80000000)) := by
  obtain ⟨s, t, made, made', named, found_iff, refused, same_iff⟩ :=
    key_identifies (show "olt/" ≠ "" by decide) (show "olt" ≠ "" by decide)
  obtain ⟨key, found⟩ := (found_iff (-1)).mpr (by decide)
  have found' : t.keyFor (.number 0x2F2F2F2F) = .ok (t.keyOf 0x2F2F2F2F) :=
    keyFor_eq_ok_iff.mpr ⟨by decide, rfl⟩
  have apart := (same_iff _ _ _ _ found found').not.mpr fun same => by
    exact absurd same.1 (by decide)
  exact ⟨s, t, key, _, made, made', named, found, found', apart, refused _ (by decide)⟩

end KeySpace
end LineTerminal
