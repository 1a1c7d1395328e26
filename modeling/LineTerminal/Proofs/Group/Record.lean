import LineTerminal.Group
import Mathlib.Tactic.Ring

/-!
# Records and the keys in them

The record of a key is read back as the same key, and nothing else is: what is read as a key is the
record of that key.  There is one unless the key is longer than a number of two octets can tell; the
keys of a space are five octets longer than its name.
-/

namespace LineTerminal
namespace Bytes

@[simp] theorem length_bigEndian (width n : Nat) : (bigEndian width n).length = width := by
  induction width with
  | zero => rfl
  | succ width ih => rw [bigEndian, List.length_cons, ih]

/-- What has been read before counts once more for each octet that follows. -/
theorem foldl_octets (n : Nat) (b : Bytes) :
    b.foldl (fun n octet => n * 256 + octet.toNat) n = n * 256 ^ b.length + toNat b := by
  unfold toNat
  induction b generalizing n with
  | nil => rw [List.foldl_nil, List.foldl_nil, List.length_nil, pow_zero, Nat.mul_one, Nat.add_zero]
  | cons octet rest ih =>
      rw [List.foldl_cons, List.foldl_cons, List.length_cons, ih, ih (0 * 256 + octet.toNat)]
      ring

theorem toNat_cons (octet : UInt8) (b : Bytes) :
    toNat (octet :: b) = octet.toNat * 256 ^ b.length + toNat b := by
  rw [toNat, List.foldl_cons, foldl_octets, Nat.zero_mul, Nat.zero_add]

/-- The low octets of a number stand for what they leave of it. -/
theorem toNat_bigEndian (width n : Nat) : toNat (bigEndian width n) = n % 256 ^ width := by
  induction width with
  | zero => rw [bigEndian, pow_zero, Nat.mod_one, toNat, List.foldl_nil]
  | succ width ih =>
      have high : (UInt8.ofNat (n / Nat.pow 256 width)).toNat = n / 256 ^ width % 256 :=
        UInt8.toNat_ofNat'
      rw [bigEndian, toNat_cons, length_bigEndian, ih, high]
      conv => rhs; rw [Nat.pow_succ, Nat.mod_mul]
      rw [Nat.mul_comm, Nat.add_comm]

theorem toNat_lt (b : Bytes) : toNat b < 256 ^ b.length := by
  induction b with
  | nil => exact Nat.one_pos
  | cons octet rest ih =>
      have small : octet.toNat < 256 := octet.toNat_lt
      have shifted : octet.toNat * 256 ^ rest.length ≤ 255 * 256 ^ rest.length :=
        Nat.mul_le_mul_right _ (Nat.le_of_lt_succ small)
      rw [toNat_cons, List.length_cons, pow_succ]
      omega

/-- The low octets of a number are those of what is left without a multiple of their range. -/
theorem bigEndian_add (width high n : Nat) :
    bigEndian width (high * 256 ^ width + n) = bigEndian width n := by
  induction width generalizing high with
  | zero => rfl
  | succ width ih =>
      have shifted : high * 256 ^ (width + 1) + n = high * 256 * 256 ^ width + n := by ring
      have first : (high * 256 * 256 ^ width + n) / Nat.pow 256 width =
          n / Nat.pow 256 width + high * 256 := by
        rw [Nat.add_comm]
        exact Nat.add_mul_div_right _ _ (Nat.pow_pos (by decide))
      rw [bigEndian, bigEndian, shifted, ih, first, UInt8.ofNat_add]
      simp

/-- Octets are the low ones of the number that they stand for. -/
theorem bigEndian_toNat (b : Bytes) : bigEndian b.length (toNat b) = b := by
  induction b with
  | nil => rfl
  | cons octet rest ih =>
      have first : toNat (octet :: rest) / Nat.pow 256 rest.length = octet.toNat := by
        rw [toNat_cons, Nat.add_comm]
        refine (Nat.add_mul_div_right _ _ (Nat.pow_pos (by decide))).trans ?_
        rw [Nat.div_eq_of_lt (toNat_lt rest), Nat.zero_add]
      rw [List.length_cons, bigEndian, first, UInt8.ofNat_toNat, toNat_cons, bigEndian_add, ih]

end Bytes

namespace GroupRecord

/-- What a record consists of, if there is one. -/
theorem encode?_eq_some_iff {key : GroupKey} {data : Bytes} :
    encode? key = some data ↔
      key.bytes.length ≤ maxKeyLength ∧
        data = magic ++ version :: (Bytes.bigEndian 2 key.bytes.length ++ key.bytes) := by
  unfold encode?
  split
  · next short => simp [short, eq_comm]
  · next long => simp [long]

/-- The header of a record tells how long the key is. -/
theorem toNat_bigEndian_length
    {key : GroupKey}
    (short : key.bytes.length ≤ maxKeyLength) :
    Bytes.toNat (Bytes.bigEndian 2 key.bytes.length) = key.bytes.length := by
  rw [Bytes.toNat_bigEndian]
  exact Nat.mod_eq_of_lt (Nat.lt_succ_of_le short)

/-! ### Octets with a header and without -/

/-- The number of octets before the key. -/
def headerLength : Nat := 7

/-- Octets with a complete header, part by part. -/
theorem exists_header
    {data : Bytes}
    (complete : headerLength ≤ data.length) :
    ∃ (start : Bytes) (v : UInt8) (told payload : Bytes), start.length = magic.length ∧
      told.length = 2 ∧ data = start ++ v :: (told ++ payload) := by
  match data, complete with
  | m₁ :: m₂ :: m₃ :: m₄ :: v :: high :: low :: payload, _ =>
    exact ⟨[m₁, m₂, m₃, m₄], v, [high, low], payload, rfl, rfl, rfl⟩

theorem decode_of_short {data : Bytes} (short : data.length < headerLength) :
    decode data = .error .truncated := by
  unfold decode
  split
  · simp only [List.length_cons, headerLength] at short
    omega
  · rfl

/-- How octets with a complete header are read. -/
theorem decode_header
    {start told : Bytes}
    (whole : start.length = magic.length)
    (two : told.length = 2)
    (v : UInt8)
    (payload : Bytes) :
    decode (start ++ v :: (told ++ payload)) =
      if start ≠ magic then .error .unknownFormat
      else if v ≠ version then .error (.unsupportedVersion v)
      else if payload.length ≠ Bytes.toNat told then .error .lengthMismatch
      else .ok ⟨payload⟩ := by
  match start, told, whole, two with
  | [m₁, m₂, m₃, m₄], [high, low], _, _ => rfl

/--
What is wrong with octets that are no record.  The header is looked at from front to back, and then
the length of what follows it.
-/
inductive Flawed : Bytes → Error → Prop
  /-- The header is not complete. -/
  | truncated {data : Bytes} (short : data.length < headerLength) : Flawed data .truncated
  /-- The magic is another. -/
  | unknownFormat {start rest : Bytes} (whole : start.length = magic.length) (other : start ≠ magic)
      (complete : headerLength ≤ (start ++ rest).length) : Flawed (start ++ rest) .unknownFormat
  /-- The version is another. -/
  | unsupportedVersion {v : UInt8} {rest : Bytes} (other : v ≠ version)
      (complete : headerLength ≤ (magic ++ v :: rest).length) :
      Flawed (magic ++ v :: rest) (.unsupportedVersion v)
  /-- The key is shorter or longer than the header tells. -/
  | lengthMismatch {told payload : Bytes} (two : told.length = 2)
      (other : payload.length ≠ Bytes.toNat told) :
      Flawed (magic ++ version :: (told ++ payload)) .lengthMismatch

/-! ### What is read -/

/-- Octets are read as a key exactly when they are its record. -/
theorem decode_eq_ok_iff {data : Bytes} {key : GroupKey} :
    decode data = .ok key ↔ encode? key = some data := by
  constructor
  · intro read
    rcases Nat.lt_or_ge data.length headerLength with short | complete
    · rw [decode_of_short short] at read
      cases read
    · obtain ⟨start, v, told, payload, whole, two, rfl⟩ := exists_header complete
      rw [decode_header whole two] at read
      split at read
      · cases read
      · split at read
        · cases read
        · split at read
          · cases read
          · next known current fits =>
            cases read
            rw [not_ne_iff] at known current fits
            subst known current
            -- The two octets are those of the length, which is therefore not too great.
            have small := Bytes.toNat_lt told
            have same := Bytes.bigEndian_toNat told
            rw [two] at small same
            rw [encode?_eq_some_iff, fits, same]
            exact ⟨Nat.le_of_lt_succ small, rfl⟩
  · intro recorded
    obtain ⟨short, rfl⟩ := encode?_eq_some_iff.mp recorded
    rw [decode_header rfl (Bytes.length_bigEndian 2 _), if_neg (by simp), if_neg (by simp),
      toNat_bigEndian_length short, if_neg (by simp)]

/-- A key that is not too long is read back from its record. -/
theorem decode_encode
    {key : GroupKey}
    (short : key.bytes.length ≤ maxKeyLength) :
    ∃ data, encode? key = some data ∧ decode data = .ok key :=
  ⟨_, if_pos short, decode_eq_ok_iff.mpr (if_pos short)⟩

/-- Octets are refused exactly for what is wrong with them. -/
theorem decode_eq_error_iff {data : Bytes} {e : Error} :
    decode data = .error e ↔ Flawed data e := by
  constructor
  · intro refused
    rcases Nat.lt_or_ge data.length headerLength with short | complete
    · rw [decode_of_short short] at refused
      cases refused
      exact .truncated short
    · obtain ⟨start, v, told, payload, whole, two, rfl⟩ := exists_header complete
      rw [decode_header whole two] at refused
      split at refused
      · next other =>
        cases refused
        exact .unknownFormat whole other complete
      · next known =>
        obtain rfl := not_ne_iff.mp known
        split at refused
        · next other =>
          cases refused
          exact .unsupportedVersion other complete
        · next current =>
          obtain rfl := not_ne_iff.mp current
          split at refused
          · next other =>
            cases refused
            exact .lengthMismatch two other
          · cases refused
  · intro flawed
    cases flawed with
    | truncated short => exact decode_of_short short
    | unknownFormat whole other complete =>
        obtain ⟨start', v, told, payload, whole', two, same⟩ := exists_header complete
        obtain ⟨rfl, -⟩ := List.append_inj same (whole.trans whole'.symm)
        rw [same, decode_header whole two, if_pos other]
    | unsupportedVersion other complete =>
        obtain ⟨start', v, told, payload, whole', two, same⟩ := exists_header complete
        obtain ⟨rfl, rest⟩ := List.append_inj same whole'.symm
        obtain ⟨rfl, -⟩ := List.cons.inj rest
        rw [same, decode_header rfl two, if_neg (by simp), if_pos other]
    | lengthMismatch two other =>
        rw [decode_header rfl two, if_neg (by simp), if_neg (by simp), if_pos other]

/-- A record that another one begins with is the other one. -/
theorem eq_of_isPrefix
    {key key' : GroupKey}
    {data data' : Bytes}
    (recorded : encode? key = some data)
    (recorded' : encode? key' = some data')
    (begins : data <+: data') :
    data = data' := by
  obtain ⟨short, rfl⟩ := encode?_eq_some_iff.mp recorded
  obtain ⟨short', rfl⟩ := encode?_eq_some_iff.mp recorded'
  have headers : Bytes.bigEndian 2 key.bytes.length = Bytes.bigEndian 2 key'.bytes.length := by
    obtain ⟨more, same⟩ := begins
    simp only [List.append_assoc, List.cons_append, List.append_cancel_left_eq, List.cons.injEq,
      true_and] at same
    exact (List.append_inj same (by simp)).1
  have lengths : key.bytes.length = key'.bytes.length := by
    rw [← toNat_bigEndian_length short, ← toNat_bigEndian_length short', headers]
  exact begins.eq_of_length (by simp [lengths])

/--
The format of records is exact.  The keys that have a record are those of at most 65535 octets, and
the octets that are read as a key are the record of that key; all others are refused for what is
wrong with them.  What is shorter or longer than a record, but otherwise the same, is no record.
-/
theorem records_exact :
    (∀ key : GroupKey, key.bytes.length ≤ 65535 →
      ∃ data, encode? key = some data ∧ decode data = .ok key) ∧
    (∀ key : GroupKey, 65535 < key.bytes.length → encode? key = none) ∧
    (∀ (data : Bytes) (key : GroupKey), decode data = .ok key ↔ encode? key = some data) ∧
    (∀ (data : Bytes) (e : Error), decode data = .error e ↔ Flawed data e) ∧
    ∀ (key : GroupKey) (data other : Bytes), encode? key = some data →
      other <+: data ∨ data <+: other → other ≠ data →
      (∀ key', encode? key' ≠ some other) ∧ ∃ e, decode other = .error e := by
  refine ⟨fun _ short => decode_encode short, fun _ long => if_neg (Nat.not_le.mpr long),
    fun _ _ => decode_eq_ok_iff, fun _ _ => decode_eq_error_iff, ?_⟩
  intro key data other recorded nested different
  have unrecorded (key' : GroupKey) : encode? key' ≠ some other := by
    intro recorded'
    rcases nested with shorter | longer
    · exact different (eq_of_isPrefix recorded' recorded shorter)
    · exact different (eq_of_isPrefix recorded recorded' longer).symm
  refine ⟨unrecorded, ?_⟩
  cases read : decode other with
  | error e => exact ⟨e, rfl⟩
  | ok key' => exact absurd (decode_eq_ok_iff.mp read) (unrecorded key')

theorem records_exact_boundary :
    (∃ data, encode? ⟨List.replicate 65535 0⟩ = some data ∧
      decode data = .ok ⟨List.replicate 65535 0⟩) ∧
    encode? ⟨List.replicate 65536 0⟩ = none ∧
    ∃ e, decode (magic ++ [version, 0, 1, 0x2A, 0x2B]) = .error e := by
  obtain ⟨short, long, -, -, nested⟩ := records_exact
  refine ⟨short _ List.length_replicate.le,
    long _ (Nat.lt_of_lt_of_eq (Nat.lt_succ_self _) List.length_replicate.symm), ?_⟩
  have recorded : encode? ⟨[0x2A]⟩ = some (magic ++ [version, 0, 1, 0x2A]) := by decide
  exact (nested _ _ _ recorded (.inr ⟨[0x2B], rfl⟩) (by decide)).2

end GroupRecord

namespace KeySpace

/-- A key has the octets of the name, a slash and the four of the identifier. -/
theorem length_keyOf (s : KeySpace) (id : Int) :
    (s.keyOf id).bytes.length = (Bytes.ofText s.name).length + 5 := by
  simp [keyOf, start]

theorem length_of_keyFor?
    {s : KeySpace}
    {id : Value}
    {key : GroupKey}
    (named : s.keyFor? id = some key) :
    key.bytes.length = (Bytes.ofText s.name).length + 5 := by
  cases id with
  | number n =>
      unfold keyFor? at named
      dsimp only at named
      split at named
      · rw [← Option.some.inj named]
        exact length_keyOf s n
      · cases named
  | text t => cases named
  | absent => cases named

end KeySpace
end LineTerminal
