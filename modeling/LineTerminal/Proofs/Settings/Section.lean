import LineTerminal.Proofs.Binary64.Whole
import LineTerminal.Proofs.Precedence
import LineTerminal.Settings.Section

/-!
# How the settings in a section fail

The values in a section are converted one after the other, and the first one that cannot be
converted decides.  Mostly that is a value error: a text is no numeral, or a value that could be
read is out of range.  But a value that is no number at all, a number that is too large, and a value
that is too deep are not reported as value errors.
-/

namespace LineTerminal

namespace Settings
open LineTerminal.Tree (NumberError)

/-! ### Conversions -/

/-- What the value of a setting is read as. -/
inductive Reading where
  /-- A whole number. -/
  | count
  /-- A floating-point number. -/
  | duration
  /-- A text. -/
  | name
deriving DecidableEq

/-- The settings of a section in the order in which they are read. -/
def readings : List (String × Reading) :=
  settingNames.zip [.count, .count, .duration, .duration, .name]

/-- A number, or a text that may be the text of one. -/
def Numeric : Tree → Prop
  | .bool _ | .int _ | .float _ | .text _ | .bytes _ => True
  | .null | .date _ | .moment _ | .list _ | .map _ | .set _ | .pair .. | .again _ => False

/-- The value cannot be read as what it should be, and a value error says so. -/
inductive Illegible : Reading → Tree → Prop where
  | notNumber {x : Float} (none : Binary64.parts x = .nan) : Illegible .count (.float x)
  | countText {ps : List Text.Point} (none : Tree.readInt? (ps.map Text.Point.shown) = none) :
      Illegible .count (.text ps)
  | countBytes {b : Bytes} (none : Tree.readInt? (Tree.asciiChars b) = none) :
      Illegible .count (.bytes b)
  | durationText {ps : List Text.Point}
      (none : Tree.readFloat? (ps.map Text.Point.shown) = none) : Illegible .duration (.text ps)
  | durationBytes {b : Bytes} (none : Tree.readFloat? (Tree.asciiChars b) = none) :
      Illegible .duration (.bytes b)
  | textless {v : Tree} (flat : v.depth ≤ Tree.maxDepth) (none : v.text? = none) :
      Illegible .name v

/-- The value cannot be read as what it should be, and no value error says so. -/
inductive Baffling : Reading → Tree → NumberError → Prop where
  | notCount {v : Tree} (other : ¬Numeric v) : Baffling .count v .notNumeric
  | notDuration {v : Tree} (other : ¬Numeric v) : Baffling .duration v .notNumeric
  | infinite {x : Float} {negative : Bool} (infinite : Binary64.parts x = .infinite negative) :
      Baffling .count (.float x) .unbounded
  | vast {n : Int} (vast : Binary64.leastUnbounded ≤ n.natAbs) :
      Baffling .duration (.int n) .unbounded
  | deep {v : Tree} (deep : Tree.maxDepth < v.depth) : Baffling .name v .tooDeep

/-- The conversion of a value fails with an error. -/
def Reading.Fails : Reading → Tree → NumberError → Prop
  | count, v, e => v.toInt = .error e
  | duration, v, e => v.toFloat = .error e
  | name, v, e => v.toText = .error e

section
variable {v : Tree} {e : NumberError}

/-- What has to be there is missing. -/
theorem elim_error_ok_eq_error_iff
    {α : Type}
    {o : Option α}
    {e' : NumberError} :
    o.elim (.error e) .ok = (.error e' : Except NumberError α) ↔ o = none ∧ e' = e := by
  cases o <;> simp [eq_comm]

theorem toInt_float (x : Float) :
    (Tree.float x).toInt = match Binary64.parts x with
      | .nan => .error .unreadable
      | .infinite _ => .error .unbounded
      | .finite .. => ((Binary64.truncate? x).elim (.error .unbounded) .ok) := by
  cases parts : Binary64.parts x <;> simp [Tree.toInt, Binary64.truncate?, parts]

theorem toInt_eq_error_iff :
    v.toInt = .error e ↔ Illegible .count v ∧ e = .unreadable ∨ Baffling .count v e := by
  constructor
  · intro failed
    cases v with
    | bool b => cases failed
    | int n => cases failed
    | float x =>
        rw [toInt_float] at failed
        cases parts : Binary64.parts x with
        | nan =>
            rw [parts] at failed
            cases failed
            exact .inl ⟨.notNumber parts, rfl⟩
        | infinite negative =>
            rw [parts] at failed
            cases failed
            exact .inr (.infinite parts)
        | finite negative mantissa exponent =>
            simp [Binary64.truncate?, parts] at failed
    | text ps =>
        obtain ⟨none, rfl⟩ := elim_error_ok_eq_error_iff.mp failed
        exact .inl ⟨.countText none, rfl⟩
    | bytes b =>
        obtain ⟨none, rfl⟩ := elim_error_ok_eq_error_iff.mp failed
        exact .inl ⟨.countBytes none, rfl⟩
    | null | date | moment | list | map | set | pair | again =>
        cases failed
        exact .inr (.notCount id)
  · rintro (⟨illegible, rfl⟩ | baffling)
    · cases illegible with
      | notNumber none => rw [toInt_float, none]
      | countText none | countBytes none => exact elim_error_ok_eq_error_iff.mpr ⟨none, rfl⟩
    · cases baffling with
      | infinite infinite => rw [toInt_float, infinite]
      | notCount other =>
          cases v with
          | bool | int | float | text | bytes => exact absurd trivial other
          | null | date | moment | list | map | set | pair | again => rfl

theorem toFloat_eq_error_iff :
    v.toFloat = .error e ↔ Illegible .duration v ∧ e = .unreadable ∨ Baffling .duration v e := by
  constructor
  · intro failed
    cases v with
    | bool b => cases failed
    | float x => cases failed
    | int n =>
        obtain ⟨none, rfl⟩ := elim_error_ok_eq_error_iff.mp failed
        exact .inr (.vast (Binary64.ofInt?_eq_none_iff.mp none))
    | text ps =>
        obtain ⟨none, rfl⟩ := elim_error_ok_eq_error_iff.mp failed
        exact .inl ⟨.durationText none, rfl⟩
    | bytes b =>
        obtain ⟨none, rfl⟩ := elim_error_ok_eq_error_iff.mp failed
        exact .inl ⟨.durationBytes none, rfl⟩
    | null | date | moment | list | map | set | pair | again =>
        cases failed
        exact .inr (.notDuration id)
  · rintro (⟨illegible, rfl⟩ | baffling)
    · cases illegible with
      | durationText none | durationBytes none =>
          exact elim_error_ok_eq_error_iff.mpr ⟨none, rfl⟩
    · cases baffling with
      | vast vast =>
          exact elim_error_ok_eq_error_iff.mpr ⟨Binary64.ofInt?_eq_none_iff.mpr vast, rfl⟩
      | notDuration other =>
          cases v with
          | bool | int | float | text | bytes => exact absurd trivial other
          | null | date | moment | list | map | set | pair | again => rfl

theorem toText_eq_error_iff :
    v.toText = .error e ↔ Illegible .name v ∧ e = .unreadable ∨ Baffling .name v e := by
  unfold Tree.toText
  by_cases deep : Tree.maxDepth < v.depth
  · rw [if_pos deep]
    constructor
    · intro failed
      cases failed
      exact .inr (.deep deep)
    · rintro (⟨illegible, -⟩ | baffling)
      · cases illegible with
        | textless flat none => exact absurd deep (Nat.not_lt.mpr flat)
      · cases baffling with
        | deep => rfl
  · rw [if_neg deep, elim_error_ok_eq_error_iff]
    constructor
    · rintro ⟨none, rfl⟩
      exact .inl ⟨.textless (Nat.not_lt.mp deep) none, rfl⟩
    · rintro (⟨illegible, rfl⟩ | baffling)
      · cases illegible with
        | textless flat none => exact ⟨none, rfl⟩
      · cases baffling with
        | deep other => exact absurd other deep

/-- A conversion fails for a value that is illegible or baffling, and for no other. -/
theorem Reading.fails_iff {r : Reading} :
    r.Fails v e ↔ Illegible r v ∧ e = .unreadable ∨ Baffling r v e := by
  cases r with
  | count => exact toInt_eq_error_iff
  | duration => exact toFloat_eq_error_iff
  | name => exact toText_eq_error_iff

/-- A conversion fails with one error at most. -/
theorem Reading.Fails.unique
    {r : Reading}
    {e' : NumberError}
    (first : r.Fails v e)
    (second : r.Fails v e') :
    e = e' := by
  cases r <;> exact Except.error.inj (first.symm.trans second)

theorem Baffling.not_isValueError {r : Reading} (baffling : Baffling r v e) :
    ¬e.IsValueError := by
  cases baffling <;> exact id

/-- Without a value error, a conversion fails for what is baffling. -/
theorem Reading.fails_and_not_isValueError_iff {r : Reading} :
    r.Fails v e ∧ ¬e.IsValueError ↔ Baffling r v e := by
  rw [Reading.fails_iff]
  constructor
  · rintro ⟨⟨-, rfl⟩ | baffling, other⟩
    · exact absurd trivial other
    · exact baffling
  · exact fun baffling => ⟨.inr baffling, baffling.not_isValueError⟩

end

/-! ### Conversions in sequence -/

section
variable {entries : List (Tree × Tree)}
variable {settings : List (String × Reading)}
variable {name : String}
variable {r : Reading}
variable {e : NumberError}
variable {α β : Type}

/-- A section has a value for a setting that cannot be read. -/
def Unconvertible (entries : List (Tree × Tree)) (setting : String × Reading) : Prop :=
  ∃ v, Tree.get? entries setting.1 = some v ∧
    (Illegible setting.2 v ∨ ∃ e, Baffling setting.2 v e)

/-- The first of several settings whose value cannot be read fails with an error. -/
def Stops (entries : List (Tree × Tree)) (settings : List (String × Reading))
    (e : NumberError) : Prop :=
  ∃ setting v, IsFirst (Unconvertible entries) settings setting ∧
    Tree.get? entries setting.1 = some v ∧ setting.2.Fails v e

theorem unconvertible_of_fails
    {v : Tree}
    (found : Tree.get? entries name = some v)
    (fails : r.Fails v e) :
    Unconvertible entries (name, r) :=
  ⟨v, found, (Reading.fails_iff.mp fails).imp And.left fun baffling => ⟨e, baffling⟩⟩

theorem Unconvertible.exists_fails (stuck : Unconvertible entries (name, r)) :
    ∃ v e, Tree.get? entries name = some v ∧ r.Fails v e := by
  obtain ⟨v, found, illegible | ⟨e, baffling⟩⟩ := stuck
  · exact ⟨v, _, found, Reading.fails_iff.mpr (.inl ⟨illegible, rfl⟩)⟩
  · exact ⟨v, e, found, Reading.fails_iff.mpr (.inr baffling)⟩

/-- Settings are read from the first one on. -/
theorem stops_cons_iff :
    Stops entries ((name, r) :: settings) e ↔
      (∃ v, Tree.get? entries name = some v ∧ r.Fails v e) ∨
        ¬Unconvertible entries (name, r) ∧ Stops entries settings e := by
  unfold Stops
  constructor
  · rintro ⟨setting, v, first, found, fails⟩
    rcases IsFirst.cons_iff.mp first with ⟨-, rfl⟩ | ⟨readable, first⟩
    · exact .inl ⟨v, found, fails⟩
    · exact .inr ⟨readable, setting, v, first, found, fails⟩
  · rintro (⟨v, found, fails⟩ | ⟨readable, setting, v, first, found, fails⟩)
    · have head := unconvertible_of_fails found fails
      exact ⟨_, v, IsFirst.cons_iff.mpr (.inl ⟨head, rfl⟩), found, fails⟩
    · exact ⟨setting, v, IsFirst.cons_iff.mpr (.inr ⟨readable, first⟩), found, fails⟩

/-- Several settings are read in their order, and the first one that cannot be read decides. -/
def Reads (entries : List (Tree × Tree)) (settings : List (String × Reading))
    (read : Except NumberError α) : Prop :=
  ∀ e, read = .error e ↔ Stops entries settings e

/-- What cannot fail reads nothing. -/
theorem Reads.ok (a : α) : Reads entries [] (.ok a) := by
  intro e
  refine iff_of_false nofun ?_
  rintro ⟨setting, v, first, -, -⟩
  exact IsFirst.not_nil first

theorem valueIn?_of_none
    {convert : Tree → Except NumberError α}
    (missing : Tree.get? entries name = none) :
    valueIn? entries name convert = .ok none := by
  rw [valueIn?, missing]
  rfl

theorem valueIn?_of_some
    {convert : Tree → Except NumberError α}
    {v : Tree}
    (found : Tree.get? entries name = some v) :
    valueIn? entries name convert = some <$> convert v := by
  rw [valueIn?, found]
  rfl

/-- One setting is read before others. -/
theorem Reads.bind
    {convert : Tree → Except NumberError α}
    {rest : Option α → Except NumberError β}
    (fails_iff : ∀ v e, convert v = .error e ↔ r.Fails v e)
    (others : ∀ a, Reads entries settings (rest a)) :
    Reads entries ((name, r) :: settings) (valueIn? entries name convert >>= rest) := by
  intro e
  rw [stops_cons_iff]
  cases found : Tree.get? entries name with
  | none =>
      have readable : ¬Unconvertible entries (name, r) := by
        rintro ⟨v, there, -⟩
        cases found.symm.trans there
      rw [valueIn?_of_none found]
      refine (others none e).trans ?_
      simp [readable]
  | some v =>
      rw [valueIn?_of_some found]
      cases converted : convert v with
      | error e' =>
          have fails := (fails_iff v e').mp converted
          have stuck := unconvertible_of_fails found fails
          constructor
          · intro failed
            cases failed
            exact .inl ⟨v, rfl, fails⟩
          · rintro (⟨_, ⟨⟩, fails'⟩ | ⟨readable, -⟩)
            · rw [fails'.unique fails]
              rfl
            · exact absurd stuck readable
      | ok a =>
          have passes (e' : NumberError) : ¬r.Fails v e' := by
            intro fails
            cases converted.symm.trans ((fails_iff v e').mpr fails)
          have readable : ¬Unconvertible entries (name, r) := by
            intro stuck
            obtain ⟨w, e', there, fails⟩ := stuck.exists_fails
            cases found.symm.trans there
            exact passes e' fails
          refine (others (some a) e).trans ⟨fun stops => .inr ⟨readable, stops⟩, ?_⟩
          rintro (⟨_, ⟨⟩, fails⟩ | ⟨-, stops⟩)
          · exact absurd fails (passes e)
          · exact stops

/-- The values of a section are read in the order of the settings. -/
theorem reads_ofSection (entries : List (Tree × Tree)) :
    Reads entries readings (Proposal.ofSection entries) := by
  have count (v : Tree) (e : NumberError) : v.toInt = .error e ↔ Reading.count.Fails v e := .rfl
  have duration (v : Tree) (e : NumberError) : v.toFloat = .error e ↔ Reading.duration.Fails v e :=
    .rfl
  have name (v : Tree) (e : NumberError) : v.toText = .error e ↔ Reading.name.Fails v e := .rfl
  exact .bind count fun _ => .bind count fun _ => .bind duration fun _ => .bind duration fun _ =>
    .bind name fun _ => .ok _

end

/-! ### Sections -/

section
variable {entries : List (Tree × Tree)}
variable {e : NumberError}

/-- The first setting of a section that cannot be read has a value for which no value error is
reported. -/
def Baffled (entries : List (Tree × Tree)) (e : NumberError) : Prop :=
  ∃ setting v, IsFirst (Unconvertible entries) readings setting ∧
    Tree.get? entries setting.1 = some v ∧ Baffling setting.2 v e

theorem stops_and_not_isValueError_iff :
    Stops entries readings e ∧ ¬e.IsValueError ↔ Baffled entries e := by
  simp only [Stops, Baffled, ← Reading.fails_and_not_isValueError_iff, ← exists_and_right, and_assoc]

/-- The conversions are over before anything is checked. -/
theorem ofSection_eq_number_iff :
    ofSection entries = .error (.number e) ↔ Proposal.ofSection entries = .error e := by
  cases read : Proposal.ofSection entries with
  | error e' =>
      rw [ofSection_of_error read]
      exact ⟨fun failed => SectionError.number.inj (Except.error.inj failed) ▸ rfl,
        fun failed => Except.error.inj failed ▸ rfl⟩
  | ok p =>
      rw [ofSection_of_ok read]
      refine iff_of_false (fun failed => ?_) nofun
      cases checked : p.draft.check with
      | error e' =>
          rw [checked] at failed
          cases failed
      | ok s =>
          rw [checked] at failed
          cases failed

/-- An error other than a value error is one of a conversion. -/
theorem eq_number_of_not_isValueError {e : SectionError} (other : ¬e.IsValueError) :
    ∃ e' : NumberError, e = .number e' ∧ ¬e'.IsValueError := by
  cases e with
  | number e' => exact ⟨e', rfl, other⟩
  | draft | devicesNotList | deviceTwice | documentNotMapping | pipelineNotMapping | brokenText =>
      exact absurd trivial other

theorem ofSection_eq_number_iff_baffled :
    ofSection entries = .error (.number e) ∧ ¬e.IsValueError ↔ Baffled entries e := by
  rw [ofSection_eq_number_iff, reads_ofSection entries, stops_and_not_isValueError_iff]

end

/--
A section gives settings or a value error, unless the first of its values that cannot be read is no
number where there has to be one, is an infinite count, is a duration that is too large for a
floating-point number, or is a name that is too deep.  These are the only errors of a section that
are no value errors.
-/
theorem fails_beyond_values_iff (entries : List (Tree × Tree)) :
    (((∃ s, ofSection entries = .ok s) ∨ ∃ e, ofSection entries = .error e ∧ e.IsValueError) ↔
      ¬∃ e, Baffled entries e) ∧
    ∀ e : SectionError, ofSection entries = .error e ∧ ¬e.IsValueError ↔
      ∃ e', e = .number e' ∧ Baffled entries e' := by
  have beyond_iff (e : SectionError) : ofSection entries = .error e ∧ ¬e.IsValueError ↔
      ∃ e', e = .number e' ∧ Baffled entries e' := by
    simp only [← ofSection_eq_number_iff_baffled]
    constructor
    · rintro ⟨failed, other⟩
      obtain ⟨e', rfl, other⟩ := eq_number_of_not_isValueError other
      exact ⟨e', rfl, failed, other⟩
    · rintro ⟨e', rfl, failed, other⟩
      exact ⟨failed, other⟩
  refine ⟨?_, beyond_iff⟩
  constructor
  · rintro proper ⟨e, baffled⟩
    obtain ⟨failed, other⟩ := (beyond_iff _).mpr ⟨e, rfl, baffled⟩
    rcases proper with ⟨s, accepted⟩ | ⟨e', failed', proper⟩
    · cases failed.symm.trans accepted
    · cases failed.symm.trans failed'
      exact other proper
  · intro clear
    cases read : ofSection entries with
    | ok s => exact .inl ⟨s, rfl⟩
    | error e =>
        refine .inr ⟨e, rfl, Classical.byContradiction fun other => clear ?_⟩
        obtain ⟨e', -, baffled⟩ := (beyond_iff e).mp ⟨read, other⟩
        exact ⟨e', baffled⟩

/-- An option that is left blank in the section is no value error. -/
theorem blank_not_isValueError :
    ¬((∃ s, ofSection [(.ofString "qq_table", .null)] = .ok s) ∨
      ∃ e, ofSection [(.ofString "qq_table", .null)] = .error e ∧ e.IsValueError) := by
  have failed : ofSection [(.ofString "qq_table", .null)] = .error (.number .notNumeric) := rfl
  rw [failed]
  rintro (⟨s, ⟨⟩⟩ | ⟨e, ⟨⟩, proper⟩)
  exact proper

end Settings
end LineTerminal
