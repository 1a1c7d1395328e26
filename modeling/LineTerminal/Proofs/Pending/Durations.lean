import LineTerminal.Proofs.Binary64.Order
import LineTerminal.Proofs.Pending.Usage
import LineTerminal.Proofs.Session.Verdict
import LineTerminal.Settings.Section

/-!
# Durations that bound a wait

Settings refuse durations that are at most zero.  What is no number is not refused, as it
compares with nothing.  A duration of settings that is a number is positive, and every
request that is made at a finite time expires in a sweep that comes late enough.  If the
time to live is no number, no sweep ever lets a request expire.
-/

namespace LineTerminal
namespace Usage
variable {ο : Type} {t : Tracker ο Float} {r : Request ο Float} {now : Float}

/-- A sweep is answered with a request, among others. -/
def Reports (t : Tracker ο Float) (now : Float) (r : Request ο Float) : Prop :=
  ∃ rs, ((Call.expire : Call ο).outcome t now).reply = .requests rs ∧ r ∈ rs

/-- A sweep reports the live requests whose time has elapsed. -/
theorem reports_iff : Reports t now r ↔ r ∈ t.live ∧ t.timeToLive ≤ now - r.createdAt := by
  rw [← Tracker.Due, ← Tracker.mem_due]
  constructor
  · rintro ⟨rs, answer, member⟩
    cases answer
    exact member
  · exact fun member => ⟨t.due now, rfl, member⟩

/-- A sweep at infinity reports all requests, if the time to live is a number. -/
theorem reports_infinity
    (number : t.timeToLive.isNaN = false)
    (live : r ∈ t.live)
    (bounded : r.createdAt.isFinite = true) :
    Reports t (r.createdAt + Binary64.infinity) r := by
  rw [reports_iff, Binary64.add_infinity bounded, Binary64.infinity_sub bounded]
  exact ⟨live, Binary64.le_infinity number⟩

/-- No sweep reports anything if the time to live is no number. -/
theorem not_reports_of_isNaN (none : t.timeToLive.isNaN = true) : ¬Reports t now r :=
  fun reported => Binary64.not_le_of_isNaN none _ (reports_iff.1 reported).2

end Usage

namespace Settings
open Usage

/-- With the time to live of settings there is always a tracker. -/
theorem ofTimeToLive_eq_ok (s : Settings) (ο : Type) :
    Tracker.ofTimeToLive s.timeToLive = .ok ({ timeToLive := s.timeToLive } : Tracker ο Float) :=
  if_neg s.timeToLive_pos

/--
The durations of settings are positive exactly when they are numbers.  In a tracker with the
time to live of settings, a request that was made at a finite time is reported by a sweep
after some time, which may be infinite, if the time to live is a number; otherwise no sweep
reports it.
-/
theorem wait_bounded_iff
    (s : Settings)
    {ο : Type} :
    (0 < s.timeToLive ↔ s.timeToLive.isNaN = false) ∧
    (0 < s.sweepInterval ↔ s.sweepInterval.isNaN = false) ∧
    (∃ t : Tracker ο Float, Tracker.ofTimeToLive s.timeToLive = .ok t) ∧
    ∀ t : Tracker ο Float, t.timeToLive = s.timeToLive →
      ∀ r ∈ t.live, r.createdAt.isFinite = true →
        (s.timeToLive.isNaN = false → ∃ elapsed, Reports t (r.createdAt + elapsed) r) ∧
        (s.timeToLive.isNaN = true → ∀ now, ¬Reports t now r) := by
  refine ⟨Binary64.pos_iff_of_not_le_zero s.timeToLive_pos,
    Binary64.pos_iff_of_not_le_zero s.sweepInterval_pos, ⟨_, s.ofTimeToLive_eq_ok ο⟩, ?_⟩
  intro t same r live bounded
  rw [← same]
  exact ⟨fun number => ⟨Binary64.infinity, reports_infinity number live bounded⟩,
    fun none now => not_reports_of_isNaN none⟩

theorem wait_bounded_iff_usual :
    ∃ t : Tracker String Float,
      Tracker.ofTimeToLive Session.usualSettings.timeToLive = .ok t ∧
        0 < Session.usualSettings.timeToLive ∧ 0 < Session.usualSettings.sweepInterval ∧
        ∃ r ∈ (t.put ⟨[1]⟩ "a" 5).live, ∃ elapsed,
          Reports (t.put ⟨[1]⟩ "a" 5) (r.createdAt + elapsed) r := by
  obtain ⟨waits, pauses, -, bounded⟩ := wait_bounded_iff Session.usualSettings (ο := String)
  refine ⟨_, ofTimeToLive_eq_ok _ _, waits.2 rfl, pauses.2 rfl, _, List.mem_singleton_self _, ?_⟩
  exact (bounded _ rfl _ (List.mem_singleton_self _) rfl).1 rfl

/-- A time to live that is no number passes the check, also from a section.  It is not
positive, and a request that is made with it never expires. -/
theorem notNumber_never_expires :
    ∃ s : Settings, ({ timeToLive := Binary64.notNumber } : Draft).check = .ok s ∧
      ofSection [(.ofString "pending_group_ttl", .float Binary64.notNumber)] = .ok s ∧
      ¬0 < s.timeToLive ∧
      ∃ t : Tracker String Float, Tracker.ofTimeToLive s.timeToLive = .ok t ∧
        ∃ r ∈ (t.put ⟨[1]⟩ "a" 0).live, r.createdAt.isFinite = true ∧
          ∀ now, ¬Reports (t.put ⟨[1]⟩ "a" 0) now r := by
  have none := Binary64.isNaN_notNumber
  let s : Settings :=
    { Session.usualSettings with
      timeToLive := Binary64.notNumber
      timeToLive_pos := Binary64.not_le_of_isNaN none 0 }
  have accepted : ({ timeToLive := Binary64.notNumber } : Draft).check = .ok s :=
    Draft.check_eq_ok_iff.2 rfl
  have proposed :
      Proposal.ofSection [(.ofString "pending_group_ttl", .float Binary64.notNumber)] =
        .ok { timeToLive := some Binary64.notNumber } := rfl
  have finite : (0 : Float).isFinite = true := rfl
  refine ⟨s, accepted, ?_, fun positive => ?_, _, s.ofTimeToLive_eq_ok _, _,
    List.mem_singleton_self _, finite, fun now => not_reports_of_isNaN none⟩
  · rw [ofSection, proposed]
    exact congrArg (Except.mapError SectionError.draft) accepted
  · cases (Binary64.isNaN_of_pos positive).symm.trans none

end Settings
end LineTerminal
