/-
  `night` against the two dates on the form.

  `NightMatches` says that `night` is the number of calendar days from the check-in text to
  the check-out text. The form measures elapsed 24-hour periods between local midnights, and
  `initState` sets 1 next to "24 hours from now", so the two agree only where no whole day
  is lost or gained: `night_matches_iff` gives the exact condition, on the clock readings and
  on the zone at the two dates of each pick. `night_wrong_over_spring_change` is a run where
  they differ: two picks around a change of offset by one hour.
-/
import Nginepyuk.Booking.Detail

namespace Nginepyuk.Booking

open Lib.Trace Lib.Civil Lib.LocalTime

/-- `night` is the number of calendar days between the two date texts. -/
def NightMatches (s : DetailState) : Prop :=
  s.night = s.checkOutController.toDays - s.checkInController.toDays

instance (s : DetailState) : Decidable (NightMatches s) :=
  inferInstanceAs (Decidable (_ = _))

/-- The time of day at the first reading, the time up to the second reading and the change
    of offset until 24 hours after it add up to a time of the same day. -/
def StartsWithinDay (z : Zone) (now now' : Int) : Prop :=
  0 ≤ z.timeOfDay now + (now' - now) +
      (z.offset (now' + microsecondsPerDay) - z.offset now) ∧
    z.timeOfDay now + (now' - now) +
      (z.offset (now' + microsecondsPerDay) - z.offset now) < microsecondsPerDay

/-- A pick whose date and the date in the other field keep whole days between them. -/
def PickKeepsDays (z : Zone) (s : DetailState) : FormEvent → Prop
  | .checkIn (some p) => z.DaysKept p.day s.checkOutController.toDays
  | .checkOut (some p) => z.DaysKept s.checkInController.toDays p.day
  | _ => True

theorem nightMatches_initState_iff (z : Zone) (now now' : Int) :
    NightMatches (initState z now now') ↔ StartsWithinDay z now now' := by
  unfold StartsWithinDay
  rw [← z.date_addDay_iff now now']
  simp only [NightMatches, initState, format_toDays]
  omega

/-- A check-in pick leaves the counter right exactly when whole days are kept. -/
theorem nightMatches_checkIn_iff (z : Zone) (s : DetailState) (p : PickerDate) :
    NightMatches (formStep z s (.checkIn (some p))) ↔
      z.DaysKept p.day s.checkOutController.toDays := by
  rw [← z.elapsed_eq_days_iff]
  simp only [NightMatches, formStep, checkInOnTap, Option.map_some, parse, format_midnight,
    toDays_ofDays]

theorem nightMatches_checkOut_iff (z : Zone) (s : DetailState) (p : PickerDate) :
    NightMatches (formStep z s (.checkOut (some p))) ↔
      z.DaysKept s.checkInController.toDays p.day := by
  rw [← z.elapsed_eq_days_iff]
  simp only [NightMatches, formStep, checkOutOnTap, Option.map_some, parse, format_midnight,
    toDays_ofDays]

/-- One event. A pick overwrites `night`, so what it leaves does not depend on the counter
    before it; everything else keeps the counter and both dates. -/
theorem nightMatches_step_iff (z : Zone) (s : DetailState) (e : FormEvent)
    (h : NightMatches s) : NightMatches (formStep z s e) ↔ PickKeepsDays z s e := by
  cases e with
  | checkIn picked =>
      cases picked with
      | none => exact iff_of_true h trivial
      | some p => exact nightMatches_checkIn_iff z s p
  | checkOut picked =>
      cases picked with
      | none => exact iff_of_true h trivial
      | some p => exact nightMatches_checkOut_iff z s p
  | fullName text => exact iff_of_true h trivial
  | fullNameTamu text => exact iff_of_true h trivial
  | email text => exact iff_of_true h trivial
  | phoneNumber text => exact iff_of_true h trivial

/-- **Nights and dates.** In every state of a run of the form the counter matches the two
    dates exactly when `initState` ran well inside a day and every completed pick keeps whole
    days between the picked date and the date in the other field. -/
theorem night_matches_iff (z : Zone) (now now' : Int) (es : List FormEvent) :
    Always (formStep z) NightMatches (initState z now now') es ↔
      StartsWithinDay z now now' ∧
        AllSteps (formStep z) (PickKeepsDays z) (initState z now now') es := by
  have hiff : NightMatches (initState z now now') →
      (Always (formStep z) NightMatches (initState z now now') es ↔
        AllSteps (formStep z) (PickKeepsDays z) (initState z now now') es) := by
    intro h0
    exact always_iff_allSteps (I := fun _ => True) (fun _ _ _ => trivial)
      (fun s e _ hq => nightMatches_step_iff z s e hq) _ es trivial h0
  rw [← nightMatches_initState_iff]
  constructor
  · intro h
    have h0 : NightMatches (initState z now now') := h [] List.nil_prefix
    exact ⟨h0, (hiff h0).mp h⟩
  · rintro ⟨h0, h⟩
    exact (hiff h0).mpr h

/-- One hour ahead of universal time until 2023-03-26 01:00 universal time, two hours ahead
    from then on. -/
def springZone : Zone where
  offset := fun t => if t < 1679792400000000 then 3600000000 else 7200000000
  midnight := fun d =>
    if d ≤ 19442 then d * 86400000000 - 3600000000 else d * 86400000000 - 7200000000
  date_midnight := by
    intro d
    unfold microsecondsPerDay
    by_cases h : d ≤ 19442
    · rw [if_pos h, if_pos (by omega)]
      omega
    · rw [if_neg h, if_neg (by omega)]
      omega

/-- A form opened on 2023-03-01; check-in 2023-03-26 and check-out 2023-03-27 are picked.
    The 26th has 23 hours, so `night` becomes 0. -/
theorem night_wrong_over_spring_change :
    ¬ ∀ (z : Zone) (now now' : Int) (es : List FormEvent), now ≤ now' →
      NightMatches (run (formStep z) (initState z now now') es) := by
  intro h
  have hbad := h springZone 1677672000000000 1677672000000000
    [.checkIn (some ⟨19442, by decide, by decide⟩),
      .checkOut (some ⟨19443, by decide, by decide⟩)] (by decide)
  revert hbad
  decide

end Nginepyuk.Booking
