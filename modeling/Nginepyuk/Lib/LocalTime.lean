/-
  Instants, local time zones and elapsed days.

  An instant is a number of microseconds since the epoch. A `Zone` is an arbitrary offset
  function (local time minus universal time at an instant), with the instant at which each
  local day starts. The offset may change at any instant, by any amount, any number of
  times. `date_midnight` is the one law: the local calendar date at the start of day `d` is
  `d`. So every local day must have a first instant; an offset that skips a whole day has no
  `Zone`.

  `inDays` truncates an elapsed time toward zero, in periods of exactly 24 hours.
  `elapsed_eq_days_iff`: the elapsed days between two midnights are the calendar days
  between them exactly when the offset at which the later day starts is not above the one
  at which the earlier day starts (and less than a day below it): `DaysKept`.
  `date_addDay_iff` is the same question for "24 hours from now".
-/
import Mathlib.Algebra.Order.Group.Int

namespace Lib.LocalTime

/-- `Duration.microsecondsPerDay`. -/
def microsecondsPerDay : Int := 86400000000

/-- A local time zone. `offset` is any function; `midnight d` is the instant at which the
    local day number `d` starts. -/
structure Zone where
  offset : Int → Int
  midnight : Int → Int
  date_midnight : ∀ d, (midnight d + offset (midnight d)) / microsecondsPerDay = d

/-- The local calendar day of an instant. -/
def Zone.localDate (z : Zone) (t : Int) : Int := (t + z.offset t) / microsecondsPerDay

/-- The local time since the local midnight of the day, by the clock on the wall. -/
def Zone.timeOfDay (z : Zone) (t : Int) : Int := (t + z.offset t) % microsecondsPerDay

/-- The offset at which local day `d` starts: how far its first instant lies before the
    universal midnight of `d`. Where the clock shows 00:00 at that instant, this is the
    offset in force there. -/
def Zone.startOffset (z : Zone) (d : Int) : Int := d * microsecondsPerDay - z.midnight d

/-- `Duration.inDays`: whole 24-hour periods, truncated toward zero. -/
def inDays (elapsed : Int) : Int := elapsed.tdiv microsecondsPerDay

@[simp] theorem Zone.localDate_midnight (z : Zone) (d : Int) : z.localDate (z.midnight d) = d :=
  z.date_midnight d

theorem Zone.midnight_sub (z : Zone) (a b : Int) :
    z.midnight b - z.midnight a =
      (b - a) * microsecondsPerDay - (z.startOffset b - z.startOffset a) := by
  unfold Zone.startOffset
  rw [Int.sub_mul]
  omega

/-- No whole day is lost or gained between the starts of days `a` and `b`: the later of the
    two does not start at a higher offset, nor at one lower by a day or more. -/
def Zone.DaysKept (z : Zone) (a b : Int) : Prop :=
  (a < b → z.startOffset b ≤ z.startOffset a ∧
    z.startOffset a - z.startOffset b < microsecondsPerDay) ∧
  (b < a → z.startOffset a ≤ z.startOffset b ∧
    z.startOffset b - z.startOffset a < microsecondsPerDay)

instance (z : Zone) (a b : Int) : Decidable (z.DaysKept a b) :=
  inferInstanceAs (Decidable (_ ∧ _))

/-- Truncation toward zero of `n` whole days and a remainder `r`. -/
theorem inDays_eq_iff (n r : Int) :
    inDays (n * microsecondsPerDay + r) = n ↔
      (0 < n → 0 ≤ r ∧ r < microsecondsPerDay) ∧
      (n < 0 → -microsecondsPerDay < r ∧ r ≤ 0) ∧
      (n = 0 → -microsecondsPerDay < r ∧ r < microsecondsPerDay) := by
  unfold inDays microsecondsPerDay
  rcases Int.le_total 0 (n * 86400000000 + r) with h | h
  · rw [Int.tdiv_eq_ediv_of_nonneg h]
    omega
  · rw [← Int.neg_neg (n * 86400000000 + r), Int.neg_tdiv,
      Int.tdiv_eq_ediv_of_nonneg (by omega)]
    omega

/-- The elapsed days between two local midnights are the calendar days between them exactly
    when `DaysKept`. -/
theorem Zone.elapsed_eq_days_iff (z : Zone) (a b : Int) :
    inDays (z.midnight b - z.midnight a) = b - a ↔ z.DaysKept a b := by
  rw [z.midnight_sub a b, Int.sub_eq_add_neg, inDays_eq_iff]
  unfold Zone.DaysKept microsecondsPerDay
  have h0 : b - a = 0 → z.startOffset b = z.startOffset a := by
    intro h
    rw [show b = a by omega]
  omega

/-- The clock reading `t'` plus 24 hours falls on the day after the local date of the
    reading `t` exactly when the time of day at `t`, the time between the two readings and
    the change of offset in between add up to less than a day. -/
theorem Zone.date_addDay_iff (z : Zone) (t t' : Int) :
    z.localDate (t' + microsecondsPerDay) = z.localDate t + 1 ↔
      0 ≤ z.timeOfDay t + (t' - t) +
          (z.offset (t' + microsecondsPerDay) - z.offset t) ∧
        z.timeOfDay t + (t' - t) +
          (z.offset (t' + microsecondsPerDay) - z.offset t) < microsecondsPerDay := by
  unfold Zone.localDate Zone.timeOfDay microsecondsPerDay
  omega

/-- The zone of constant offset `c`. -/
def Zone.fixed (c : Int) : Zone where
  offset := fun _ => c
  midnight := fun d => d * microsecondsPerDay - c
  date_midnight := by
    intro d
    rw [Int.sub_add_cancel]
    exact Int.mul_ediv_cancel d (by decide)

theorem Zone.fixed_startOffset (c d : Int) : (Zone.fixed c).startOffset d = c := by
  simp only [Zone.startOffset, Zone.fixed]
  omega

theorem Zone.fixed_daysKept (c a b : Int) : (Zone.fixed c).DaysKept a b := by
  unfold Zone.DaysKept microsecondsPerDay
  rw [Zone.fixed_startOffset, Zone.fixed_startOffset]
  omega

end Lib.LocalTime
