/-
  Calendar dates (proleptic Gregorian) and day numbers.

  A day is the number of days since 1970-01-01, an integer. `CivilDate.ofDays` gives the
  year, month and day of the month of a day number; `CivilDate.toDays` goes back.
  `toDays_ofDays`: reading a printed date gives the day that was printed, for every day.

  Years are counted from March inside a 400-year era of 146097 days, so that the leap day
  is the last day of its year. The era splits into centuries of 36524 days, these into
  4-year groups of 1461 days, and these into years of 365 days; the last century of an era
  and the last year of a group are one day longer, hence the `min 3`.
-/
import Mathlib.Algebra.Order.Group.Int
import Mathlib.Algebra.Order.Group.Basic

namespace Lib.Civil

/-- A date as printed by the pattern `yyyy-MM-dd`: its three numbers. -/
structure CivilDate where
  year : Int
  month : Int
  day : Int
deriving DecidableEq, Repr

/-- The era, the year of the era (from March) and the day of that year, of a day number. -/
def eraSplit (z : Int) : Int × Int × Int :=
  let n := z + 719468
  let era := n / 146097
  let doe := n % 146097
  let century := min 3 (doe / 36524)
  let r := doe - century * 36524
  let group := r / 1461
  let r' := r % 1461
  let y := min 3 (r' / 365)
  (era, 100 * century + 4 * group + y, r' - 365 * y)

/-- The date of day `doy` of year `yoe` (from March) of an era. -/
def CivilDate.ofMarch (era yoe doy : Int) : CivilDate :=
  let mp := (5 * doy + 2) / 153
  let month := if mp < 10 then mp + 3 else mp - 9
  { year := 400 * era + yoe + (if month ≤ 2 then 1 else 0)
    month := month
    day := doy - (153 * mp + 2) / 5 + 1 }

/-- The date of day number `z`. -/
def CivilDate.ofDays (z : Int) : CivilDate :=
  CivilDate.ofMarch (eraSplit z).1 (eraSplit z).2.1 (eraSplit z).2.2

/-- The day number of a date. -/
def CivilDate.toDays (c : CivilDate) : Int :=
  let y := c.year - (if c.month ≤ 2 then 1 else 0)
  let era := y / 400
  let yoe := y % 400
  let mp := if c.month > 2 then c.month - 3 else c.month + 9
  era * 146097 + (yoe * 365 + yoe / 4 - yoe / 100 + (153 * mp + 2) / 5 + c.day - 1) - 719468

theorem eraSplit_bounds (z : Int) :
    0 ≤ (eraSplit z).2.1 ∧ (eraSplit z).2.1 < 400 ∧
      0 ≤ (eraSplit z).2.2 ∧ (eraSplit z).2.2 ≤ 365 := by
  simp only [eraSplit]
  omega

/-- The leap days before a year of the era, from the century, the group and the year. -/
theorem leapDays_eq (c q y : Int) (hq0 : 0 ≤ q) (hq1 : q ≤ 24) (hy0 : 0 ≤ y) (hy1 : y ≤ 3) :
    (100 * c + 4 * q + y) / 4 - (100 * c + 4 * q + y) / 100 = 24 * c + q := by
  omega

/-- The split loses nothing: the year and the day of the year add up to the day number. -/
theorem eraSplit_sum (z : Int) :
    (eraSplit z).1 * 146097 + ((eraSplit z).2.1 * 365 + ((eraSplit z).2.1 / 4 -
      (eraSplit z).2.1 / 100) + (eraSplit z).2.2) - 719468 = z := by
  simp only [eraSplit]
  rw [leapDays_eq _ _ _ (by omega) (by omega) (by omega) (by omega)]
  omega

theorem toDays_ofMarch (era yoe doy : Int) (hy0 : 0 ≤ yoe) (hy1 : yoe < 400)
    (hd0 : 0 ≤ doy) (hd1 : doy ≤ 365) :
    (CivilDate.ofMarch era yoe doy).toDays =
      era * 146097 + (yoe * 365 + (yoe / 4 - yoe / 100) + doy) - 719468 := by
  -- The month is counted from March and back; the two numberings undo each other.
  have hm0 : 0 ≤ (5 * doy + 2) / 153 := by omega
  have hm1 : (5 * doy + 2) / 153 ≤ 11 := by omega
  by_cases hm : (5 * doy + 2) / 153 < 10
  · have hj : ¬ (5 * doy + 2) / 153 + 3 ≤ 2 := by omega
    have he : (400 * era + yoe) / 400 = era := by omega
    have hr : (400 * era + yoe) % 400 = yoe := by omega
    simp only [CivilDate.ofMarch, CivilDate.toDays, if_pos hm, if_neg hj, gt_iff_lt,
      if_pos (not_le.mp hj), add_zero, sub_zero, he, hr, add_sub_cancel_right]
    omega
  · have hj : (5 * doy + 2) / 153 - 9 ≤ 2 := by omega
    have he : (400 * era + yoe) / 400 = era := by omega
    have hr : (400 * era + yoe) % 400 = yoe := by omega
    simp only [CivilDate.ofMarch, CivilDate.toDays, if_neg hm, if_pos hj, gt_iff_lt,
      if_neg (not_lt.mpr hj), add_sub_cancel_right, he, hr, sub_add_cancel]
    omega

/-- A printed date reads back as the day it was printed from. -/
theorem toDays_ofDays (z : Int) : (CivilDate.ofDays z).toDays = z := by
  obtain ⟨hy0, hy1, hd0, hd1⟩ := eraSplit_bounds z
  unfold CivilDate.ofDays
  rw [toDays_ofMarch _ _ _ hy0 hy1 hd0 hd1]
  exact eraSplit_sum z

example : CivilDate.ofDays 19782 = ⟨2024, 2, 29⟩ := by decide

end Lib.Civil
