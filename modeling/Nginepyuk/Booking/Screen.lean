/-
  What the booking and order screens print: dates, labelled amounts and the number of nights.

  The text of a date field is `DateFormat('yyyy-MM-dd')`, kept here as its three numbers
  (`CivilDate`). `parse` is `DateTime.parse` on such a text: local midnight of the date.
  A `Screen` keeps each amount with the label printed next to it, because the same widget
  parameter (`price`) stands under different labels on different screens.
-/
import Nginepyuk.Lib.Civil
import Nginepyuk.Lib.LocalTime

namespace Nginepyuk.Booking

open Lib.Civil Lib.LocalTime

/-- `DateFormat('yyyy-MM-dd').format`: the local calendar date of an instant. -/
def format (z : Zone) (t : Int) : CivilDate := CivilDate.ofDays (z.localDate t)

/-- `DateTime.parse` of a `yyyy-MM-dd` text: local midnight of that date. -/
def parse (z : Zone) (text : CivilDate) : Int := z.midnight text.toDays

@[simp] theorem format_toDays (z : Zone) (t : Int) : (format z t).toDays = z.localDate t :=
  toDays_ofDays _

@[simp] theorem format_midnight (z : Zone) (d : Int) :
    format z (z.midnight d) = CivilDate.ofDays d := by
  unfold format
  rw [z.localDate_midnight]

/-- A date printed by `DateFormat('E, d MMM yyyy')`. The day of the week counts from
    Monday = 0. -/
structure LongDate where
  weekday : Int
  date : CivilDate
deriving DecidableEq, Repr

/-- `DateFormat('E, d MMM yyyy').format`. -/
def formatLong (z : Zone) (t : Int) : LongDate :=
  ⟨(z.localDate t + 3) % 7, CivilDate.ofDays (z.localDate t)⟩

/-- A date as it stands on a screen, in one of the two patterns the pages use. -/
inductive ShownDate where
  | ymd (text : CivilDate)
  | long (text : LongDate)
deriving DecidableEq, Repr

/-- The calendar date a reader sees. -/
def ShownDate.date : ShownDate → CivilDate
  | .ymd text => text
  | .long text => text.date

/-- The booking figures printed on one screen. `amounts` pairs each label with the amount
    printed beside it; a screen that prints no dates or no nights has `none` there. -/
structure Screen where
  amounts : List (String × Int64)
  stay : Option (ShownDate × ShownDate)
  night : Option Int
deriving DecidableEq, Repr

/-- A text that `DateFormat` printed, for some day. -/
def Printed (text : CivilDate) : Prop := ∃ d, text = CivilDate.ofDays d

theorem printed_format (z : Zone) (t : Int) : Printed (format z t) := ⟨_, rfl⟩

/-- Re-reading a printed text and printing it in the long pattern keeps the date. -/
theorem formatLong_parse_date (z : Zone) (text : CivilDate) (h : Printed text) :
    (formatLong z (parse z text)).date = text := by
  obtain ⟨d, rfl⟩ := h
  simp only [formatLong, parse, toDays_ofDays, z.localDate_midnight]

end Nginepyuk.Booking
