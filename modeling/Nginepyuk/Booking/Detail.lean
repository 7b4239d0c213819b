/-
  `lib/pages/booking_detail_page.dart`: the booking form.

  The state keeps the two date texts, the four text fields and the counter `night`. Three
  code paths write them: `initState`, which reads the clock twice and sets `night` to 1, and
  the two picker handlers, each of which writes its own text and recomputes `night` from the
  picked instant and the other text. A handler runs when its picker completes and reads the
  other text then, so pickers that overlap are covered by the order of their completions.
-/
import Nginepyuk.Booking.PaymentMethod

namespace Nginepyuk.Booking

open Lib.Trace Lib.Civil Lib.LocalTime

/-- The constructor arguments of `BookingDetail`. -/
structure BookingDetail where
  docId : String
  title : String
  price : Int64
  photo : String
deriving DecidableEq, Repr

/-- `_BookingDetailState`. -/
structure DetailState where
  checkInController : CivilDate
  checkOutController : CivilDate
  fullNameController : String
  fullNameTamuController : String
  emailController : String
  phoneNumberController : String
  night : Int
deriving DecidableEq, Repr

/-- `initState`, with the two readings of `DateTime.now()`. -/
def initState (z : Zone) (now now' : Int) : DetailState where
  checkInController := format z now
  checkOutController := format z (now' + microsecondsPerDay)
  fullNameController := ""
  fullNameTamuController := ""
  emailController := ""
  phoneNumberController := ""
  night := 1

/-! ## The pickers -/

/-- `DateTime(2000)`, as a day number. -/
def firstDate : Int := CivilDate.toDays ⟨2000, 1, 1⟩

/-- `DateTime(2101)`, as a day number. -/
def lastDate : Int := CivilDate.toDays ⟨2101, 1, 1⟩

/-- A date that `showDatePicker` can return. -/
structure PickerDate where
  day : Int
  first_le : firstDate ≤ day
  le_last : day ≤ lastDate
deriving DecidableEq, Repr

/-- The check-in handler after its `await`. -/
def checkInOnTap (z : Zone) (s : DetailState) : Option Int → DetailState
  | none => s
  | some pickedDate =>
      let formattedDate := format z pickedDate
      let checkOut := parse z s.checkOutController
      { s with checkInController := formattedDate, night := inDays (checkOut - pickedDate) }

/-- The check-out handler after its `await`. -/
def checkOutOnTap (z : Zone) (s : DetailState) : Option Int → DetailState
  | none => s
  | some pickedDate =>
      let formattedDate := format z pickedDate
      let checkIn := parse z s.checkInController
      { s with night := inDays (pickedDate - checkIn), checkOutController := formattedDate }

/-- What the user does on the form: a picker completes (with a date or cancelled), or a text
    field is edited. -/
inductive FormEvent where
  | checkIn (picked : Option PickerDate)
  | checkOut (picked : Option PickerDate)
  | fullName (text : String)
  | fullNameTamu (text : String)
  | email (text : String)
  | phoneNumber (text : String)
deriving DecidableEq, Repr

/-- One event. The picker returns local midnight of the chosen date. -/
def formStep (z : Zone) (s : DetailState) : FormEvent → DetailState
  | .checkIn picked => checkInOnTap z s (picked.map fun p => z.midnight p.day)
  | .checkOut picked => checkOutOnTap z s (picked.map fun p => z.midnight p.day)
  | .fullName text => { s with fullNameController := text }
  | .fullNameTamu text => { s with fullNameTamuController := text }
  | .email text => { s with emailController := text }
  | .phoneNumber text => { s with phoneNumberController := text }

/-! ## The rest of the page -/

/-- `hotelDetail`, the two date fields and the footer. The page prints no number of nights. -/
def BookingDetail.screen (w : BookingDetail) (s : DetailState) : Screen where
  amounts := [("/night", w.price), ("Total Price", w.price * Int64.ofInt s.night)]
  stay := some (.ymd s.checkInController, .ymd s.checkOutController)
  night := none

/-- `onPressed` of the button Next: the text of the snack bar, or the pushed page. -/
def nextOnPressed (w : BookingDetail) (s : DetailState) : Except String PaymentMethod :=
  if s.fullNameController.isEmpty || s.emailController.isEmpty ||
      s.phoneNumberController.isEmpty || s.fullNameTamuController.isEmpty then
    .error "Fill all the field"
  else
    .ok {
      checkIn := s.checkInController
      checkOut := s.checkOutController
      night := s.night
      fullName := s.fullNameController
      emailAddress := s.emailController
      phoneNumber := s.phoneNumberController
      fullNameTamu := s.fullNameTamuController
      title := w.title
      photo := w.photo
      price := w.price
      hotelDocId := w.docId }

/-- What a pressed Next button carries over. -/
theorem nextOnPressed_ok {b : BookingDetail} {s : DetailState} {w : PaymentMethod}
    (h : nextOnPressed b s = .ok w) :
    w.checkIn = s.checkInController ∧ w.checkOut = s.checkOutController ∧
      w.night = s.night ∧ w.price = b.price := by
  unfold nextOnPressed at h
  split at h
  · exact nomatch h
  · obtain rfl := Except.ok.inj h
    exact ⟨rfl, rfl, rfl, rfl⟩

/-- The two date texts are always printed dates. -/
def PrintedDates (s : DetailState) : Prop :=
  Printed s.checkInController ∧ Printed s.checkOutController

theorem printedDates_initState (z : Zone) (now now' : Int) :
    PrintedDates (initState z now now') :=
  ⟨printed_format _ _, printed_format _ _⟩

theorem printedDates_step (z : Zone) (s : DetailState) (e : FormEvent) (h : PrintedDates s) :
    PrintedDates (formStep z s e) := by
  cases e with
  | checkIn picked =>
      cases picked with
      | none => exact h
      | some p => exact ⟨printed_format _ _, h.2⟩
  | checkOut picked =>
      cases picked with
      | none => exact h
      | some p => exact ⟨h.1, printed_format _ _⟩
  | fullName text => exact h
  | fullNameTamu text => exact h
  | email text => exact h
  | phoneNumber text => exact h

/-- In every reachable state of the form the date texts are printed dates. -/
theorem printedDates_run (z : Zone) (now now' : Int) (es : List FormEvent) :
    PrintedDates (run (formStep z) (initState z now now') es) :=
  inv_run_all (printedDates_step z) _ es (printedDates_initState z now now')

end Nginepyuk.Booking
