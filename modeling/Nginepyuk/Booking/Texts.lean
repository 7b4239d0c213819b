/-
  The booking form with the texts that its date fields hold.

  `Booking.Detail` keeps a date text as its three numbers. Here the fields are texts, printed
  by `DateFormat('yyyy-MM-dd')` and read by `DateTime.parse`, which may throw; the handlers
  parse before they call `setState`, so a throw changes nothing. For every sequence of events
  the two forms agree, no handler throws and the texts read back as the dates they stand for, if
  and only if the two dates of `initState` have years that the pattern can carry
  (`texts_refine_iff`).
-/
import Nginepyuk.Lib.DateText
import Nginepyuk.Lib.Simulation
import Nginepyuk.Booking.Detail

namespace Nginepyuk.Booking

open Lib.Trace Lib.Civil Lib.LocalTime Lib.DateText

structure FormatException where
  message : String
  source : String
deriving DecidableEq, Repr

/-- `DateFormat('yyyy-MM-dd').format`, as a text. -/
def formatText (z : Zone) (t : Int) : String := text (format z t)

/-- `DateTime.parse` of a text without a time of day. -/
def parseText (z : Zone) (formattedString : String) : Except FormatException Int :=
  match read formattedString with
  | some date => .ok (parse z date)
  | none => .error ⟨"Invalid date format", formattedString⟩

/-- `_BookingDetailState`, with the texts of its six fields. -/
structure TextState where
  checkInController : String
  checkOutController : String
  fullNameController : String
  fullNameTamuController : String
  emailController : String
  phoneNumberController : String
  night : Int
deriving DecidableEq, Repr

def TextState.initState (z : Zone) (now now' : Int) : TextState where
  checkInController := formatText z now
  checkOutController := formatText z (now' + microsecondsPerDay)
  fullNameController := ""
  fullNameTamuController := ""
  emailController := ""
  phoneNumberController := ""
  night := 1

def TextState.checkInOnTap (z : Zone) (s : TextState) :
    Option Int → Except FormatException TextState
  | none => .ok s
  | some pickedDate => do
      let formattedDate := formatText z pickedDate
      let checkOut ← parseText z s.checkOutController
      return { s with checkInController := formattedDate, night := inDays (checkOut - pickedDate) }

def TextState.checkOutOnTap (z : Zone) (s : TextState) :
    Option Int → Except FormatException TextState
  | none => .ok s
  | some pickedDate => do
      let formattedDate := formatText z pickedDate
      let checkIn ← parseText z s.checkInController
      return { s with night := inDays (pickedDate - checkIn), checkOutController := formattedDate }

def textStep (z : Zone) (s : TextState) : FormEvent → Except FormatException TextState
  | .checkIn picked => s.checkInOnTap z (picked.map fun p => z.midnight p.day)
  | .checkOut picked => s.checkOutOnTap z (picked.map fun p => z.midnight p.day)
  | .fullName text => .ok { s with fullNameController := text }
  | .fullNameTamu text => .ok { s with fullNameTamuController := text }
  | .email text => .ok { s with emailController := text }
  | .phoneNumber text => .ok { s with phoneNumberController := text }

/-! ## The two forms agree -/

/-- The texts of a form. -/
def DetailState.texts (s : DetailState) : TextState where
  checkInController := text s.checkInController
  checkOutController := text s.checkOutController
  fullNameController := s.fullNameController
  fullNameTamuController := s.fullNameTamuController
  emailController := s.emailController
  phoneNumberController := s.phoneNumberController
  night := s.night

/-- A text that reads back as its date. -/
def ReadsBack (date : CivilDate) : Prop := read (text date) = some date

theorem readsBack_iff {date : CivilDate} (h : Printed date) :
    ReadsBack date ↔ YearInRange date := by
  obtain ⟨d, rfl⟩ := h
  exact read_text_iff (twoDigits_ofDays d)

theorem parseText_of_readsBack (z : Zone) {date : CivilDate} (h : ReadsBack date) :
    parseText z (text date) = .ok (parse z date) := by
  unfold parseText
  rw [h]

/-- The pickers stay within years of four digits. -/
theorem readsBack_picked (z : Zone) (p : PickerDate) :
    ReadsBack (format z (z.midnight p.day)) := by
  rw [readsBack_iff (printed_format _ _), format_midnight]
  have hfirst : (10957 : Int) ≤ p.day := p.first_le
  have hlast : p.day ≤ (47847 : Int) := p.le_last
  obtain ⟨hy0, hy1, _, _⟩ := eraSplit_bounds p.day
  have hera0 : 4 ≤ (eraSplit p.day).1 := by
    simp only [eraSplit]
    omega
  have hera1 : (eraSplit p.day).1 ≤ 5 := by
    simp only [eraSplit]
    omega
  unfold YearInRange CivilDate.ofDays CivilDate.ofMarch
  simp only
  split <;> omega

structure TextInv (s : DetailState) : Prop where
  checkIn : ReadsBack s.checkInController
  checkOut : ReadsBack s.checkOutController

theorem textInv_step (z : Zone) (s : DetailState) (e : FormEvent) (h : TextInv s) :
    TextInv (formStep z s e) := by
  cases e with
  | checkIn picked =>
      cases picked with
      | none => exact h
      | some p => exact ⟨readsBack_picked z p, h.checkOut⟩
  | checkOut picked =>
      cases picked with
      | none => exact h
      | some p => exact ⟨h.checkIn, readsBack_picked z p⟩
  | fullName text => exact ⟨h.checkIn, h.checkOut⟩
  | fullNameTamu text => exact ⟨h.checkIn, h.checkOut⟩
  | email text => exact ⟨h.checkIn, h.checkOut⟩
  | phoneNumber text => exact ⟨h.checkIn, h.checkOut⟩

/-- One event: the handler of the other field parses a text that reads back. -/
theorem textStep_texts (z : Zone) (s : DetailState) (e : FormEvent) (h : TextInv s) :
    textStep z s.texts e = .ok (formStep z s e).texts := by
  cases e with
  | checkIn picked =>
      cases picked with
      | none => rfl
      | some p =>
          have hout : parseText z s.texts.checkOutController = .ok (parse z s.checkOutController) :=
            parseText_of_readsBack z h.checkOut
          simp only [textStep, TextState.checkInOnTap, Option.map_some, hout]
          rfl
  | checkOut picked =>
      cases picked with
      | none => rfl
      | some p =>
          have hin : parseText z s.texts.checkInController = .ok (parse z s.checkInController) :=
            parseText_of_readsBack z h.checkIn
          simp only [textStep, TextState.checkOutOnTap, Option.map_some, hin]
          rfl
  | fullName text => rfl
  | fullNameTamu text => rfl
  | email text => rfl
  | phoneNumber text => rfl

/-- **The texts of the form.** For every sequence of events no handler throws, the form of texts
    goes through the same states as the form of dates, and both fields hold texts that read back
    as their dates, if and only if the two dates of `initState` have years from 0 to 999999. -/
theorem texts_refine_iff (z : Zone) (now now' : Int) :
    (∀ es : List FormEvent,
      es.foldlM (textStep z) (TextState.initState z now now') =
          .ok (run (formStep z) (initState z now now') es).texts ∧
        TextInv (run (formStep z) (initState z now now') es)) ↔
      YearInRange (format z now) ∧ YearInRange (format z (now' + microsecondsPerDay)) := by
  rw [← readsBack_iff (printed_format z now), ← readsBack_iff (printed_format z _)]
  constructor
  · intro h
    exact ⟨(h []).2.checkIn, (h []).2.checkOut⟩
  · rintro ⟨hin, hout⟩ es
    have hinit : TextInv (initState z now now') := ⟨hin, hout⟩
    have hrun : es.foldlM (textStep z) (initState z now now').texts =
        .ok (run (formStep z) (initState z now now') es).texts :=
      foldlM_abs (textInv_step z) (textStep_texts z) (initState z now now') es hinit
    exact ⟨hrun, inv_run_all (textInv_step z) _ es hinit⟩

example : (initState (Zone.fixed 0) 1677628800000000 1677628800000000).texts.checkOutController =
    "2023-03-02" := by decide

end Nginepyuk.Booking
