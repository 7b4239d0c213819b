/-
  The two date pickers of the booking form, with the dialogs that are open.

  A tap on a date field opens a dialog and returns; the rest of the handler runs when the
  dialog completes, with a date or cancelled. Nothing keeps a second dialog from being opened
  in the meantime, so any number of them can be open, of either field, and they complete in
  any order. What a handler reads before its `await` is only where the dialog starts, so the
  form is that of the completions alone (`form_eq_run`).

  Every handler takes its own end of the stay from the dialog and the other end from the
  text, at its completion. So once both fields were picked, the texts and the nights are those
  of the two latest picks (`showsPicks_run`), whatever came before, and two runs with the same
  latest picks end alike (`dates_independent_of_order`).
-/
import Mathlib.Data.List.Induction
import Nginepyuk.Booking.Detail

namespace Nginepyuk.Booking

open Lib.Trace Lib.Civil Lib.LocalTime

inductive DateField where
  | checkIn
  | checkOut
deriving DecidableEq, Repr

/-- The completion of a dialog of the field. -/
def DateField.completion : DateField → Option PickerDate → FormEvent
  | .checkIn, picked => .checkIn picked
  | .checkOut, picked => .checkOut picked

/-- An open dialog: the field whose handler waits for it and the instant it starts at. -/
structure DatePicker where
  field : DateField
  initialDate : Int
deriving DecidableEq, Repr

/-- The form with its open dialogs, oldest first. `completed` is not in the source: it records
    the completions so far, oldest first. -/
structure PickerPage where
  form : DetailState
  pickers : List DatePicker
  completed : List FormEvent
deriving DecidableEq, Repr

/-- The form as `initState` leaves it. -/
def PickerPage.start (z : Zone) (now now' : Int) : PickerPage := ⟨initState z now now', [], []⟩

/-- A tap on a field, with the clock reading at it, or the completion of the `i`-th open
    dialog. -/
inductive PickerEvent where
  | tap (field : DateField) (now : Int)
  | complete (i : Nat) (picked : Option PickerDate)
deriving DecidableEq, Repr

/-- `initialDate` of a dialog: the check-in dialog starts at the date of its field, the
    check-out dialog at today's. -/
def initialDate (z : Zone) (s : DetailState) (now : Int) : DateField → Int
  | .checkIn => parse z s.checkInController
  | .checkOut => now

def pickerStep (z : Zone) (s : PickerPage) : PickerEvent → PickerPage
  | .tap field now =>
      { s with pickers := s.pickers ++ [⟨field, initialDate z s.form now field⟩] }
  | .complete i picked =>
      match s.pickers[i]? with
      | some p =>
          { form := formStep z s.form (p.field.completion picked)
            pickers := s.pickers.eraseIdx i
            completed := s.completed ++ [p.field.completion picked] }
      | none => s

/-- The form of overlapping dialogs is the form after their completions, in their order. -/
theorem form_eq_run (z : Zone) (now now' : Int) (es : List PickerEvent) :
    (run (pickerStep z) (PickerPage.start z now now') es).form =
      run (formStep z) (initState z now now')
        (run (pickerStep z) (PickerPage.start z now now') es).completed := by
  refine inv_run_all (I := fun s : PickerPage =>
    s.form = run (formStep z) (initState z now now') s.completed) ?_ _ es rfl
  intro s e h
  cases e with
  | tap field now => exact h
  | complete i picked =>
      simp only [pickerStep]
      split
      · rw [run_concat, h]
      · exact h

/-! ## The latest picks -/

/-- The date that the event returned for the field. -/
def DateField.pick : DateField → FormEvent → Option PickerDate
  | .checkIn, .checkIn picked => picked
  | .checkOut, .checkOut picked => picked
  | _, _ => none

/-- The latest date that a dialog of the field returned. -/
def lastPick (field : DateField) (es : List FormEvent) : Option PickerDate :=
  (es.filterMap field.pick).getLast?

theorem lastPick_concat (field : DateField) (es : List FormEvent) (e : FormEvent) :
    lastPick field (es ++ [e]) = (field.pick e).or (lastPick field es) := by
  unfold lastPick
  rw [List.filterMap_append]
  cases hp : field.pick e with
  | none => rw [List.filterMap_cons_none hp, List.filterMap_nil, List.append_nil, Option.none_or]
  | some d =>
      rw [List.filterMap_cons_some hp, List.filterMap_nil, List.getLast?_concat, Option.some_or]

/-- A field that was picked shows its latest pick; once both were, `night` is the time from
    the one local midnight to the other in whole days. -/
structure ShowsPicks (z : Zone) (es : List FormEvent) (s : DetailState) : Prop where
  checkIn : ∀ d, lastPick .checkIn es = some d → s.checkInController = CivilDate.ofDays d.day
  checkOut : ∀ d, lastPick .checkOut es = some d → s.checkOutController = CivilDate.ofDays d.day
  night : ∀ d d', lastPick .checkIn es = some d → lastPick .checkOut es = some d' →
    s.night = inDays (z.midnight d'.day - z.midnight d.day)

/-- Reading a printed date back. -/
theorem parse_ofDays (z : Zone) (d : Int) : parse z (CivilDate.ofDays d) = z.midnight d := by
  unfold parse
  rw [toDays_ofDays]

theorem showsPicks_nil (z : Zone) (s : DetailState) : ShowsPicks z [] s where
  checkIn := fun _ hd => nomatch hd
  checkOut := fun _ hd => nomatch hd
  night := fun _ _ hd => nomatch hd

section Step

variable {z : Zone} {es : List FormEvent} {s : DetailState}

/-- An event that picks nothing and leaves dates and nights alone. -/
theorem showsPicks_quiet {t : DetailState} {e : FormEvent} (h : ShowsPicks z es s)
    (hpickIn : DateField.checkIn.pick e = none) (hpickOut : DateField.checkOut.pick e = none)
    (hin : t.checkInController = s.checkInController)
    (hout : t.checkOutController = s.checkOutController) (hnight : t.night = s.night) :
    ShowsPicks z (es ++ [e]) t := by
  have hlastIn : lastPick .checkIn (es ++ [e]) = lastPick .checkIn es := by
    rw [lastPick_concat, hpickIn, Option.none_or]
  have hlastOut : lastPick .checkOut (es ++ [e]) = lastPick .checkOut es := by
    rw [lastPick_concat, hpickOut, Option.none_or]
  refine ⟨?_, ?_, ?_⟩
  · rw [hlastIn, hin]
    exact h.checkIn
  · rw [hlastOut, hout]
    exact h.checkOut
  · rw [hlastIn, hlastOut, hnight]
    exact h.night

/-- A dialog of the check-in field returns a date. The other text is that of the latest
    check-out pick, if there was one. -/
theorem showsPicks_checkIn (p : PickerDate) (h : ShowsPicks z es s) :
    ShowsPicks z (es ++ [.checkIn (some p)]) (formStep z s (.checkIn (some p))) := by
  have hin : lastPick .checkIn (es ++ [.checkIn (some p)]) = some p := lastPick_concat _ _ _
  have hout : lastPick .checkOut (es ++ [.checkIn (some p)]) = lastPick .checkOut es :=
    lastPick_concat _ _ _
  refine ⟨?_, ?_, ?_⟩
  · intro d hd
    rw [hin] at hd
    obtain rfl := Option.some.inj hd
    exact format_midnight z p.day
  · rw [hout]
    exact h.checkOut
  · intro d d' hd hd'
    rw [hin] at hd
    rw [hout] at hd'
    obtain rfl := Option.some.inj hd
    show inDays (parse z s.checkOutController - z.midnight p.day) = _
    rw [h.checkOut d' hd', parse_ofDays]

theorem showsPicks_checkOut (p : PickerDate) (h : ShowsPicks z es s) :
    ShowsPicks z (es ++ [.checkOut (some p)]) (formStep z s (.checkOut (some p))) := by
  have hin : lastPick .checkIn (es ++ [.checkOut (some p)]) = lastPick .checkIn es :=
    lastPick_concat _ _ _
  have hout : lastPick .checkOut (es ++ [.checkOut (some p)]) = some p := lastPick_concat _ _ _
  refine ⟨?_, ?_, ?_⟩
  · rw [hin]
    exact h.checkIn
  · intro d hd
    rw [hout] at hd
    obtain rfl := Option.some.inj hd
    exact format_midnight z p.day
  · intro d d' hd hd'
    rw [hin] at hd
    rw [hout] at hd'
    obtain rfl := Option.some.inj hd'
    show inDays (z.midnight p.day - parse z s.checkInController) = _
    rw [h.checkIn d hd, parse_ofDays]

theorem showsPicks_step (e : FormEvent) (h : ShowsPicks z es s) :
    ShowsPicks z (es ++ [e]) (formStep z s e) := by
  cases e with
  | checkIn picked =>
      cases picked with
      | none => exact showsPicks_quiet h rfl rfl rfl rfl rfl
      | some p => exact showsPicks_checkIn p h
  | checkOut picked =>
      cases picked with
      | none => exact showsPicks_quiet h rfl rfl rfl rfl rfl
      | some p => exact showsPicks_checkOut p h
  | fullName text => exact showsPicks_quiet h rfl rfl rfl rfl rfl
  | fullNameTamu text => exact showsPicks_quiet h rfl rfl rfl rfl rfl
  | email text => exact showsPicks_quiet h rfl rfl rfl rfl rfl
  | phoneNumber text => exact showsPicks_quiet h rfl rfl rfl rfl rfl

end Step

/-- After every run of the form it shows the latest picks. -/
theorem showsPicks_run (z : Zone) (now now' : Int) (es : List FormEvent) :
    ShowsPicks z es (run (formStep z) (initState z now now') es) := by
  induction es using List.reverseRecOn with
  | nil => exact showsPicks_nil z _
  | append_singleton es e ih =>
      rw [run_concat]
      exact showsPicks_step e ih

/-- **The order of picking does not matter.** Take two runs of the dialogs in one zone, started
    at any clock readings, in which both fields were picked and the latest picks agree. They end
    with the same two texts, the same number of nights and the same screen, its total price
    included. -/
theorem dates_independent_of_order (z : Zone) (b : BookingDetail) (now₁ now₁' now₂ now₂' : Int)
    (es₁ es₂ : List PickerEvent) (d d' : PickerDate) (s₁ s₂ : PickerPage)
    (hs₁ : s₁ = run (pickerStep z) (PickerPage.start z now₁ now₁') es₁)
    (hs₂ : s₂ = run (pickerStep z) (PickerPage.start z now₂ now₂') es₂)
    (hin₁ : lastPick .checkIn s₁.completed = some d)
    (hin₂ : lastPick .checkIn s₂.completed = some d)
    (hout₁ : lastPick .checkOut s₁.completed = some d')
    (hout₂ : lastPick .checkOut s₂.completed = some d') :
    s₁.form.checkInController = s₂.form.checkInController ∧
      s₁.form.checkOutController = s₂.form.checkOutController ∧
      s₁.form.night = s₂.form.night ∧ b.screen s₁.form = b.screen s₂.form := by
  have h₁ : ShowsPicks z s₁.completed s₁.form := by
    rw [hs₁, form_eq_run]
    exact showsPicks_run z now₁ now₁' _
  have h₂ : ShowsPicks z s₂.completed s₂.form := by
    rw [hs₂, form_eq_run]
    exact showsPicks_run z now₂ now₂' _
  have hin := (h₁.checkIn d hin₁).trans (h₂.checkIn d hin₂).symm
  have hout := (h₁.checkOut d' hout₁).trans (h₂.checkOut d' hout₂).symm
  have hnight := (h₁.night d d' hin₁ hout₁).trans (h₂.night d d' hin₂ hout₂).symm
  refine ⟨hin, hout, hnight, ?_⟩
  unfold BookingDetail.screen
  rw [hin, hout, hnight]

/-- 2023-03-06 and 2023-03-08, as picked. -/
def pickedIn : PickerDate := ⟨19422, by decide, by decide⟩
def pickedOut : PickerDate := ⟨19424, by decide, by decide⟩

/-- Both dialogs open at once, the check-out one completed first. -/
def overlapping : PickerPage :=
  run (pickerStep (Zone.fixed 0)) (PickerPage.start (Zone.fixed 0) 1677672000000000 1677672000000000)
    [.tap .checkIn 0, .tap .checkOut 0, .complete 1 (some pickedOut), .complete 0 (some pickedIn)]

/-- One dialog after the other on a later day, with an earlier choice replaced and a dialog
    cancelled. -/
def oneByOne : PickerPage :=
  run (pickerStep (Zone.fixed 0)) (PickerPage.start (Zone.fixed 0) 1677800000000000 1677800000000000)
    [.tap .checkIn 0, .complete 0 (some pickedOut), .tap .checkIn 0, .complete 0 (some pickedIn),
      .tap .checkOut 0, .complete 0 (some pickedOut), .tap .checkIn 0, .complete 0 none]

theorem overlapping_and_oneByOne_agree :
    overlapping.form.checkInController = oneByOne.form.checkInController ∧
      overlapping.form.checkOutController = oneByOne.form.checkOutController ∧
      overlapping.form.night = oneByOne.form.night ∧
      BookingDetail.screen ⟨"hotel", "Hotel", 100, "photo"⟩ overlapping.form =
        BookingDetail.screen ⟨"hotel", "Hotel", 100, "photo"⟩ oneByOne.form :=
  dates_independent_of_order (Zone.fixed 0) ⟨"hotel", "Hotel", 100, "photo"⟩ _ _ _ _ _ _ pickedIn
    pickedOut overlapping oneByOne rfl rfl (by decide) (by decide) (by decide) (by decide)

end Nginepyuk.Booking
