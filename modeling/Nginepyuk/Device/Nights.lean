/-
  What a stay is charged, over whole runs of the app.

  The number of nights is set when a form is opened and when one of its pickers completes, and is
  carried on from there with the dates; the price comes from the hotel's document. Where the two
  places keep whole days, as `Booking.Nights` says exactly, every order is charged the price of
  one version of its hotel's document for each day from check-in to check-out
  (`orders_charged_by_days`).
-/
import Nginepyuk.Booking.Nights
import Nginepyuk.Device.Provenance

namespace Nginepyuk.Device

open Lib.Trace Lib.Civil Lib.LocalTime Lib.Fields Lib.DocStore
open Nginepyuk.Account Nginepyuk.Booking Nginepyuk.Hotels Nginepyuk.Orders

/-- A form is opened well inside a day, and a picker completes with whole days kept. -/
def DaysInStep (z : Zone) (w : World) : Event → Prop
  | .bookHotel now now' => StartsWithinDay z now now'
  | .picked date =>
      ∀ q ∈ topPicker w.above, PickKeepsDays z q.2 (q.1.completion date)
  | _ => True

/-- The nights of every form and of every payment page are the days between its dates. -/
structure NightsInv (w : World) : Prop where
  forms : ∀ b form, Route.booking b form ∈ w.above → NightMatches form
  sessions : ∀ p ∈ w.sessions, p.1.night = p.1.checkOut.toDays - p.1.checkIn.toDays

/-- A text field leaves the dates and the nights alone. -/
theorem nightMatches_edit (z : Zone) {form : DetailState} (field : TextField) (text : String)
    (h : NightMatches form) : NightMatches (formStep z form (field.edit text)) := by
  cases field <;> exact h

theorem nightMatches_next {b : BookingDetail} {form : DetailState} {pm : PaymentMethod}
    (hpm : nextOnPressed b form = .ok pm) (h : NightMatches form) :
    pm.night = pm.checkOut.toDays - pm.checkIn.toDays := by
  obtain ⟨hin, hout, hnight, _⟩ := nextOnPressed_ok hpm
  rw [hin, hout, hnight]
  exact h

theorem nightMatches_from {z : Zone} {w : World} {e : Event} {b : BookingDetail}
    {form : DetailState} (hr : PageFrom z w e (.booking b form)) (hc : DaysInStep z w e)
    (h : NightsInv w) : NightMatches form := by
  cases hr with
  | kept r _ hmem hr =>
      cases hr
      exact h.forms b form hmem
  | opened _ hr =>
      cases hr with
      | booking docId page rest _ now now' habove hb =>
          exact (nightMatches_initState_iff z now now').mpr hc
  | picked date field _ form₀ he htop hmem =>
      subst he
      have hkeeps : PickKeepsDays z form₀ (field.completion date) := hc (field, form₀) htop
      exact (nightMatches_step_iff z form₀ _ (h.forms b form₀ hmem)).mpr hkeeps
  | edited field text _ form₀ hmem => exact nightMatches_edit z field text (h.forms b form₀ hmem)

theorem nightsInv_step (z : Zone) (w : World) (e : Event) (hc : DaysInStep z w e)
    (h : NightsInv w) : NightsInv (step z w e) := by
  have hm := step_move z w e
  constructor
  · intro b form hmem
    exact nightMatches_from (page_from hm hmem) hc h
  · intro p hp
    cases session_from hm hp with
    | old _ hmem => exact h.sessions p hmem
    | stepped p' se hmem => exact h.sessions p' hmem
    | next b form pm hmem hpm => exact nightMatches_next hpm (h.forms b form hmem)

/-- **Stays are charged by the day.** In every run whose forms are opened well inside a day and
    whose picks keep whole days, in every state, every order that the app stored has the title and
    the photo of one version of its hotel's document and, as its total, that version's price times
    the days from check-in to check-out. -/
theorem orders_charged_by_days (z : Zone) (user : Option User) (orders : Collection OrderDoc)
    (hotels : List (String × Doc)) (es : List Event)
    (hall : AllSteps (step z) (DaysInStep z) (World.start user orders hotels) es) :
    Always (step z)
      (fun w => ∀ order ∈ w.ordered, ∃ price,
        SoldAs w.hotelVersions order.hotelDocId order.title order.photo price ∧
          order.totalPrice =
            price * Int64.ofInt (order.checkOut.toDays - order.checkIn.toDays))
      (World.start user orders hotels) es := by
  refine always_of_inv (I := fun w => NightsInv w ∧ HotelInv w ∧ OrdersInv w) ?_ ?_ _ es hall ?_
  · intro w e hc h
    exact ⟨nightsInv_step z w e hc h.1, hotelInv_step z w e h.2.1, ordersInv_step z w e h.2.2⟩
  · intro w h order horder
    obtain ⟨p, hp, hmem⟩ := List.mem_flatMap.mp horder
    obtain ⟨uid, v, rfl⟩ := (h.2.2.made p hp).1.2.1 order hmem
    refine ⟨p.1.price, h.2.1.sessions p hp, ?_⟩
    show p.1.price * Int64.ofInt p.1.night = _
    rw [h.1.sessions p hp]
    rfl
  · refine ⟨⟨fun _ _ hb => (nomatch hb), fun _ hp => (nomatch hp)⟩,
      ⟨fun _ hr => (nomatch hr), fun _ hp => (nomatch hp)⟩, ordersInv_start user orders hotels⟩

instance (z : Zone) (s : DetailState) : (e : FormEvent) → Decidable (PickKeepsDays z s e)
  | .checkIn (some p) =>
      inferInstanceAs (Decidable (z.DaysKept p.day s.checkOutController.toDays))
  | .checkOut (some p) =>
      inferInstanceAs (Decidable (z.DaysKept s.checkInController.toDays p.day))
  | .checkIn none | .checkOut none | .fullName _ | .fullNameTamu _ | .email _ | .phoneNumber _ =>
      isTrue trivial

instance (z : Zone) (w : World) : (e : Event) → Decidable (DaysInStep z w e)
  | .bookHotel _ _ => inferInstanceAs (Decidable (_ ∧ _))
  | .picked _ => inferInstanceAs (Decidable (∀ q ∈ topPicker w.above, PickKeepsDays z q.2 _))
  | .user _ | .deliver _ | .tab _ | .exit | .showSearch | .openHotel _ | .snapshot _ _
  | .pageChanged _ | .tapDate _ | .edit _ _ | .next | .radio _ | .bookNow | .added _ _ _
  | .addFailed _ _ | .build | .home | .back | .openOrder _ | .hotelWritten _ _
  | .orderWritten _ _ | .orderChanged _ _ => isTrue trivial

/-- A check-out date is picked and the price of the hotel changes before the stay is booked. -/
def stayRun : List Event :=
  [.deliver 1, .openHotel "h1", .snapshot "h1" (some 0), .bookHotel 0 5, .tapDate .checkOut,
    .picked (some ⟨11000, by decide, by decide⟩), .hotelWritten "h1" [], .edit .fullName "Guest",
    .edit .fullNameTamu "Other Guest", .edit .email "guest@mail.com",
    .edit .phoneNumber "0812", .next, .bookNow, .added 0 0 "o1"]

def stayStart : World :=
  World.start (some ⟨"u2", "guest@mail.com"⟩) ⟨[], List.nodup_nil⟩ [("h1", sampleDoc)]

theorem stayRun_charged_by_days :
    (run (step (Zone.fixed 0)) stayStart stayRun).ordered.map OrderDoc.night = [11000] ∧
      Always (step (Zone.fixed 0))
        (fun w => ∀ order ∈ w.ordered, ∃ price,
          SoldAs w.hotelVersions order.hotelDocId order.title order.photo price ∧
            order.totalPrice =
              price * Int64.ofInt (order.checkOut.toDays - order.checkIn.toDays))
        stayStart stayRun :=
  ⟨by decide +kernel, orders_charged_by_days (Zone.fixed 0) (some ⟨"u2", "guest@mail.com"⟩)
    ⟨[], List.nodup_nil⟩ [("h1", sampleDoc)] stayRun (by decide +kernel)⟩

end Nginepyuk.Device
