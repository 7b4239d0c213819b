/-
  One booking through all its screens: the form, the payment page, the confirmation, the
  stored document, and the item and the detail page made from it.

  The confirmation prints the nightly price under "Total Pembayaran", and the order detail
  page prints the total under "/night". `one_set_of_figures_iff`: the figures of a booking
  agree on all screens exactly when the two numbers are the same, that is for a price of 0
  or a stay of one night.
-/
import Nginepyuk.Booking.Flow
import Nginepyuk.Orders.Pages

namespace Nginepyuk.Orders

open Lib.Trace Lib.Civil Lib.LocalTime Nginepyuk.Booking

/-- The labels under which a total is printed. -/
def totalLabels : List String := ["Total Price", "Total Pembayaran"]

/-- The screens a booking goes through: from the form `s` of the hotel `b`, through the
    payment page `w` and its confirmation `page`, to the pages made of the document `doc`. -/
def bookingScreens (z : Zone) (b : BookingDetail) (s : DetailState) (w : PaymentMethod)
    (page : PaymentPage) (doc : OrderDoc) : List Screen :=
  [b.screen s, w.screen z, page.screen z, (orderItem doc).screen,
    (orderItem doc).onTap.screen z]

/-- The labels of the amounts that each of these screens prints; the item of an order prints the
    stored total without one. -/
def screenLabels : List (List String) :=
  [["/night", "Total Price"], ["/night", "Total Price"], ["/night", "Total Pembayaran"], [""],
    ["/night", "Total Pembayaran"]]

/-- Whether each of them prints the dates, and the number of nights. -/
def screenStays : List (Bool × Bool) :=
  [(true, false), (true, true), (true, true), (false, true), (true, true)]

/-- The stored document and every screen agree: each screen prints the amounts it has labels for,
    totals are `p * n`, amounts per night are `p`, and dates and nights are those of the
    document. -/
structure OneSetOfFigures (p n : Int) (doc : OrderDoc) (screens : List Screen) : Prop where
  labels : (screens.map fun sc => sc.amounts.map Prod.fst) = screenLabels
  stays : (screens.map fun sc => (sc.stay.isSome, sc.night.isSome)) = screenStays
  stored_total : doc.totalPrice.toInt = p * n
  stored_night : doc.night = n
  totals : ∀ sc ∈ screens, ∀ a ∈ sc.amounts, a.1 ∈ totalLabels → a.2.toInt = p * n
  per_night : ∀ sc ∈ screens, ∀ a ∈ sc.amounts, a.1 = "/night" → a.2.toInt = p
  stay : ∀ sc ∈ screens, ∀ d ∈ sc.stay, d.1.date = doc.checkIn ∧ d.2.date = doc.checkOut
  night : ∀ sc ∈ screens, ∀ m ∈ sc.night, m = doc.night

theorem total_eq_price {p : Int64} {n : Int} (h : p = 0 ∨ n = 1) : p * Int64.ofInt n = p := by
  rcases h with rfl | rfl
  · exact Int64.zero_mul
  · exact Int64.mul_one p

theorem int_total_eq_price {p : Int64} {n : Int} (h : p = 0 ∨ n = 1) :
    p.toInt * n = p.toInt := by
  rcases h with rfl | rfl
  · exact Int.zero_mul n
  · exact Int.mul_one _

theorem zero_or_one_of_total_eq {p : Int64} {n : Int} (h : p.toInt = p.toInt * n) :
    p = 0 ∨ n = 1 := by
  by_cases hp : p.toInt = 0
  · left
    exact Int64.toInt_inj.mp hp
  · right
    have := Int.eq_one_of_mul_eq_self_right hp h.symm
    exact this

/-- Dates and nights are the document's on every screen, whatever the price. -/
theorem stay_and_night_agree (z : Zone) (b : BookingDetail) (s : DetailState) (w : PaymentMethod)
    (uid : String) (v v' : Option PaymentOption) (hs : PrintedDates s)
    (hw : nextOnPressed b s = .ok w) :
    (∀ sc ∈ bookingScreens z b s w (w.paymentPage v') (w.orderDoc uid v), ∀ d ∈ sc.stay,
      d.1.date = w.checkIn ∧ d.2.date = w.checkOut) ∧
    ∀ sc ∈ bookingScreens z b s w (w.paymentPage v') (w.orderDoc uid v), ∀ m ∈ sc.night,
      m = w.night := by
  obtain ⟨hin, hout, _, _⟩ := nextOnPressed_ok hw
  have h1 := formatLong_parse_date z _ hs.1
  have h2 := formatLong_parse_date z _ hs.2
  constructor
  · simp [bookingScreens, BookingDetail.screen, PaymentMethod.screen, PaymentPage.screen,
      OrderItem.screen, OrderDetailPage.screen, OrderItem.onTap, orderItem,
      PaymentMethod.paymentPage, PaymentMethod.orderDoc, ShownDate.date, hin, hout, h1, h2]
  · simp [bookingScreens, BookingDetail.screen, PaymentMethod.screen, PaymentPage.screen,
      OrderItem.screen, OrderDetailPage.screen, OrderItem.onTap, orderItem,
      PaymentMethod.paymentPage, PaymentMethod.orderDoc]

/-- When the total is the nightly price, it is the only amount on any screen. -/
theorem amounts_eq_price (z : Zone) (b : BookingDetail) (s : DetailState) (w : PaymentMethod)
    (uid : String) (v v' : Option PaymentOption) (hw : nextOnPressed b s = .ok w)
    (h : b.price = 0 ∨ s.night = 1) :
    ∀ sc ∈ bookingScreens z b s w (w.paymentPage v') (w.orderDoc uid v), ∀ a ∈ sc.amounts,
      a.2 = b.price := by
  obtain ⟨_, _, hn, hp⟩ := nextOnPressed_ok hw
  have ht : w.price * Int64.ofInt w.night = w.price := by
    rw [hp, hn]
    exact total_eq_price h
  have htwo : ∀ (label : String) (t : Int64), t = w.price →
      ∀ a ∈ [("/night", w.price), (label, t)], a.2 = w.price := by
    rintro label t rfl a ha
    rcases List.mem_pair.mp ha with rfl | rfl <;> rfl
  rw [← hp]
  intro sc hsc
  simp only [bookingScreens, List.mem_cons, List.not_mem_nil, or_false] at hsc
  rcases hsc with rfl | rfl | rfl | rfl | rfl
  · show ∀ a ∈ [("/night", b.price), ("Total Price", b.price * Int64.ofInt s.night)], _
    rw [← hp, ← hn]
    exact htwo _ _ ht
  · exact htwo _ _ ht
  · exact htwo _ _ rfl
  · intro a ha
    rw [List.mem_singleton.mp ha]
    exact ht
  · show ∀ a ∈ [("/night", w.price * Int64.ofInt w.night),
      ("Total Pembayaran", w.price * Int64.ofInt w.night)], _
    rw [ht]
    exact htwo _ _ rfl

/-- **One set of figures.** For every booking that went through the form, the payment page
    and its confirmation, the document it stored and all its screens agree exactly when the
    nightly price is 0 or the stay is one night. -/
theorem one_set_of_figures_iff (z : Zone) (now now' : Int) (es : List FormEvent)
    (b : BookingDetail) (w : PaymentMethod) (ses : List SessionEvent) (doc : OrderDoc)
    (r : Confirmation) (page : PaymentPage)
    (hw : nextOnPressed b (run (formStep z) (initState z now now') es) = .ok w)
    (hdoc : doc ∈ (run (sessionStep w) Session.start ses).orders)
    (hr : (run (sessionStep w) Session.start ses).route = some r)
    (hpage : r.built = some page) :
    OneSetOfFigures b.price.toInt (run (formStep z) (initState z now now') es).night doc
        (bookingScreens z b (run (formStep z) (initState z now now') es) w page doc) ↔
      b.price = 0 ∨ (run (formStep z) (initState z now now') es).night = 1 := by
  have hs := printedDates_run z now now' es
  generalize run (formStep z) (initState z now now') es = s at hw hs ⊢
  have hfrom := fromWidget_run w ses
  obtain ⟨uid, v, rfl⟩ := hfrom.1.2.1 doc hdoc
  obtain ⟨v', rfl⟩ := hfrom.2 r hr page hpage
  obtain ⟨_, _, hn, hp⟩ := nextOnPressed_ok hw
  constructor
  · -- The confirmation prints the nightly price as the total.
    intro h
    have htotal := h.totals ((w.paymentPage v').screen z) (by simp [bookingScreens])
      ("Total Pembayaran", w.price) (by simp [PaymentPage.screen, PaymentMethod.paymentPage])
      (by simp [totalLabels])
    rw [hp] at htotal
    exact zero_or_one_of_total_eq htotal
  · intro h
    have hamount := amounts_eq_price z b s w uid v v' hw h
    have hstay := stay_and_night_agree z b s w uid v v' hs hw
    have htotal := int_total_eq_price h
    refine ⟨rfl, rfl, ?_, hn, ?_, ?_, hstay.1, hstay.2⟩
    · simp only [PaymentMethod.orderDoc, hn, hp, total_eq_price h, htotal]
    · intro sc hsc a ha _
      rw [hamount sc hsc a ha, htotal]
    · intro sc hsc a ha _
      rw [hamount sc hsc a ha]

/-- The one-night booking of the form's own dates has one set of figures. -/
theorem one_night_figures_agree :
    OneSetOfFigures 100 1 (sampleBooking.orderDoc "u" (some .BCA))
      (bookingScreens (Zone.fixed 0) sampleHotel
        (run (formStep (Zone.fixed 0)) (initState (Zone.fixed 0) 1677672000000000 1677672000000000)
          filledFields)
        sampleBooking (sampleBooking.paymentPage (some .BCA))
        (sampleBooking.orderDoc "u" (some .BCA))) :=
  (one_set_of_figures_iff (Zone.fixed 0) 1677672000000000 1677672000000000 filledFields sampleHotel
    sampleBooking [.bookNow (some "u"), .added 0, .build]
    (sampleBooking.orderDoc "u" (some .BCA)) ⟨sampleBooking.orderDoc "u" (some .BCA), _⟩
    (sampleBooking.paymentPage (some .BCA)) (by decide) (by decide) rfl rfl).mpr (Or.inr rfl)

/-- 2023-03-03, picked as the check-out date. -/
def march3 : PickerDate := ⟨19419, by decide, by decide⟩

/-- The two-night booking made of the same form, with check-out moved to `march3`. -/
def twoNights : PaymentMethod :=
  { sampleBooking with checkOut := ⟨2023, 3, 3⟩, night := 2 }

/-- Two nights at 100: the document stores 200 and the confirmation prints 100 as the total. -/
theorem two_nights_figures_differ :
    ¬ ∀ (z : Zone) (now now' : Int) (es : List FormEvent) (b : BookingDetail) (w : PaymentMethod)
        (ses : List SessionEvent) (doc : OrderDoc) (r : Confirmation) (page : PaymentPage),
      nextOnPressed b (run (formStep z) (initState z now now') es) = .ok w →
      doc ∈ (run (sessionStep w) Session.start ses).orders →
      (run (sessionStep w) Session.start ses).route = some r →
      r.built = some page →
      OneSetOfFigures b.price.toInt (run (formStep z) (initState z now now') es).night doc
        (bookingScreens z b (run (formStep z) (initState z now now') es) w page doc) := by
  intro h
  have hbad := h (Zone.fixed 0) 1677672000000000 1677672000000000
    (filledFields ++ [.checkOut (some march3)]) sampleHotel twoNights
    [.bookNow (some "u"), .added 0, .build] (twoNights.orderDoc "u" (some .BCA))
    ⟨twoNights.orderDoc "u" (some .BCA), _⟩ (twoNights.paymentPage (some .BCA))
    (by decide) (by decide) rfl rfl
  have htotal := hbad.totals ((twoNights.paymentPage (some .BCA)).screen (Zone.fixed 0))
    (by simp [bookingScreens]) ("Total Pembayaran", 100) (by decide) (by decide)
  revert htotal
  decide

end Nginepyuk.Orders
