/-
  Where the title, the photo and the price of an order come from.

  A detail page holds the latest snapshot it got, a booking form what the detail page showed at
  the tap, a payment page what the form held, and an order what the payment page held. The
  document of the hotel may change in between, and nothing is read again. So an order need not
  have the hotel's current price, but it has the price, the title and the photo of one version
  of the document with its `hotelDocId`, all three of the same version (`orders_from_hotels`).
-/
import Nginepyuk.Device.Orders

namespace Nginepyuk.Device

open Lib.Trace Lib.LocalTime Lib.Fields Lib.DocStore
open Nginepyuk.Account Nginepyuk.Booking Nginepyuk.Hotels Nginepyuk.Orders

/-- A version of the hotel's document has this title, this first photo and this price. -/
def SoldAs (versions : List (String × Doc)) (docId title photo : String) (price : Int64) : Prop :=
  ∃ doc, (docId, doc) ∈ versions ∧ doc.lookup "title" = some (.str title) ∧
    doc.lookup "price" = some (.int price) ∧
    ∃ rest, doc.lookup "photo" = some (.list (.str photo :: rest))

theorem SoldAs.mono {versions versions' : List (String × Doc)} {docId title photo : String}
    {price : Int64} (hgrow : ∀ v ∈ versions, v ∈ versions')
    (h : SoldAs versions docId title photo price) : SoldAs versions' docId title photo price := by
  obtain ⟨doc, hdoc, hrest⟩ := h
  exact ⟨doc, hgrow _ hdoc, hrest⟩

/-- What a page of the booking flow holds of a hotel. -/
def Traced (versions : List (String × Doc)) : Route → Prop
  | .detail docId page => ∀ doc, page.snapshot = some (some doc) → (docId, doc) ∈ versions
  | .booking b _ => SoldAs versions b.docId b.title b.photo b.price
  | _ => True

structure HotelInv (w : World) : Prop where
  above : ∀ r ∈ w.above, Traced w.hotelVersions r
  sessions : ∀ p ∈ w.sessions, SoldAs w.hotelVersions p.1.hotelDocId p.1.title p.1.photo p.1.price

/-! ## The pages -/

theorem soldAs_of_page {versions : List (String × Doc)} {docId : String} {page : PageState}
    {b : BookingDetail} (h : Traced versions (.detail docId page))
    (hb : page.bookOnTap docId = some b) : SoldAs versions b.docId b.title b.photo b.price := by
  obtain ⟨p, hp, rfl⟩ := bookOnTap_eq_some.mp hb
  unfold PageState.content at hp
  obtain ⟨data, hdata, hok⟩ := Option.bind_eq_some_iff.mp hp
  cases data with
  | none => exact nomatch hok
  | some doc =>
      have hread : detailContent (some doc) = .ok p := by
        cases hd : detailContent (some doc) with
        | error err =>
            rw [hd] at hok
            exact nomatch hok
        | ok p' =>
            rw [hd] at hok
            rw [Option.some.inj hok]
      obtain ⟨hphoto, hhead, htitle, _, _, _, hprice, _⟩ := detailContent_eq_ok.mp hread
      refine ⟨doc, h doc hdata, htitle, hprice, (p.images.drop 1).map .str, ?_⟩
      rw [hphoto]
      cases himages : p.images with
      | nil =>
          rw [himages] at hhead
          exact nomatch hhead
      | cons image rest =>
          rw [himages] at hhead
          obtain rfl := Option.some.inj hhead
          rfl

theorem traced_mono {versions versions' : List (String × Doc)}
    (hgrow : ∀ v ∈ versions, v ∈ versions') {r : Route} (h : Traced versions r) : Traced versions' r := by
  cases r with
  | detail docId page => exact fun doc hdoc => hgrow _ (h doc hdoc)
  | booking b form => exact h.mono hgrow
  | search => trivial
  | picker field => trivial
  | paymentMethod i => trivial
  | orderDetail page => trivial

theorem traced_refreshed {w : World} {r r' : Route} (hr : Refreshed w r r')
    (h : Traced w.hotelVersions r) : Traced w.hotelVersions r' := by
  cases hr with
  | same => exact h
  | turned docId page index =>
      intro doc hdoc
      refine h doc ?_
      rw [← hdoc]
      simp only [pageStep]
      split
      · split <;> rfl
      · rfl
  | gone docId page =>
      intro doc hdoc
      cases Option.some.inj hdoc
  | version docId page doc hv =>
      intro doc' hdoc'
      obtain rfl := Option.some.inj (Option.some.inj hdoc')
      exact hv

theorem traced_opened {z : Zone} {w : World} {e : Event} {r : Route} (hr : Opens z w e r)
    (h : HotelInv w) : Traced w.hotelVersions r := by
  cases hr with
  | search m htop => trivial
  | detail docId hlists => exact fun doc hdoc => nomatch hdoc
  | booking docId page rest b now now' habove hb =>
      have hpage := h.above (.detail docId page) (by rw [habove]; exact List.mem_cons_self)
      exact soldAs_of_page hpage hb
  | picker field b form rest habove => trivial
  | orderDetail version m v htop hv hl => trivial

theorem soldAs_of_next {versions : List (String × Doc)} {b : BookingDetail} {form : DetailState}
    {pm : PaymentMethod} (hpm : nextOnPressed b form = .ok pm)
    (h : SoldAs versions b.docId b.title b.photo b.price) :
    SoldAs versions pm.hotelDocId pm.title pm.photo pm.price := by
  unfold nextOnPressed at hpm
  split at hpm
  · exact nomatch hpm
  · obtain rfl := Except.ok.inj hpm
    exact h

/-! ## The steps -/

theorem traced_from {z : Zone} {w : World} {e : Event} {r : Route} (hr : PageFrom z w e r)
    (h : HotelInv w) : Traced w.hotelVersions r := by
  cases hr with
  | kept r₀ _ hmem hr => exact traced_refreshed hr (h.above r₀ hmem)
  | opened _ hr => exact traced_opened hr h
  | picked date field b form he htop hmem => exact h.above (.booking b form) hmem
  | edited field text b form hmem => exact h.above (.booking b form) hmem
  | payment => trivial

theorem soldAs_from {w : World} {p : PaymentMethod × Session} (hp : SessionFrom w p)
    (h : HotelInv w) : SoldAs w.hotelVersions p.1.hotelDocId p.1.title p.1.photo p.1.price := by
  cases hp with
  | old _ hmem => exact h.sessions p hmem
  | stepped p' se hmem => exact h.sessions p' hmem
  | next b form pm hmem hpm => exact soldAs_of_next hpm (h.above _ hmem)

theorem hotelInv_step (z : Zone) (w : World) (e : Event) (h : HotelInv w) :
    HotelInv (step z w e) := by
  have hm := step_move z w e
  have hgrow : ∀ v ∈ w.hotelVersions, v ∈ (step z w e).hotelVersions :=
    fun v => hotelVersions_grow hm
  constructor
  · intro r hr
    exact traced_mono hgrow (traced_from (page_from hm hr) h)
  · intro p hp
    exact (soldAs_from (session_from hm hp) h).mono hgrow

theorem hotelInv_run (z : Zone) (user : Option User) (orders : Collection OrderDoc)
    (hotels : List (String × Doc)) (es : List Event) :
    HotelInv (run (step z) (World.start user orders hotels) es) :=
  inv_run_all (hotelInv_step z) _ es ⟨fun _ hr => (nomatch hr), fun _ hp => (nomatch hp)⟩

/-- **Orders come from hotels.** In every state of every run, every booking form and every payment
    page has the title, the photo and the price of one version of the hotel's document, and every
    order that the app stored has the title and the photo of one version and, as its total, that
    version's price times the nights. -/
theorem orders_from_hotels (z : Zone) (user : Option User) (orders : Collection OrderDoc)
    (hotels : List (String × Doc)) (es : List Event) :
    Always (step z)
      (fun w =>
        (∀ b form, Route.booking b form ∈ w.above →
          SoldAs w.hotelVersions b.docId b.title b.photo b.price) ∧
        (∀ p ∈ w.sessions,
          SoldAs w.hotelVersions p.1.hotelDocId p.1.title p.1.photo p.1.price) ∧
        ∀ order ∈ w.ordered, ∃ price,
          SoldAs w.hotelVersions order.hotelDocId order.title order.photo price ∧
            order.totalPrice = price * Int64.ofInt order.night)
      (World.start user orders hotels) es := by
  intro pre _
  have h := hotelInv_run z user orders hotels pre
  have ho := ordersInv_run z user orders hotels pre
  refine ⟨fun b form hb => h.above _ hb, h.sessions, ?_⟩
  intro order horder
  obtain ⟨p, hp, hmem⟩ := List.mem_flatMap.mp horder
  obtain ⟨uid, v, rfl⟩ := (ho.made p hp).1.2.1 order hmem
  exact ⟨p.1.price, h.sessions p hp, rfl⟩

end Nginepyuk.Device
