/-
  Orders as documents: the map that `handleBooking` stores, and the reader of both tabs of
  `lib/pages/home/order_page.dart`.

  A tab makes all its items at once (`docs.map(...).toList()`), so a document of the query that
  cannot be read leaves the whole tab without items (`tab_all_or_nothing`), where the lists of
  hotels lose one item each. What the app stores can always be read: for every collection of
  orders both tabs list exactly the items of the orders they should, and the page that a tap
  opens prints the stored dates (`stored_orders_read_back`).
-/
import Nginepyuk.Lib.Fields
import Nginepyuk.Booking.Texts
import Nginepyuk.Orders.Pages

namespace Nginepyuk.Orders

open Lib.Civil Lib.LocalTime Lib.DocStore Lib.Fields Lib.DateText
open Nginepyuk.Booking

/-- The map that `handleBooking` passes to `add`, with the texts of the two dates. -/
def orderFields (e : OrderDoc) : Doc :=
  [("userId", .str e.userId), ("hotelDocId", .str e.hotelDocId), ("title", .str e.title),
    ("photo", .str e.photo), ("fullName", .str e.fullName), ("email", .str e.email),
    ("phoneNumber", .str e.phoneNumber), ("fullNameTamu", .str e.fullNameTamu),
    ("paymentMethod", .str e.paymentMethod), ("totalPrice", .int e.totalPrice),
    ("checkIn", .str (text e.checkIn)), ("checkOut", .str (text e.checkOut)),
    ("night", .int (Int64.ofInt e.night)), ("isPaid", .bool e.isPaid),
    ("isCancel", .bool e.isCancel), ("isCheckIn", .bool e.isCheckIn),
    ("isCheckOut", .bool e.isCheckOut)]

/-- The constructor arguments of `OrderItem`, with its dates as texts. -/
structure ItemFields where
  hotelDocId : String
  title : String
  photo : String
  night : Int64
  price : Int64
  checkIn : String
  checkOut : String
  isCanceled : Bool
  isCheckOut : Bool
deriving DecidableEq, Repr

/-- The item that both tabs make of a document. -/
def readItem (e : Doc) : Except ReadError ItemFields := do
  let hotelDocId ← (← e.get "hotelDocId").asString
  let title ← (← e.get "title").asString
  let photo ← (← e.get "photo").asString
  let night ← (← e.get "night").asInt
  let price ← (← e.get "totalPrice").asInt
  let checkIn ← (← e.get "checkIn").asString
  let checkOut ← (← e.get "checkOut").asString
  let isCanceled ← (← e.get "isCancel").asBool
  let isCheckOut ← (← e.get "isCheckOut").asBool
  return ⟨hotelDocId, title, photo, night, price, checkIn, checkOut, isCanceled, isCheckOut⟩

/-- `where(field, isEqualTo: value)` for a text. -/
def whereText (field value : String) (e : Doc) : Bool :=
  (e.lookup field).bind Value.str? == some value

/-- `where(field, isEqualTo: value)` for a `bool`. -/
def whereBool (field : String) (value : Bool) (e : Doc) : Bool :=
  (e.lookup field).bind Value.bool? == some value

def ongoingQuery (user : String) (e : Doc) : Bool :=
  whereText "userId" user e && whereBool "isCheckOut" false e

def historyQuery (user : String) (e : Doc) : Bool :=
  whereText "userId" user e && whereBool "isCancel" true e && whereBool "isCheckOut" true e

/-- `builder` of a tab on the snapshot of its query. -/
def tabItems (query : Doc → Bool) (docs : List Doc) : Except ReadError (List ItemFields) :=
  (docs.filter query).mapM readItem

/-- The dates that the page of an item prints. -/
def ItemFields.stay (z : Zone) (i : ItemFields) : Except FormatException (LongDate × LongDate) := do
  let checkIn ← parseText z i.checkIn
  let checkOut ← parseText z i.checkOut
  return (formatLong z checkIn, formatLong z checkOut)

/-! ## Reading a document -/

/-- The document has the nine fields of the item, each of its type. -/
structure HasFields (e : Doc) (i : ItemFields) : Prop where
  hotelDocId : e.lookup "hotelDocId" = some (.str i.hotelDocId)
  title : e.lookup "title" = some (.str i.title)
  photo : e.lookup "photo" = some (.str i.photo)
  night : e.lookup "night" = some (.int i.night)
  totalPrice : e.lookup "totalPrice" = some (.int i.price)
  checkIn : e.lookup "checkIn" = some (.str i.checkIn)
  checkOut : e.lookup "checkOut" = some (.str i.checkOut)
  isCancel : e.lookup "isCancel" = some (.bool i.isCanceled)
  isCheckOut : e.lookup "isCheckOut" = some (.bool i.isCheckOut)

theorem readItem_eq_ok {e : Doc} {i : ItemFields} : readItem e = .ok i ↔ HasFields e i := by
  simp only [readItem, bind_eq_ok, get_eq_ok, asString_eq_ok, asInt_eq_ok, asBool_eq_ok]
  constructor
  · rintro ⟨_, h1, _, rfl, _, h2, _, rfl, _, h3, _, rfl, _, h4, _, rfl, _, h5, _, rfl, _, h6, _,
      rfl, _, h7, _, rfl, _, h8, _, rfl, _, h9, _, rfl, hi⟩
    obtain rfl := Except.ok.inj hi
    exact ⟨h1, h2, h3, h4, h5, h6, h7, h8, h9⟩
  · rintro ⟨h1, h2, h3, h4, h5, h6, h7, h8, h9⟩
    exact ⟨_, h1, _, rfl, _, h2, _, rfl, _, h3, _, rfl, _, h4, _, rfl, _, h5, _, rfl, _, h6, _, rfl,
      _, h7, _, rfl, _, h8, _, rfl, _, h9, _, rfl, rfl⟩

theorem readItem_error_iff {e : Doc} :
    (∃ err, readItem e = .error err) ↔ ¬ ∃ i, HasFields e i := by
  simp only [← readItem_eq_ok]
  cases readItem e with
  | error err => exact iff_of_true ⟨err, rfl⟩ (fun ⟨_, h⟩ => nomatch h)
  | ok i => exact iff_of_false (fun ⟨_, h⟩ => nomatch h) (fun h => h ⟨i, rfl⟩)

/-- **A tab reads all or nothing.** For every query and every list of documents: the tab shows
    items exactly if each document of the query has the nine fields at their types, and then
    shows one item for each, in order; it fails exactly if some document of the query lacks one of
    them, whatever the others are like. -/
theorem tab_all_or_nothing (query : Doc → Bool) (docs : List Doc) :
    (∀ items, tabItems query docs = .ok items ↔
      List.Forall₂ HasFields (docs.filter query) items) ∧
    ((∃ err, tabItems query docs = .error err) ↔
      ∃ e ∈ docs, query e = true ∧ ¬ ∃ i, HasFields e i) := by
  have hok : ∀ items, tabItems query docs = .ok items ↔
      List.Forall₂ HasFields (docs.filter query) items := by
    intro items
    rw [tabItems, mapM_eq_ok]
    simp only [readItem_eq_ok]
  refine ⟨hok, ?_⟩
  constructor
  · rintro ⟨err, herr⟩
    obtain ⟨pre, e, post, hdocs, _, he⟩ := mapM_eq_error.mp herr
    have hmem : e ∈ docs.filter query := by
      rw [hdocs]
      exact List.mem_append_right _ List.mem_cons_self
    obtain ⟨hdoc, hq⟩ := List.mem_filter.mp hmem
    exact ⟨e, hdoc, hq, readItem_error_iff.mp ⟨err, he⟩⟩
  · rintro ⟨e, hdoc, hq, hno⟩
    cases htab : tabItems query docs with
    | error err => exact ⟨err, rfl⟩
    | ok items =>
        -- A tab with items would have read this document too.
        have hall := (hok items).mp htab
        obtain ⟨k, hk⟩ := List.mem_iff_getElem?.mp (List.mem_filter.mpr ⟨hdoc, hq⟩)
        obtain ⟨hlt, hget⟩ := List.getElem?_eq_some_iff.mp hk
        have hi := (List.forall₂_iff_get.mp hall).2 k hlt ((List.forall₂_iff_get.mp hall).1 ▸ hlt)
        rw [List.get_eq_getElem, hget] at hi
        exact absurd ⟨_, hi⟩ hno

/-! ## What the app stores -/

/-- The texts of an item. -/
def OrderItem.fields (i : OrderItem) : ItemFields where
  hotelDocId := i.hotelDocId
  title := i.title
  photo := i.photo
  night := Int64.ofInt i.night
  price := i.price
  checkIn := text i.checkIn
  checkOut := text i.checkOut
  isCanceled := i.isCanceled
  isCheckOut := i.isCheckOut

theorem readItem_orderFields (e : OrderDoc) : readItem (orderFields e) = .ok (orderItem e).fields :=
  readItem_eq_ok.mpr ⟨rfl, rfl, rfl, rfl, rfl, rfl, rfl, rfl, rfl⟩

/-- A query on the stored documents that amounts to a filter on the orders. -/
theorem tabItems_orderFields {query : Doc → Bool} {p : OrderDoc → Bool}
    (hq : ∀ e, query (orderFields e) = p e) (orders : Collection OrderDoc) :
    tabItems query (orders.docs.map fun d => orderFields d.2) =
      .ok ((orders.query p).map fun d => (orderItem d.2).fields) := by
  have hfilter : (orders.docs.map fun d => orderFields d.2).filter query =
      (orders.query p).map fun d => orderFields d.2 := by
    rw [List.filter_map]
    refine congrArg (List.map _) (List.filter_congr fun d _ => ?_)
    exact hq d.2
  rw [tabItems, hfilter, mapM_eq_ok, List.forall₂_map_left_iff, List.forall₂_map_right_iff]
  exact List.forall₂_same.mpr fun d _ => readItem_orderFields d.2

theorem stay_of_readsBack (z : Zone) {e : OrderDoc} (hin : ReadsBack e.checkIn)
    (hout : ReadsBack e.checkOut) :
    (orderItem e).fields.stay z =
      .ok (formatLong z (parse z e.checkIn), formatLong z (parse z e.checkOut)) := by
  have hcheckIn := parseText_of_readsBack z hin
  have hcheckOut := parseText_of_readsBack z hout
  simp only [ItemFields.stay, OrderItem.fields, orderItem, hcheckIn, hcheckOut]
  rfl

/-- **Stored orders read back.** For every collection of orders and every user, each tab of the
    order page, run on the documents as they are stored, reads without an error and lists exactly
    the items of the orders of its filter; and the page that an item opens parses both of its
    dates and prints the stay of the order, if their years fit the pattern. -/
theorem stored_orders_read_back (z : Zone) (orders : Collection OrderDoc) (user : String) :
    tabItems (ongoingQuery user) (orders.docs.map fun d => orderFields d.2) =
        .ok ((ongoingTab orders user).map fun d => (orderItem d.2).fields) ∧
    tabItems (historyQuery user) (orders.docs.map fun d => orderFields d.2) =
        .ok ((historyTab orders user).map fun d => (orderItem d.2).fields) ∧
    ∀ d ∈ orders.docs, ReadsBack d.2.checkIn ∧ ReadsBack d.2.checkOut →
      ∃ stay, (orderItem d.2).fields.stay z = .ok stay ∧
        ((orderItem d.2).onTap.screen z).stay = some (.long stay.1, .long stay.2) := by
  refine ⟨tabItems_orderFields (fun _ => rfl) orders,
    tabItems_orderFields (fun _ => rfl) orders, ?_⟩
  rintro d _ ⟨hin, hout⟩
  exact ⟨_, stay_of_readsBack z hin hout, rfl⟩

end Nginepyuk.Orders
