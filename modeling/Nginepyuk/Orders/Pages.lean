/-
  `lib/pages/home/order_page.dart`, `lib/widget/order_item.dart` and
  `lib/pages/order_detail.dart`: the pages that read orders back.

  `OrderPage` runs one query for each of its two tabs and makes an `OrderItem` of every
  document; the item's `price` is the document's `totalPrice`. A tap on an item opens
  `OrderDetailPage` with the same arguments.
-/
import Nginepyuk.Lib.DocStore
import Nginepyuk.Booking.PaymentMethod

namespace Nginepyuk.Orders

open Lib.Civil Lib.LocalTime Lib.DocStore
open Nginepyuk.Booking

/-- The constructor arguments of `OrderItem`. -/
structure OrderItem where
  hotelDocId : String
  title : String
  photo : String
  night : Int
  price : Int64
  checkIn : CivilDate
  checkOut : CivilDate
  isCanceled : Bool
  isCheckOut : Bool
deriving DecidableEq, Repr

/-- The item both tabs make of a document. -/
def orderItem (e : OrderDoc) : OrderItem where
  hotelDocId := e.hotelDocId
  title := e.title
  photo := e.photo
  night := e.night
  price := e.totalPrice
  checkIn := e.checkIn
  checkOut := e.checkOut
  isCanceled := e.isCancel
  isCheckOut := e.isCheckOut

/-! ## The two tabs -/

/-- The filters of the Ongoing tab. -/
def ongoingFilter (user : String) (e : OrderDoc) : Bool :=
  e.userId == user && e.isCheckOut == false

/-- The filters of the History tab. -/
def historyFilter (user : String) (e : OrderDoc) : Bool :=
  e.userId == user && e.isCancel == true && e.isCheckOut == true

/-- The documents listed in the Ongoing tab of `OrderPage(user: user)`. -/
def ongoingTab (orders : Collection OrderDoc) (user : String) : List (String × OrderDoc) :=
  orders.query (ongoingFilter user)

/-- The documents listed in the History tab of `OrderPage(user: user)`. -/
def historyTab (orders : Collection OrderDoc) (user : String) : List (String × OrderDoc) :=
  orders.query (historyFilter user)

/-- The status an item prints: `Canceled`, `Done` or `Ongoing`. -/
inductive Badge where
  | canceled
  | done
  | ongoing
deriving DecidableEq, Repr

def OrderItem.badge (i : OrderItem) : Badge :=
  if i.isCanceled then .canceled
  else if !i.isCanceled && i.isCheckOut then .done
  else .ongoing

/-! ## What the pages print -/

/-- The item prints its price without a label, and no dates. -/
def OrderItem.screen (i : OrderItem) : Screen where
  amounts := [("", i.price)]
  stay := none
  night := some i.night

/-- The constructor arguments of `OrderDetailPage`. -/
structure OrderDetailPage where
  checkIn : CivilDate
  checkOut : CivilDate
  night : Int
  title : String
  photo : String
  price : Int64
  hotelDocId : String
  isCanceled : Bool
  isCheckOut : Bool
deriving DecidableEq, Repr

/-- The page a tap on an item opens. -/
def OrderItem.onTap (i : OrderItem) : OrderDetailPage where
  checkIn := i.checkIn
  checkOut := i.checkOut
  night := i.night
  title := i.title
  photo := i.photo
  price := i.price
  hotelDocId := i.hotelDocId
  isCanceled := i.isCanceled
  isCheckOut := i.isCheckOut

/-- `hotelDetail`, and `totalPembayaran` unless the order is canceled. -/
def OrderDetailPage.screen (z : Zone) (w : OrderDetailPage) : Screen where
  amounts := ("/night", w.price) ::
    if w.isCanceled then [] else [("Total Pembayaran", w.price)]
  stay := some (.long (formatLong z (parse z w.checkIn)), .long (formatLong z (parse z w.checkOut)))
  night := some w.night

end Nginepyuk.Orders
