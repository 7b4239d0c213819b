/-
  `lib/pages/payment_method_page.dart`: the payment page, the order document and
  `handleBooking`, as a state machine of one page.

  `handleBooking` is cut at its `await`. A tap builds the document from the widget, the
  signed-in user and the radio button selected at that moment, and leaves an `add` pending.
  When the `add` completes, the rest of the handler runs: `Navigator.pushAndRemoveUntil`
  with the context of the page. With the page still in place, it is replaced by the
  confirmation route. With the page gone, the call throws and the `catch` only prints.
  The route's builder runs later (`build`), and reads `paymentValue` then, not at the tap.

  Nothing disables the button, the radio buttons or the back arrow while an `add` is
  pending, so those events stay possible. An event that is not possible leaves the state
  unchanged.
-/
import Nginepyuk.Lib.Trace
import Nginepyuk.Booking.PaymentPage

namespace Nginepyuk.Booking

open Lib.Trace Lib.Civil Lib.LocalTime

inductive PaymentOption where
  | BCA
  | Mandiri
  | BNI
deriving DecidableEq, Repr

/-- `toString()` of a nullable `PaymentOption`. -/
def PaymentOption.toText : Option PaymentOption → String
  | none => "null"
  | some .BCA => "PaymentOption.BCA"
  | some .Mandiri => "PaymentOption.Mandiri"
  | some .BNI => "PaymentOption.BNI"

/-- The constructor arguments of `PaymentMethod`. -/
structure PaymentMethod where
  checkIn : CivilDate
  checkOut : CivilDate
  night : Int
  fullName : String
  emailAddress : String
  phoneNumber : String
  fullNameTamu : String
  title : String
  photo : String
  price : Int64
  hotelDocId : String
deriving DecidableEq, Repr

/-- `hotelDetail` and `footer`. -/
def PaymentMethod.screen (z : Zone) (w : PaymentMethod) : Screen where
  amounts := [("/night", w.price), ("Total Price", w.price * Int64.ofInt w.night)]
  stay := some (.long (formatLong z (parse z w.checkIn)), .long (formatLong z (parse z w.checkOut)))
  night := some w.night

/-- A document of the collection `orders`. -/
structure OrderDoc where
  userId : String
  hotelDocId : String
  title : String
  photo : String
  fullName : String
  email : String
  phoneNumber : String
  fullNameTamu : String
  paymentMethod : String
  totalPrice : Int64
  checkIn : CivilDate
  checkOut : CivilDate
  night : Int
  isPaid : Bool
  isCancel : Bool
  isCheckIn : Bool
  isCheckOut : Bool
deriving DecidableEq, Repr

/-- The map `handleBooking` passes to `add`. -/
def PaymentMethod.orderDoc (w : PaymentMethod) (uid : String)
    (paymentValue : Option PaymentOption) : OrderDoc where
  userId := uid
  hotelDocId := w.hotelDocId
  title := w.title
  photo := w.photo
  fullName := w.fullName
  email := w.emailAddress
  phoneNumber := w.phoneNumber
  fullNameTamu := w.fullNameTamu
  paymentMethod := PaymentOption.toText paymentValue
  totalPrice := w.price * Int64.ofInt w.night
  checkIn := w.checkIn
  checkOut := w.checkOut
  night := w.night
  isPaid := true
  isCancel := false
  isCheckIn := false
  isCheckOut := false

/-- The route builder's `PaymentPage`. -/
def PaymentMethod.paymentPage (w : PaymentMethod) (paymentValue : Option PaymentOption) :
    PaymentPage where
  checkIn := w.checkIn
  checkOut := w.checkOut
  night := w.night
  title := w.title
  photo := w.photo
  price := w.price
  hotelDocId := w.hotelDocId
  paymentOption := PaymentOption.toText paymentValue

/-! ## One page and its pending writes -/

/-- Where the page is: on the screen, popped by the back arrow, or removed from the stack by
    `pushAndRemoveUntil`. -/
inductive PageStatus where
  | shown
  | popped
  | replaced
deriving DecidableEq, Repr

/-- The route pushed by `handleBooking`: the document whose `add` completed just before the
    push, and the page the builder returned when it last ran. -/
structure Confirmation where
  order : OrderDoc
  built : Option PaymentPage
deriving DecidableEq, Repr

/-- `_PaymentMethodState` with the page's place in the stack, the `add` calls that have not
    completed (oldest first), the documents they stored, and the pushed route. -/
structure Session where
  paymentValue : Option PaymentOption
  page : PageStatus
  pending : List OrderDoc
  orders : List OrderDoc
  route : Option Confirmation
deriving DecidableEq, Repr

/-- A new page. -/
def Session.start : Session where
  paymentValue := some .BCA
  page := .shown
  pending := []
  orders := []
  route := none

/-- What can happen around the page. `bookNow` carries `FirebaseAuth.instance.currentUser`;
    `added` and `addFailed` complete the `add` at an index of `pending`. -/
inductive SessionEvent where
  | bookNow (currentUser : Option String)
  | radio (value : PaymentOption)
  | back
  | added (i : Nat)
  | addFailed (i : Nat)
  | build
deriving DecidableEq, Repr

/-- `handleBooking` up to its `await`. Without a signed-in user `currentUser!` throws inside
    the `try`, and no `add` is started. -/
def handleBooking (w : PaymentMethod) (s : Session) : Option String → Session
  | none => s
  | some uid => { s with pending := s.pending ++ [w.orderDoc uid s.paymentValue] }

/-- The rest of `handleBooking` after its `add` has stored `order`. -/
def afterAdd (s : Session) (order : OrderDoc) : Session :=
  if s.page = .shown then { s with page := .replaced, route := some ⟨order, none⟩ } else s

def sessionStep (w : PaymentMethod) (s : Session) : SessionEvent → Session
  | .bookNow currentUser => if s.page = .shown then handleBooking w s currentUser else s
  | .radio value => if s.page = .popped then s else { s with paymentValue := some value }
  | .back => if s.page = .shown then { s with page := .popped } else s
  | .added i =>
      match s.pending[i]? with
      | none => s
      | some order =>
          afterAdd { s with pending := s.pending.eraseIdx i, orders := s.orders ++ [order] } order
  | .addFailed i => { s with pending := s.pending.eraseIdx i }
  | .build =>
      match s.route with
      | none => s
      | some r => { s with route := some { r with built := some (w.paymentPage s.paymentValue) } }

end Nginepyuk.Booking
