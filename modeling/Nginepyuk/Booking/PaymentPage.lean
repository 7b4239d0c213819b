/-
  `lib/pages/payment_page.dart`: the confirmation page shown after a booking.

  `PaymentPage.build` prints the payment option with the text `PaymentOption.` taken out,
  and under "Total Pembayaran" the widget's `price`, the same number as under "/night".
-/
import Nginepyuk.Booking.Screen

namespace Nginepyuk.Booking

open Lib.Civil Lib.LocalTime

/-- Dart's `String.replaceFirst`, on characters. -/
def replaceFirstChars (pattern replacement : List Char) : List Char → List Char
  | [] => if pattern = [] then replacement else []
  | c :: cs =>
      if pattern.isPrefixOf (c :: cs) then replacement ++ (c :: cs).drop pattern.length
      else c :: replaceFirstChars pattern replacement cs

def replaceFirst (s pattern replacement : String) : String :=
  String.ofList (replaceFirstChars pattern.toList replacement.toList s.toList)

/-- The constructor arguments of `PaymentPage`. -/
structure PaymentPage where
  checkIn : CivilDate
  checkOut : CivilDate
  night : Int
  title : String
  photo : String
  price : Int64
  hotelDocId : String
  paymentOption : String
deriving DecidableEq, Repr

/-- The local variable `paymentOption` of `_PaymentPageState.build`. -/
def shownOption (paymentOption : String) : String :=
  replaceFirst paymentOption "PaymentOption." ""

/-- `hotelDetail` and `totalPembayaran`. -/
def PaymentPage.screen (z : Zone) (w : PaymentPage) : Screen where
  amounts := [("/night", w.price), ("Total Pembayaran", w.price)]
  stay := some (.long (formatLong z (parse z w.checkIn)), .long (formatLong z (parse z w.checkOut)))
  night := some w.night

end Nginepyuk.Booking
