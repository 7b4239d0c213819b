import Nginepyuk.Lib.Trace
import Nginepyuk.Lib.Simulation
import Nginepyuk.Lib.Civil
import Nginepyuk.Lib.LocalTime
import Nginepyuk.Lib.DateText
import Nginepyuk.Lib.DocStore
import Nginepyuk.Lib.Fields
import Nginepyuk.Lib.Json
import Nginepyuk.Lib.Words
import Nginepyuk.Booking.Screen
import Nginepyuk.Booking.PaymentPage
import Nginepyuk.Booking.PaymentMethod
import Nginepyuk.Booking.Detail
import Nginepyuk.Booking.Pickers
import Nginepyuk.Booking.Nights
import Nginepyuk.Booking.Session
import Nginepyuk.Booking.Flow
import Nginepyuk.Booking.Texts
import Nginepyuk.Orders.Pages
import Nginepyuk.Orders.Tabs
import Nginepyuk.Orders.Figures
import Nginepyuk.Orders.Documents
import Nginepyuk.Account.Navigation
import Nginepyuk.Account.MainUser
import Nginepyuk.Account.Register
import Nginepyuk.Account.SignUp
import Nginepyuk.Account.Profile
import Nginepyuk.Account.Documents
import Nginepyuk.Account.AuthPages
import Nginepyuk.Account.Handlers
import Nginepyuk.Search.SaveSearch
import Nginepyuk.Search.Overlap
import Nginepyuk.Search.InTurn
import Nginepyuk.Search.TitleCase
import Nginepyuk.Search.Pages
import Nginepyuk.Hotels.Documents
import Nginepyuk.Hotels.DetailPage
import Nginepyuk.Device.Navigator
import Nginepyuk.Device.Stack
import Nginepyuk.Device.Refinement
import Nginepyuk.Device.Sessions
import Nginepyuk.Device.Owners
import Nginepyuk.Device.Orders
import Nginepyuk.Device.Provenance
import Nginepyuk.Device.Nights
import Nginepyuk.Device.Accounts
