/-
  The whole app on one device: the stack of pages, the payment pages that were opened with
  their pending writes, and the collections `hotels` and `orders`.

  The stack is the page at its bottom (`Base`) and the pages above it, top first. A tap is
  possible only on the top page, so most events look at the head of `above`. The pages pass
  each other data by value: a detail page the fields of its latest snapshot, the booking form
  its texts, an order item the document it was made of. What happens elsewhere goes on at any
  time: auth events, writes to the collections from outside, snapshots of documents, and the
  completion of an `add` whose page may be gone.

  A stream delivers versions of a document, possibly late. `hotelVersions` and `orderVersions`
  are the versions that there were, latest first; a snapshot is any of them. The collection
  `orders` has the current ones, and `others` those of them that were there at the start or were
  added by another device. Every payment page ever opened is in `sessions`.
-/
import Nginepyuk.Account.Navigation
import Nginepyuk.Booking.Pickers
import Nginepyuk.Booking.Session
import Nginepyuk.Hotels.DetailPage
import Nginepyuk.Orders.Pages

namespace Nginepyuk.Device

open Lib.Trace Lib.LocalTime Lib.Fields Lib.DocStore
open Nginepyuk.Account Nginepyuk.Booking Nginepyuk.Hotels Nginepyuk.Orders

/-- The page at the bottom: the route `/`, the route `/main`, or the confirmation that the
    `i`-th payment page pushed. -/
inductive Base where
  | splash (body : SplashBody)
  | main (state : Option MainState)
  | payment (i : Nat)
deriving DecidableEq, Repr

/-- The pages that lie above another one. A `picker` is the dialog of a date field. -/
inductive Route where
  | search
  | detail (docId : String) (page : PageState)
  | booking (b : BookingDetail) (form : DetailState)
  | picker (field : DateField)
  | paymentMethod (i : Nat)
  | orderDetail (page : OrderDetailPage)
deriving Repr

structure World where
  currentUser : Option User
  events : List (Option User)
  base : Base
  above : List Route
  sessions : List (PaymentMethod × Session)
  orders : Collection OrderDoc
  others : List OrderDoc
  orderVersions : List (String × OrderDoc)
  hotelVersions : List (String × Doc)

/-- The app as started, with the documents that are there. -/
def World.start (currentUser : Option User) (orders : Collection OrderDoc)
    (hotelVersions : List (String × Doc)) : World where
  currentUser := currentUser
  events := [currentUser]
  base := .splash .auth
  above := []
  sessions := []
  orders := orders
  others := orders.docs.map Prod.snd
  orderVersions := orders.docs
  hotelVersions := hotelVersions

/-! ## The bottom of the stack -/

def Base.mainState : Base → Option MainState
  | .splash (.main m) => m
  | .main m => m
  | _ => none

def Base.setIndex (value : Nat) : Base → Base
  | .splash (.main (some m)) => .splash (.main (some { m with currentIndex := value }))
  | .main (some m) => .main (some { m with currentIndex := value })
  | b => b

/-- The `MainPage` on top of the stack. -/
def World.topMain (w : World) : Option MainState :=
  match w.above with
  | [] => w.base.mainState
  | _ :: _ => none

/-- The first `n` queued auth events reach the listeners. -/
def World.deliver (w : World) (n : Nat) : World :=
  match (w.events.take n).getLast?, w.base with
  | some snapshot, .splash body =>
      { w with events := w.events.drop n, base := .splash (rebuild w.currentUser body snapshot) }
  | _, _ => { w with events := w.events.drop n }

/-! ## The pages above -/

def World.push (w : World) (r : Route) : World := { w with above := r :: w.above }

/-- An event of the `i`-th payment page. -/
def World.session (w : World) (i : Nat) (e : SessionEvent) : World :=
  { w with sessions := w.sessions.modify i fun p => (p.1, sessionStep p.1 p.2 e) }

theorem session_get_self {w : World} {i : Nat} {p : PaymentMethod × Session}
    (hp : w.sessions[i]? = some p) (e : SessionEvent) :
    (w.session i e).sessions[i]? = some (p.1, sessionStep p.1 p.2 e) := by
  rw [World.session, List.getElem?_modify_eq, hp]
  rfl

theorem session_get_ne (w : World) {i k : Nat} (h : k ≠ i) (e : SessionEvent) :
    (w.session i e).sessions[k]? = w.sessions[k]? :=
  List.getElem?_modify_ne _ _ (Ne.symm h)

/-- A session after an event of the `i`-th one: the event happened to it or to another. -/
theorem session_get {w : World} {i k : Nat} {e : SessionEvent} {q : PaymentMethod × Session}
    (hq : (w.session i e).sessions[k]? = some q) :
    ∃ p, w.sessions[k]? = some p ∧
      ((k = i ∧ q = (p.1, sessionStep p.1 p.2 e)) ∨ (k ≠ i ∧ q = p)) := by
  by_cases hk : k = i
  · subst hk
    rw [World.session, List.getElem?_modify_eq] at hq
    obtain ⟨p, hp, rfl⟩ := Option.map_eq_some_iff.mp hq
    exact ⟨p, hp, Or.inl ⟨rfl, rfl⟩⟩
  · rw [session_get_ne w hk] at hq
    exact ⟨q, hq, Or.inr ⟨hk, rfl⟩⟩

/-- What an event of the `i`-th page leaves as it is in each session. -/
theorem map_session_eq {β : Type} (w : World) (i : Nat) {e : SessionEvent}
    (g : PaymentMethod × Session → β)
    (h : ∀ p, w.sessions[i]? = some p → g (p.1, sessionStep p.1 p.2 e) = g p) :
    (w.session i e).sessions.map g = w.sessions.map g := by
  refine List.ext_getElem? fun k => ?_
  rw [List.getElem?_map, List.getElem?_map]
  by_cases hk : k = i
  · subst hk
    cases hp : w.sessions[k]? with
    | none =>
        have hlen : w.sessions.length ≤ k := List.getElem?_eq_none_iff.mp hp
        rw [World.session, List.modify_eq_self hlen, hp]
    | some p =>
        rw [session_get_self hp]
        exact congrArg some (h p hp)
  · rw [session_get_ne w hk]

/-- The top page lists hotels: the home page, the search page, or the results of a search. -/
def World.listsHotels (w : World) : Bool :=
  match w.above with
  | [] => w.base.mainState.any fun m => m.currentIndex != 2 && m.currentIndex != 3
  | .search :: _ => true
  | _ => false

/-- A snapshot reaches the detail page of the document, at any depth. -/
def Route.snapshot (docId : String) (data : Option Doc) : Route → Route
  | .detail docId' page =>
      .detail docId' (if docId' = docId then pageStep page (.snapshot data) else page)
  | r => r

/-- A text field of the booking form. -/
inductive TextField where
  | fullName
  | fullNameTamu
  | email
  | phoneNumber
deriving DecidableEq, Repr

def TextField.edit : TextField → String → FormEvent
  | .fullName, text => .fullName text
  | .fullNameTamu, text => .fullNameTamu text
  | .email, text => .email text
  | .phoneNumber, text => .phoneNumber text

/-- The flags of an order that are changed outside the app. -/
structure Flags where
  isCancel : Bool
  isCheckIn : Bool
  isCheckOut : Bool
deriving DecidableEq, Repr

def setFlags (f : Flags) (e : OrderDoc) : OrderDoc :=
  { e with isCancel := f.isCancel, isCheckIn := f.isCheckIn, isCheckOut := f.isCheckOut }

/-- What can happen. `openHotel`, `bookHotel`, `tapDate`, `next`, `bookNow`, `openOrder`, `home`
    and `exit` are taps; `picked` completes the dialog of a date field; `added i j id` and
    `addFailed i j` complete the `j`-th pending `add` of the `i`-th payment page; `build` builds
    the confirmation. `snapshot docId j` delivers the `j`-th version of a hotel to its detail
    page, or with `none` the news that there is no such document. `openOrder j` taps the item
    made of the `j`-th version of the orders. The last three are writes from outside. -/
inductive Event where
  | user (user : Option User)
  | deliver (n : Nat)
  | tab (value : Nat)
  | exit
  | showSearch
  | openHotel (docId : String)
  | snapshot (docId : String) (version : Option Nat)
  | pageChanged (index : Nat)
  | bookHotel (now now' : Int)
  | tapDate (field : DateField)
  | picked (date : Option PickerDate)
  | edit (field : TextField) (text : String)
  | next
  | radio (value : PaymentOption)
  | bookNow
  | added (i j : Nat) (id : String)
  | addFailed (i j : Nat)
  | build
  | home
  | back
  | openOrder (version : Nat)
  | hotelWritten (docId : String) (doc : Doc)
  | orderWritten (id : String) (order : OrderDoc)
  | orderChanged (id : String) (flags : Flags)

/-- The order is in one of the tabs of the user. -/
def listed (user : String) (e : OrderDoc) : Bool := ongoingFilter user e || historyFilter user e

/-- The document of a completed `add` is stored; with its page in place the confirmation
    replaces the stack. -/
def World.store (w : World) (i j : Nat) (id : String) (s : Session) (order : OrderDoc) : World :=
  { w.session i (.added j) with
      orders := w.orders.insert id order
      orderVersions := (id, order) :: w.orderVersions
      base := if s.page = .shown then .payment i else w.base
      above := if s.page = .shown then [] else w.above }

def step (z : Zone) (w : World) : Event → World
  | .user user => { w with currentUser := user, events := w.events ++ [user] }
  | .deliver n => w.deliver n
  | .tab value => if w.topMain.isSome then { w with base := w.base.setIndex value } else w
  | .exit =>
      if w.topMain.any fun m => m.currentIndex == 3 then
        { w with currentUser := none, events := w.events ++ [none], base := .splash .auth }
      else w
  | .showSearch =>
      if w.topMain.any fun m => m.currentIndex == 1 then w.push .search else w
  | .openHotel docId => if w.listsHotels then w.push (.detail docId PageState.start) else w
  | .snapshot docId none => { w with above := w.above.map (Route.snapshot docId none) }
  | .snapshot docId (some j) =>
      match w.hotelVersions[j]? with
      | some v =>
          if v.1 = docId then { w with above := w.above.map (Route.snapshot docId (some v.2)) }
          else w
      | none => w
  | .pageChanged index =>
      match w.above with
      | .detail docId page :: rest =>
          { w with above := .detail docId (pageStep page (.pageChanged index)) :: rest }
      | _ => w
  | .bookHotel now now' =>
      match w.above with
      | .detail docId page :: _ =>
          match page.bookOnTap docId with
          | some b => w.push (.booking b (initState z now now'))
          | none => w
      | _ => w
  | .tapDate field =>
      match w.above with
      | .booking _ _ :: _ => w.push (.picker field)
      | _ => w
  | .picked date =>
      match w.above with
      | .picker field :: .booking b form :: rest =>
          { w with above := .booking b (formStep z form (field.completion date)) :: rest }
      | _ => w
  | .edit field text =>
      match w.above with
      | .booking b form :: rest =>
          { w with above := .booking b (formStep z form (field.edit text)) :: rest }
      | _ => w
  | .next =>
      match w.above with
      | .booking b form :: _ =>
          match nextOnPressed b form with
          | .ok pm =>
              { w.push (.paymentMethod w.sessions.length) with
                  sessions := w.sessions ++ [(pm, Session.start)] }
          | .error _ => w
      | _ => w
  | .radio value =>
      match w.above with
      | .paymentMethod i :: _ => w.session i (.radio value)
      | _ => w
  | .bookNow =>
      match w.above with
      | .paymentMethod i :: _ => w.session i (.bookNow (w.currentUser.map User.uid))
      | _ => w
  | .added i j id =>
      match w.sessions[i]? with
      | some p =>
          match p.2.pending[j]? with
          | some order =>
              if id ∈ w.orders.docs.map Prod.fst then w else w.store i j id p.2 order
          | none => w
      | none => w
  | .addFailed i j => w.session i (.addFailed j)
  | .build =>
      match w.base with
      | .payment i => w.session i .build
      | _ => w
  | .home =>
      match w.base with
      | .payment _ => { w with base := .main (createMain w.currentUser) }
      | _ => w
  | .back =>
      match w.above with
      | .paymentMethod i :: rest => { w.session i .back with above := rest }
      | _ :: rest => { w with above := rest }
      | [] => w
  | .openOrder version =>
      match w.topMain, w.orderVersions[version]? with
      | some m, some v =>
          if m.currentIndex = 2 ∧ listed m.user.uid v.2 = true then
            w.push (.orderDetail (orderItem v.2).onTap)
          else w
      | _, _ => w
  | .hotelWritten docId doc => { w with hotelVersions := (docId, doc) :: w.hotelVersions }
  | .orderWritten id order =>
      if id ∈ w.orders.docs.map Prod.fst then w
      else
        { w with orders := w.orders.insert id order
                 others := w.others ++ [order]
                 orderVersions := (id, order) :: w.orderVersions }
  | .orderChanged id flags =>
      match w.orders.doc id with
      | some e =>
          { w with orders := w.orders.update id (setFlags flags)
                   orderVersions := (id, setFlags flags e) :: w.orderVersions }
      | none => w

/-! ## What an event can do -/

/-- The pages that a tap opens, a payment page apart, and where. -/
inductive Opens (z : Zone) (w : World) : Event → Route → Prop where
  | search (m : MainState) (htop : w.topMain = some m) : Opens z w .showSearch .search
  | detail (docId : String) (hlists : w.listsHotels = true) :
      Opens z w (.openHotel docId) (.detail docId PageState.start)
  | booking (docId : String) (page : PageState) (rest : List Route) (b : BookingDetail)
      (now now' : Int) (habove : w.above = .detail docId page :: rest)
      (hb : page.bookOnTap docId = some b) :
      Opens z w (.bookHotel now now') (.booking b (initState z now now'))
  | picker (field : DateField) (b : BookingDetail) (form : DetailState) (rest : List Route)
      (habove : w.above = .booking b form :: rest) : Opens z w (.tapDate field) (.picker field)
  | orderDetail (version : Nat) (m : MainState) (v : String × OrderDoc)
      (htop : w.topMain = some m) (hv : v ∈ w.orderVersions) (hl : listed m.user.uid v.2 = true) :
      Opens z w (.openOrder version) (.orderDetail (orderItem v.2).onTap)

/-- A page before and after a snapshot or a turn of the carousel. -/
inductive Refreshed (w : World) : Route → Route → Prop where
  | same (r : Route) : Refreshed w r r
  | turned (docId : String) (page : PageState) (index : Nat) :
      Refreshed w (.detail docId page) (.detail docId (pageStep page (.pageChanged index)))
  | gone (docId : String) (page : PageState) :
      Refreshed w (.detail docId page) (.detail docId (pageStep page (.snapshot none)))
  | version (docId : String) (page : PageState) (doc : Doc) (hv : (docId, doc) ∈ w.hotelVersions) :
      Refreshed w (.detail docId page) (.detail docId (pageStep page (.snapshot (some doc))))

/-- The events of the `i`-th payment page that leave it where it is, and when they happen. -/
def Around (w : World) (i : Nat) : SessionEvent → Prop
  | .radio _ => ∃ rest, w.above = .paymentMethod i :: rest
  | .bookNow currentUser =>
      (∃ rest, w.above = .paymentMethod i :: rest) ∧ currentUser = w.currentUser.map User.uid
  | .addFailed _ => True
  | .build => w.base = .payment i
  | .back | .added _ => False

/-- The effect of one event, by cases. -/
inductive Move (z : Zone) (w : World) : Event → World → Prop where
  | stay (e : Event) : Move z w e w
  | user (user : Option User) :
      Move z w (.user user) { w with currentUser := user, events := w.events ++ [user] }
  | deliver (n : Nat) : Move z w (.deliver n) (w.deliver n)
  | tab (value : Nat) (m : MainState) (htop : w.topMain = some m) :
      Move z w (.tab value) { w with base := w.base.setIndex value }
  | exit (m : MainState) (htop : w.topMain = some m) (hindex : m.currentIndex = 3) :
      Move z w .exit
        { w with currentUser := none, events := w.events ++ [none], base := .splash .auth }
  | home (i : Nat) (hbase : w.base = .payment i) :
      Move z w .home { w with base := .main (createMain w.currentUser) }
  | opened (e : Event) (r : Route) (hr : Opens z w e r) : Move z w e (w.push r)
  | refreshed (e : Event) (above : List Route) (h : List.Forall₂ (Refreshed w) w.above above) :
      Move z w e { w with above := above }
  | picked (date : Option PickerDate) (field : DateField) (b : BookingDetail) (form : DetailState)
      (rest : List Route) (habove : w.above = .picker field :: .booking b form :: rest) :
      Move z w (.picked date)
        { w with above := .booking b (formStep z form (field.completion date)) :: rest }
  | edited (field : TextField) (text : String) (b : BookingDetail) (form : DetailState)
      (rest : List Route) (habove : w.above = .booking b form :: rest) :
      Move z w (.edit field text)
        { w with above := .booking b (formStep z form (field.edit text)) :: rest }
  | next (b : BookingDetail) (form : DetailState) (rest : List Route) (pm : PaymentMethod)
      (habove : w.above = .booking b form :: rest) (hpm : nextOnPressed b form = .ok pm) :
      Move z w .next
        { w.push (.paymentMethod w.sessions.length) with
            sessions := w.sessions ++ [(pm, Session.start)] }
  | session (e : Event) (i : Nat) (se : SessionEvent) (h : Around w i se) :
      Move z w e (w.session i se)
  | left (i : Nat) (rest : List Route) (habove : w.above = .paymentMethod i :: rest) :
      Move z w .back { w.session i .back with above := rest }
  | popped (r : Route) (rest : List Route) (habove : w.above = r :: rest)
      (hr : ∀ i, r ≠ .paymentMethod i) : Move z w .back { w with above := rest }
  | stored (i j : Nat) (id : String) (p : PaymentMethod × Session) (order : OrderDoc)
      (hp : w.sessions[i]? = some p) (hj : p.2.pending[j]? = some order)
      (hid : id ∉ w.orders.docs.map Prod.fst) :
      Move z w (.added i j id) (w.store i j id p.2 order)
  | hotelWritten (docId : String) (doc : Doc) :
      Move z w (.hotelWritten docId doc)
        { w with hotelVersions := (docId, doc) :: w.hotelVersions }
  | orderWritten (id : String) (order : OrderDoc) (hid : id ∉ w.orders.docs.map Prod.fst) :
      Move z w (.orderWritten id order)
        { w with orders := w.orders.insert id order
                 others := w.others ++ [order]
                 orderVersions := (id, order) :: w.orderVersions }
  | orderChanged (id : String) (flags : Flags) (e : OrderDoc) (he : w.orders.doc id = some e) :
      Move z w (.orderChanged id flags)
        { w with orders := w.orders.update id (setFlags flags)
                 orderVersions := (id, setFlags flags e) :: w.orderVersions }

/-- A snapshot of the document, or the news that it is gone, for every page of the stack. -/
theorem refreshed_snapshot (w : World) (docId : String) (data : Option Doc)
    (hdata : ∀ doc ∈ data, (docId, doc) ∈ w.hotelVersions) (l : List Route) :
    List.Forall₂ (Refreshed w) l (l.map (Route.snapshot docId data)) := by
  induction l with
  | nil => exact .nil
  | cons r l ih =>
      refine .cons ?_ ih
      match r with
      | .detail docId' page =>
          simp only [Route.snapshot]
          split
          · next heq =>
              cases data with
              | none => exact .gone docId' page
              | some doc => exact .version docId' page doc (heq ▸ hdata doc rfl)
          · exact .same _
      | .search | .booking _ _ | .picker _ | .paymentMethod _ | .orderDetail _ => exact .same _

theorem refreshed_of_mem {w : World} {l l' : List Route} (hl : List.Forall₂ (Refreshed w) l l')
    {r' : Route} (h : r' ∈ l') : ∃ r ∈ l, Refreshed w r r' := by
  induction hl with
  | nil => exact nomatch h
  | cons hr hl ih =>
      rcases List.mem_cons.mp h with rfl | h
      · exact ⟨_, List.mem_cons_self, hr⟩
      · obtain ⟨r, hmem, hr⟩ := ih h
        exact ⟨r, List.mem_cons_of_mem _ hmem, hr⟩

/-- The end of an `add`. -/
theorem step_added (z : Zone) (w : World) (i j : Nat) (id : String) :
    step z w (.added i j id) = w ∨
      ∃ p order, w.sessions[i]? = some p ∧ p.2.pending[j]? = some order ∧
        id ∉ w.orders.docs.map Prod.fst ∧
        step z w (.added i j id) = w.store i j id p.2 order := by
  simp only [step]
  split
  · next p hp =>
      split
      · next order hj =>
          split
          · exact Or.inl rfl
          · next hid => exact Or.inr ⟨p, order, hp, hj, hid, rfl⟩
      · exact Or.inl rfl
  · exact Or.inl rfl

theorem step_move (z : Zone) (w : World) (e : Event) : Move z w e (step z w e) := by
  cases e with
  | user user => exact .user user
  | deliver n => exact .deliver n
  | tab value =>
      simp only [step]
      split
      · next h =>
          obtain ⟨m, hm⟩ := Option.isSome_iff_exists.mp h
          exact .tab value m hm
      · exact .stay _
  | exit =>
      simp only [step]
      split
      · next h =>
          obtain ⟨m, hm, h3⟩ := (Option.any_eq_true _ _).mp h
          exact .exit m hm (beq_iff_eq.mp h3)
      · exact .stay _
  | showSearch =>
      simp only [step]
      split
      · next h =>
          obtain ⟨m, hm, _⟩ := (Option.any_eq_true _ _).mp h
          exact .opened _ _ (.search m hm)
      · exact .stay _
  | openHotel docId =>
      simp only [step]
      split
      · next h => exact .opened _ _ (.detail docId h)
      · exact .stay _
  | snapshot docId version =>
      cases version with
      | none => exact .refreshed _ _ (refreshed_snapshot w docId none (fun _ h => nomatch h) _)
      | some j =>
          simp only [step]
          split
          · next v hv =>
              split
              · next hid =>
                  refine .refreshed _ _ (refreshed_snapshot w docId (some v.2) ?_ _)
                  intro doc hdoc
                  obtain rfl := Option.some.inj hdoc
                  rw [← hid]
                  exact List.mem_of_getElem? hv
              · exact .stay _
          · exact .stay _
  | pageChanged index =>
      simp only [step]
      split
      · next docId page rest habove =>
          refine .refreshed _ _ ?_
          rw [habove]
          exact .cons (.turned docId page index) (List.forall₂_same.mpr fun r _ => .same r)
      · exact .stay _
  | bookHotel now now' =>
      simp only [step]
      split
      · next docId page rest habove =>
          split
          · next b hb => exact .opened _ _ (.booking docId page rest b now now' habove hb)
          · exact .stay _
      · exact .stay _
  | tapDate field =>
      simp only [step]
      split
      · next b form rest habove => exact .opened _ _ (.picker field b form rest habove)
      · exact .stay _
  | picked date =>
      simp only [step]
      split
      · next field b form rest habove => exact .picked date field b form rest habove
      · exact .stay _
  | edit field text =>
      simp only [step]
      split
      · next b form rest habove => exact .edited _ _ b form rest habove
      · exact .stay _
  | next =>
      simp only [step]
      split
      · next b form rest habove =>
          split
          · next pm hpm => exact .next b form rest pm habove hpm
          · exact .stay _
      · exact .stay _
  | radio value =>
      simp only [step]
      split
      · next i rest habove => exact .session _ i _ ⟨rest, habove⟩
      · exact .stay _
  | bookNow =>
      simp only [step]
      split
      · next i rest habove => exact .session _ i _ ⟨⟨rest, habove⟩, rfl⟩
      · exact .stay _
  | added i j id =>
      rcases step_added z w i j id with heq | ⟨p, order, hp, hj, hid, heq⟩
      · rw [heq]
        exact .stay _
      · rw [heq]
        exact .stored i j id p order hp hj hid
  | addFailed i j => exact .session _ i _ trivial
  | build =>
      simp only [step]
      split
      · next i hbase => exact .session _ i _ hbase
      · exact .stay _
  | home =>
      simp only [step]
      split
      · next i hbase => exact .home i hbase
      · exact .stay _
  | back =>
      simp only [step]
      split
      · next i rest habove => exact .left i rest habove
      · next r rest hno habove => exact .popped r rest habove hno
      · exact .stay _
  | openOrder version =>
      simp only [step]
      split
      · next m v hm hv =>
          split
          · next h => exact .opened _ _ (.orderDetail version m v hm (List.mem_of_getElem? hv) h.2)
          · exact .stay _
      · exact .stay _
  | hotelWritten docId doc => exact .hotelWritten docId doc
  | orderWritten id order =>
      simp only [step]
      split
      · exact .stay _
      · next hid => exact .orderWritten id order hid
  | orderChanged id flags =>
      simp only [step]
      split
      · next e he => exact .orderChanged id flags e he
      · exact .stay _

/-! ## Where things come from -/

/-- The dialog on top and the form it was opened from. -/
def topPicker : List Route → Option (DateField × DetailState)
  | .picker field :: .booking _ form :: _ => some (field, form)
  | _ => none

/-- Where a page of the stack after an event comes from. -/
inductive PageFrom (z : Zone) (w : World) (e : Event) : Route → Prop where
  | kept (r r' : Route) (h : r ∈ w.above) (hr : Refreshed w r r') : PageFrom z w e r'
  | opened (r : Route) (hr : Opens z w e r) : PageFrom z w e r
  | picked (date : Option PickerDate) (field : DateField) (b : BookingDetail) (form : DetailState)
      (he : e = .picked date) (htop : topPicker w.above = some (field, form))
      (h : .booking b form ∈ w.above) :
      PageFrom z w e (.booking b (formStep z form (field.completion date)))
  | edited (field : TextField) (text : String) (b : BookingDetail) (form : DetailState)
      (h : .booking b form ∈ w.above) :
      PageFrom z w e (.booking b (formStep z form (field.edit text)))
  | payment : PageFrom z w e (.paymentMethod w.sessions.length)

/-- Where a session after an event comes from. -/
inductive SessionFrom (w : World) : PaymentMethod × Session → Prop where
  | old (p : PaymentMethod × Session) (h : p ∈ w.sessions) : SessionFrom w p
  | stepped (p : PaymentMethod × Session) (se : SessionEvent) (h : p ∈ w.sessions) :
      SessionFrom w (p.1, sessionStep p.1 p.2 se)
  | next (b : BookingDetail) (form : DetailState) (pm : PaymentMethod)
      (h : .booking b form ∈ w.above) (hpm : nextOnPressed b form = .ok pm) :
      SessionFrom w (pm, Session.start)

section From

variable {z : Zone} {w w' : World} {e : Event}

theorem page_from (hm : Move z w e w') {r : Route} (h : r ∈ w'.above) : PageFrom z w e r := by
  have hkept : ∀ r ∈ w.above, PageFrom z w e r := fun r hr => .kept r r hr (.same r)
  cases hm with
  | deliver n =>
      unfold World.deliver at h
      split at h <;> exact hkept r h
  | opened _ r' hr =>
      rcases List.mem_cons.mp h with rfl | h
      · exact .opened _ hr
      · exact hkept r h
  | refreshed _ above hl =>
      obtain ⟨r₀, hr₀, hr⟩ := refreshed_of_mem hl h
      exact .kept r₀ r hr₀ hr
  | picked date field b form rest habove =>
      rcases List.mem_cons.mp h with rfl | h
      · refine .picked date field b form rfl ?_ ?_ <;> rw [habove]
        · rfl
        · exact List.mem_cons_of_mem _ List.mem_cons_self
      · refine hkept r ?_
        rw [habove]
        exact List.mem_cons_of_mem _ (List.mem_cons_of_mem _ h)
  | edited field text b form rest habove =>
      rcases List.mem_cons.mp h with rfl | h
      · refine .edited field text b form ?_
        rw [habove]
        exact List.mem_cons_self
      · refine hkept r ?_
        rw [habove]
        exact List.mem_cons_of_mem _ h
  | next b form rest pm habove hpm =>
      rcases List.mem_cons.mp h with rfl | h
      · exact .payment
      · exact hkept r h
  | left i rest habove =>
      refine hkept r ?_
      rw [habove]
      exact List.mem_cons_of_mem _ h
  | popped r' rest habove hr =>
      refine hkept r ?_
      rw [habove]
      exact List.mem_cons_of_mem _ h
  | stored i j id p order hp hj hid =>
      unfold World.store at h
      split at h
      · exact absurd h List.not_mem_nil
      · exact hkept r h
  | _ => exact hkept r h

theorem mem_session {i : Nat} {se : SessionEvent} {p : PaymentMethod × Session}
    (h : p ∈ (w.session i se).sessions) : SessionFrom w p := by
  obtain ⟨k, hk⟩ := List.mem_iff_getElem?.mp h
  obtain ⟨p', hp', ⟨_, rfl⟩ | ⟨_, rfl⟩⟩ := session_get hk
  · exact .stepped p' se (List.mem_of_getElem? hp')
  · exact .old p (List.mem_of_getElem? hp')

theorem session_from (hm : Move z w e w') {p : PaymentMethod × Session} (h : p ∈ w'.sessions) :
    SessionFrom w p := by
  cases hm with
  | deliver n =>
      unfold World.deliver at h
      split at h <;> exact .old p h
  | next b form rest pm habove hpm =>
      rcases List.mem_append.mp h with h | h
      · exact .old p h
      · rw [List.mem_singleton.mp h]
        refine .next b form pm ?_ hpm
        rw [habove]
        exact List.mem_cons_self
  | session | left | stored => exact mem_session h
  | _ => exact .old p h

/-- A page of an order that is open was open before or was opened just now. -/
theorem orderDetail_from (hm : Move z w e w') {page : OrderDetailPage}
    (h : Route.orderDetail page ∈ w'.above) :
    Route.orderDetail page ∈ w.above ∨ Opens z w e (.orderDetail page) := by
  cases page_from hm h with
  | kept r _ hmem hr =>
      cases hr
      exact Or.inl hmem
  | opened _ hr => exact Or.inr hr

/-- The versions only grow. -/
theorem hotelVersions_grow (hm : Move z w e w') {v : String × Doc} (h : v ∈ w.hotelVersions) :
    v ∈ w'.hotelVersions := by
  cases hm with
  | deliver n =>
      unfold World.deliver
      split <;> exact h
  | hotelWritten docId doc => exact List.mem_cons_of_mem _ h
  | _ => exact h

theorem orderVersions_grow (hm : Move z w e w') {v : String × OrderDoc}
    (h : v ∈ w.orderVersions) : v ∈ w'.orderVersions := by
  cases hm with
  | deliver n =>
      unfold World.deliver
      split <;> exact h
  | stored | orderWritten | orderChanged => exact List.mem_cons_of_mem _ h
  | _ => exact h

end From

end Nginepyuk.Device
