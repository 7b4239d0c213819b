/-
  One payment page, its taps and its pending writes: what is ordered and what is confirmed.

  `SessionMove` lists everything one event can do (`sessionStep_move`); the invariants below
  go by its cases.

  * `orders_once_on_page`: a session orders at most once and confirms exactly what it ordered as
    long as every `add` that completes does so while the page is still on the screen; for a
    run with no `add` left pending this is exact.
  * `shows_stored_iff`: after one tap the confirmation shows the stored payment method exactly
    when the radio button of the tap is selected whenever the route's builder runs, and so in
    every run where no other radio button is chosen from the tap on.

  The failing runs: a second tap or a back tap while the first `add` is pending
  (`double_tap_orders_twice`), and a change of the radio button in that time
  (`radio_change_shows_other`).
-/
import Nginepyuk.Booking.PaymentMethod

namespace Nginepyuk.Booking

open Lib.Trace

/-! ## What one event can do -/

/-- The effect of one event on a session, by cases. `stay` is an event that is not possible
    or is swallowed by the `catch`; `confirm` and `orphan` are the two ends of a completed
    `add`, with the page in place and with the page gone. -/
inductive SessionMove (w : PaymentMethod) (s : Session) : SessionEvent → Session → Prop where
  | stay (e : SessionEvent) : SessionMove w s e s
  | book (uid : String) (hp : s.page = .shown) :
      SessionMove w s (.bookNow (some uid))
        { s with pending := s.pending ++ [w.orderDoc uid s.paymentValue] }
  | choose (v : PaymentOption) (hp : s.page ≠ .popped) :
      SessionMove w s (.radio v) { s with paymentValue := some v }
  | pop (hp : s.page = .shown) : SessionMove w s .back { s with page := .popped }
  | confirm (i : Nat) (order : OrderDoc) (hi : s.pending[i]? = some order) (hp : s.page = .shown) :
      SessionMove w s (.added i)
        { s with pending := s.pending.eraseIdx i, orders := s.orders ++ [order],
                 page := .replaced, route := some ⟨order, none⟩ }
  | orphan (i : Nat) (order : OrderDoc) (hi : s.pending[i]? = some order) (hp : s.page ≠ .shown) :
      SessionMove w s (.added i)
        { s with pending := s.pending.eraseIdx i, orders := s.orders ++ [order] }
  | fail (i : Nat) : SessionMove w s (.addFailed i) { s with pending := s.pending.eraseIdx i }
  | build (r : Confirmation) (hr : s.route = some r) :
      SessionMove w s .build
        { s with route := some { r with built := some (w.paymentPage s.paymentValue) } }

theorem sessionStep_move (w : PaymentMethod) (s : Session) (e : SessionEvent) :
    SessionMove w s e (sessionStep w s e) := by
  cases e with
  | bookNow currentUser =>
      simp only [sessionStep]
      split
      · next hp =>
          cases currentUser with
          | none => exact .stay _
          | some uid => exact .book uid hp
      · exact .stay _
  | radio v =>
      simp only [sessionStep]
      split
      · exact .stay _
      · next hp => exact .choose v hp
  | back =>
      simp only [sessionStep]
      split
      · next hp => exact .pop hp
      · exact .stay _
  | added i =>
      simp only [sessionStep]
      split
      · exact .stay _
      · next order hi =>
          simp only [afterAdd]
          split
          · next hp => exact .confirm i order hi hp
          · next hp => exact .orphan i order hi hp
  | addFailed i => exact .fail i
  | build =>
      simp only [sessionStep]
      split
      · exact .stay _
      · next r hr => exact .build r hr

/-- Every document of the session meets `P`: those pending, those stored and the one behind
    the confirmation. -/
def AllDocs (P : OrderDoc → Prop) (s : Session) : Prop :=
  (∀ order ∈ s.pending, P order) ∧ (∀ order ∈ s.orders, P order) ∧ ∀ r ∈ s.route, P r.order

theorem allDocs_start (P : OrderDoc → Prop) : AllDocs P Session.start := by
  simp [AllDocs, Session.start]

theorem allDocs_mono {P Q : OrderDoc → Prop} (hPQ : ∀ order, P order → Q order) {s : Session}
    (h : AllDocs P s) : AllDocs Q s :=
  ⟨fun d hd => hPQ d (h.1 d hd), fun d hd => hPQ d (h.2.1 d hd), fun r hr => hPQ _ (h.2.2 r hr)⟩

/-- Documents are only made by a tap; completing an `add` moves one. -/
theorem allDocs_step (w : PaymentMethod) (P : OrderDoc → Prop) (s : Session) (e : SessionEvent)
    (hnew : ∀ uid, e = .bookNow (some uid) → s.page = .shown → P (w.orderDoc uid s.paymentValue))
    (h : AllDocs P s) : AllDocs P (sessionStep w s e) := by
  obtain ⟨hpend, hord, hroute⟩ := h
  have herase : ∀ i, ∀ d ∈ s.pending.eraseIdx i, P d :=
    fun i d hd => hpend d (List.mem_of_mem_eraseIdx hd)
  have happend : ∀ (l : List OrderDoc) (d : OrderDoc), (∀ x ∈ l, P x) → P d →
      ∀ x ∈ l ++ [d], P x := by
    intro l d hl hd
    rw [List.forall_mem_append, List.forall_mem_singleton]
    exact ⟨hl, hd⟩
  have hm := sessionStep_move w s e
  generalize sessionStep w s e = s' at hm
  cases hm with
  | stay => exact ⟨hpend, hord, hroute⟩
  | book uid hp => exact ⟨happend _ _ hpend (hnew uid rfl hp), hord, hroute⟩
  | choose v hp => exact ⟨hpend, hord, hroute⟩
  | pop hp => exact ⟨hpend, hord, hroute⟩
  | confirm i order hi hp =>
      have hd := hpend order (List.mem_of_getElem? hi)
      refine ⟨herase i, happend _ _ hord hd, ?_⟩
      intro r hr
      obtain rfl := Option.some.inj hr
      exact hd
  | orphan i order hi hp =>
      exact ⟨herase i, happend _ _ hord (hpend order (List.mem_of_getElem? hi)), hroute⟩
  | fail i => exact ⟨herase i, hord, hroute⟩
  | build r hr =>
      refine ⟨hpend, hord, ?_⟩
      intro r' hr'
      obtain rfl := Option.some.inj hr'
      exact hroute r hr

/-- Everything the session stores or shows is made from its widget. -/
def FromWidget (w : PaymentMethod) (s : Session) : Prop :=
  AllDocs (fun order => ∃ uid v, order = w.orderDoc uid v) s ∧
    ∀ r ∈ s.route, ∀ page ∈ r.built, ∃ v, page = w.paymentPage v

theorem fromWidget_step (w : PaymentMethod) (s : Session) (e : SessionEvent)
    (h : FromWidget w s) : FromWidget w (sessionStep w s e) := by
  refine ⟨allDocs_step w _ s e (fun uid _ _ => ⟨uid, s.paymentValue, rfl⟩) h.1, ?_⟩
  have hm := sessionStep_move w s e
  generalize sessionStep w s e = s' at hm
  intro r hr page hpage
  cases hm with
  | confirm i order hi hp =>
      obtain rfl := Option.some.inj hr
      exact nomatch hpage
  | build r' hr' =>
      obtain rfl := Option.some.inj hr
      obtain rfl := Option.some.inj hpage
      exact ⟨s.paymentValue, rfl⟩
  | stay => exact h.2 r hr page hpage
  | book uid hp => exact h.2 r hr page hpage
  | choose v hp => exact h.2 r hr page hpage
  | pop hp => exact h.2 r hr page hpage
  | orphan i order hi hp => exact h.2 r hr page hpage
  | fail i => exact h.2 r hr page hpage

theorem fromWidget_run (w : PaymentMethod) (es : List SessionEvent) :
    FromWidget w (run (sessionStep w) Session.start es) :=
  inv_run_all (fromWidget_step w) _ es ⟨allDocs_start _, by simp [Session.start]⟩

/-! ## At most one order, confirmed -/

/-- At most one document was stored, and once nothing is pending the confirmation was pushed
    exactly when a document was stored. -/
def OrdersOnce (s : Session) : Prop :=
  s.orders.length ≤ 1 ∧ (s.pending = [] → (s.route.isSome ↔ s.orders ≠ []))

instance (s : Session) : Decidable (OrdersOnce s) :=
  inferInstanceAs (Decidable (_ ∧ (_ → _)))

/-- An `add` that completes does so while its page is on the screen. -/
def AddedOnPage (s : Session) : SessionEvent → Prop
  | .added i => i < s.pending.length → s.page = .shown
  | _ => True

/-- What holds in every state of every session: the route is there exactly when the page was
    replaced, and the orders of a page in place or replaced are none or some. -/
structure SessionInv (s : Session) : Prop where
  route_iff : s.route.isSome ↔ s.page = .replaced
  shown_none : s.page = .shown → s.orders = []
  replaced_some : s.page = .replaced → s.orders ≠ []

theorem sessionInv_start : SessionInv Session.start where
  route_iff := by decide
  shown_none := fun _ => rfl
  replaced_some := by decide

theorem sessionInv_step (w : PaymentMethod) (s : Session) (e : SessionEvent)
    (h : SessionInv s) : SessionInv (sessionStep w s e) := by
  have hm := sessionStep_move w s e
  generalize sessionStep w s e = s' at hm
  cases hm with
  | stay => exact h
  | book uid hp => exact ⟨h.route_iff, h.shown_none, h.replaced_some⟩
  | choose v hp => exact ⟨h.route_iff, h.shown_none, h.replaced_some⟩
  | pop hp =>
      refine ⟨?_, by simp, by simp⟩
      simp only [h.route_iff, hp, reduceCtorEq]
  | confirm i order hi hp => exact ⟨by simp, by simp, by simp⟩
  | orphan i order hi hp => exact ⟨h.route_iff, fun hc => absurd hc hp, by simp⟩
  | fail i => exact ⟨h.route_iff, h.shown_none, h.replaced_some⟩
  | build r hr =>
      refine ⟨?_, h.shown_none, h.replaced_some⟩
      rw [← h.route_iff, hr]
      rfl

/-- The orders of a session whose writes all completed on its page. -/
def OrdersMatchPage (s : Session) : Prop :=
  s.orders.length = if s.page = .replaced then 1 else 0

theorem ordersMatchPage_step (w : PaymentMethod) (s : Session) (e : SessionEvent)
    (hadd : AddedOnPage s e) (h : OrdersMatchPage s) : OrdersMatchPage (sessionStep w s e) := by
  have hm := sessionStep_move w s e
  generalize sessionStep w s e = s' at hm
  unfold OrdersMatchPage at h ⊢
  cases hm with
  | stay => exact h
  | book uid hp => exact h
  | choose v hp => exact h
  | pop hp => simpa [hp] using h
  | confirm i order hi hp => simpa [hp] using h
  | orphan i order hi hp =>
      -- The condition rules this end of an `add` out.
      obtain ⟨hlt, _⟩ := List.getElem?_eq_some_iff.mp hi
      exact absurd (hadd hlt) hp
  | fail i => exact h
  | build r hr => exact h

theorem ordersOnce_of_match (s : Session) (hi : SessionInv s) (h : OrdersMatchPage s) :
    OrdersOnce s := by
  unfold OrdersMatchPage at h
  refine ⟨?_, fun _ => ?_⟩
  · rw [h]; split <;> omega
  · rw [hi.route_iff, ← List.length_pos_iff, h]
    split
    · next hp => exact iff_of_true hp Nat.one_pos
    · next hp => exact iff_of_false hp (Nat.lt_irrefl 0)

/-- A session that has gone wrong for good: two documents stored, or one stored with the page
    popped and so never confirmed. -/
def Spoilt (s : Session) : Prop :=
  2 ≤ s.orders.length ∨ (s.page = .popped ∧ s.orders ≠ [])

theorem spoilt_step (w : PaymentMethod) (s : Session) (e : SessionEvent) (h : Spoilt s) :
    Spoilt (sessionStep w s e) := by
  have hm := sessionStep_move w s e
  generalize sessionStep w s e = s' at hm
  unfold Spoilt at h ⊢
  cases hm with
  | stay => exact h
  | book uid hp => exact h
  | choose v hp => exact h
  | pop hp =>
      rcases h with h | h
      · exact Or.inl h
      · rw [hp] at h; exact nomatch h.1
  | confirm i order hi hp =>
      rcases h with h | h
      · left; simp only [List.length_append, List.length_singleton]; omega
      · rw [hp] at h; exact nomatch h.1
  | orphan i order hi hp =>
      rcases h with h | h
      · left; simp only [List.length_append, List.length_singleton]; omega
      · right; exact ⟨h.1, by simp⟩
  | fail i => exact h
  | build r hr => exact h

/-- An `add` that completes with its page gone spoils the session. -/
theorem spoilt_of_not_addedOnPage (w : PaymentMethod) (s : Session) (e : SessionEvent)
    (hi : SessionInv s) (h : ¬ AddedOnPage s e) : Spoilt (sessionStep w s e) := by
  cases e with
  | added i =>
      simp only [AddedOnPage, Classical.not_imp] at h
      obtain ⟨hlt, hp⟩ := h
      simp only [sessionStep, List.getElem?_eq_getElem hlt, afterAdd, if_neg hp]
      cases hpage : s.page with
      | shown => exact absurd hpage hp
      | popped => right; simp
      | replaced =>
          left
          have := List.length_pos_iff.mpr (hi.replaced_some hpage)
          simp only [List.length_append, List.length_singleton]
          omega
  | bookNow currentUser => exact absurd trivial h
  | radio v => exact absurd trivial h
  | back => exact absurd trivial h
  | addFailed i => exact absurd trivial h
  | build => exact absurd trivial h

theorem spoilt_run (w : PaymentMethod) (s : Session) (es : List SessionEvent)
    (hi : SessionInv s) (h : ¬ AllSteps (sessionStep w) AddedOnPage s es) :
    Spoilt (run (sessionStep w) s es) := by
  induction es generalizing s with
  | nil => exact absurd trivial h
  | cons e es ih =>
      by_cases he : AddedOnPage s e
      · exact ih _ (sessionInv_step w s e hi) (fun hall => h ⟨he, hall⟩)
      · exact inv_run_all (spoilt_step w) _ es (spoilt_of_not_addedOnPage w s e hi he)

theorem not_ordersOnce_of_spoilt (s : Session) (hi : SessionInv s) (hp : s.pending = [])
    (h : Spoilt s) : ¬ OrdersOnce s := by
  rintro ⟨hone, hroute⟩
  rcases h with h | ⟨hpop, hne⟩
  · omega
  · have hrep := hi.route_iff.mp ((hroute hp).mpr hne)
    rw [hpop] at hrep
    exact nomatch hrep

/-- **One order, confirmed.** If every `add` that completes does so with the payment page on
    the screen, then in every state of the session at most one document is stored, and once
    nothing is pending the user was taken to the confirmation exactly when one was. For a run
    that ends with nothing pending the condition is also necessary. -/
theorem orders_once_on_page (w : PaymentMethod) (es : List SessionEvent) :
    (AllSteps (sessionStep w) AddedOnPage Session.start es →
      Always (sessionStep w) OrdersOnce Session.start es) ∧
    ((run (sessionStep w) Session.start es).pending = [] →
      Always (sessionStep w) OrdersOnce Session.start es →
        AllSteps (sessionStep w) AddedOnPage Session.start es) := by
  constructor
  · intro hall
    refine always_of_inv (I := fun s => SessionInv s ∧ OrdersMatchPage s) ?_ ?_ _ es hall
      ⟨sessionInv_start, rfl⟩
    · intro s e he h
      exact ⟨sessionInv_step w s e h.1, ordersMatchPage_step w s e he h.2⟩
    · intro s h
      exact ordersOnce_of_match s h.1 h.2
  · intro hpend halw
    by_contra hnot
    have hinv := inv_run_all (sessionInv_step w) _ es sessionInv_start
    exact not_ordersOnce_of_spoilt _ hinv hpend (spoilt_run w _ es sessionInv_start hnot)
      halw.last

/-- A booking of one night for 100, used by the concrete runs. -/
def sampleBooking : PaymentMethod where
  checkIn := ⟨2023, 3, 1⟩
  checkOut := ⟨2023, 3, 2⟩
  night := 1
  fullName := "Guest"
  emailAddress := "guest@mail.com"
  phoneNumber := "0811"
  fullNameTamu := "Guest"
  title := "Hotel"
  photo := "photo"
  price := 100
  hotelDocId := "hotel"

/-- Two taps store two documents; one tap followed by the back arrow stores one that is never
    confirmed. -/
theorem double_tap_orders_twice :
    ¬ (∀ (w : PaymentMethod) (es : List SessionEvent),
        (run (sessionStep w) Session.start es).orders.length ≤ 1) ∧
    ¬ (∀ (w : PaymentMethod) (es : List SessionEvent),
        (run (sessionStep w) Session.start es).pending = [] →
          ((run (sessionStep w) Session.start es).route.isSome ↔
            (run (sessionStep w) Session.start es).orders ≠ [])) := by
  constructor
  · intro h
    have hbad := h sampleBooking
      [.bookNow (some "u"), .bookNow (some "u"), .added 0, .added 0]
    revert hbad
    decide
  · intro h
    have hbad := h sampleBooking [.bookNow (some "u"), .back, .added 0]
    revert hbad
    decide

/-! ## The payment option that is shown -/

/-- The confirmation, once built, shows the option stored in its order. -/
def ShowsStored (s : Session) : Prop :=
  ∀ r ∈ s.route, ∀ page ∈ r.built,
    shownOption page.paymentOption = shownOption r.order.paymentMethod

/-- The route's builder runs with the stored option still selected. -/
def BuildsStoredOption (s : Session) : SessionEvent → Prop
  | .build => ∀ r ∈ s.route, PaymentOption.toText s.paymentValue = r.order.paymentMethod
  | _ => True

/-- A tap on Book Now. -/
def SessionEvent.isTap : SessionEvent → Bool
  | .bookNow _ => true
  | _ => false

/-- The radio button that is selected at the tap, in a run from `s`. -/
def radioAtTap (w : PaymentMethod) (s : Session) (es : List SessionEvent) : Option PaymentOption :=
  (run (sessionStep w) s (es.takeWhile fun e => !e.isTap)).paymentValue

/-- Taps are made with `v` selected. -/
def TapsWith (v : Option PaymentOption) (s : Session) : SessionEvent → Prop
  | .bookNow _ => s.paymentValue = v
  | _ => True

/-- The route's builder runs with `v` selected. -/
def BuildsWith (v : Option PaymentOption) (s : Session) : SessionEvent → Prop
  | .build => s.route.isSome → s.paymentValue = v
  | _ => True

instance (v : Option PaymentOption) (s : Session) :
    (e : SessionEvent) → Decidable (BuildsWith v s e)
  | .build => inferInstanceAs (Decidable (_ → _))
  | .bookNow _ | .radio _ | .back | .added _ | .addFailed _ => isTrue trivial

/-- From a tap on, no radio button but the selected one is chosen. -/
def SelectionKept (s : Session) : SessionEvent → Prop
  | .radio v => (s.pending = [] ∧ s.route = none) ∨ s.paymentValue = some v
  | _ => True

/-- Every payment method written to a document names an option (or `null`). -/
def NamesOption (order : OrderDoc) : Prop := ∃ v, order.paymentMethod = PaymentOption.toText v

/-- Taking the prefix out keeps different options different. -/
theorem shownOption_toText_inj (v v' : Option PaymentOption) :
    shownOption (PaymentOption.toText v) = shownOption (PaymentOption.toText v') ↔
      PaymentOption.toText v = PaymentOption.toText v' := by
  rcases v with _ | (_ | _ | _) <;> rcases v' with _ | (_ | _ | _) <;> decide

theorem toText_inj (v v' : Option PaymentOption) :
    PaymentOption.toText v = PaymentOption.toText v' ↔ v = v' := by
  rcases v with _ | (_ | _ | _) <;> rcases v' with _ | (_ | _ | _) <;> decide

theorem namesOption_step (w : PaymentMethod) (s : Session) (e : SessionEvent)
    (h : AllDocs NamesOption s) : AllDocs NamesOption (sessionStep w s e) :=
  allDocs_step w NamesOption s e (fun _ _ _ => ⟨s.paymentValue, rfl⟩) h

theorem showsStored_step_iff (w : PaymentMethod) (s : Session) (e : SessionEvent)
    (hn : AllDocs NamesOption s) (h : ShowsStored s) :
    ShowsStored (sessionStep w s e) ↔ BuildsStoredOption s e := by
  have hm := sessionStep_move w s e
  cases e with
  | build =>
      cases hr : s.route with
      | none => simp [sessionStep, ShowsStored, BuildsStoredOption, hr]
      | some r =>
          obtain ⟨v, hv⟩ := hn.2.2 r hr
          simp only [sessionStep, hr, ShowsStored, BuildsStoredOption, Option.mem_def,
            Option.some.injEq, forall_eq', PaymentMethod.paymentPage, hv]
          exact shownOption_toText_inj _ _
  | added i =>
      refine iff_of_true ?_ trivial
      generalize sessionStep w s (.added i) = s' at hm
      cases hm with
      | stay => exact h
      | confirm i order hi hp => simp [ShowsStored]
      | orphan i order hi hp => exact h
  | bookNow currentUser =>
      refine iff_of_true ?_ trivial
      generalize sessionStep w s (.bookNow currentUser) = s' at hm
      cases hm <;> exact h
  | radio v =>
      refine iff_of_true ?_ trivial
      generalize sessionStep w s (.radio v) = s' at hm
      cases hm <;> exact h
  | back =>
      refine iff_of_true ?_ trivial
      generalize sessionStep w s .back = s' at hm
      cases hm <;> exact h
  | addFailed i => exact iff_of_true h trivial

/-- Every pending document, and the one behind the confirmation, names the option that is
    selected now. -/
def SelectionStored (s : Session) : Prop :=
  (∀ order ∈ s.pending, order.paymentMethod = PaymentOption.toText s.paymentValue) ∧
    ∀ r ∈ s.route, r.order.paymentMethod = PaymentOption.toText s.paymentValue

theorem selectionStored_step (w : PaymentMethod) (s : Session) (e : SessionEvent)
    (hk : SelectionKept s e) (h : SelectionStored s) : SelectionStored (sessionStep w s e) := by
  obtain ⟨hpend, hroute⟩ := h
  have herase : ∀ i, ∀ d ∈ s.pending.eraseIdx i,
      d.paymentMethod = PaymentOption.toText s.paymentValue :=
    fun i d hd => hpend d (List.mem_of_mem_eraseIdx hd)
  have hm := sessionStep_move w s e
  generalize sessionStep w s e = s' at hm
  cases hm with
  | stay => exact ⟨hpend, hroute⟩
  | book uid hp =>
      refine ⟨?_, hroute⟩
      rw [List.forall_mem_append, List.forall_mem_singleton]
      exact ⟨hpend, rfl⟩
  | choose v hp =>
      rcases hk with ⟨hnone, hnoroute⟩ | hsel
      · exact ⟨by simp [hnone], by simp [hnoroute]⟩
      · have hs : { s with paymentValue := some v } = s := by rw [← hsel]
        rw [hs]
        exact ⟨hpend, hroute⟩
  | pop hp => exact ⟨hpend, hroute⟩
  | confirm i order hi hp =>
      refine ⟨herase i, ?_⟩
      intro r hr
      obtain rfl := Option.some.inj hr
      exact hpend order (List.mem_of_getElem? hi)
  | orphan i order hi hp => exact ⟨herase i, hroute⟩
  | fail i => exact ⟨herase i, hroute⟩
  | build r hr =>
      refine ⟨hpend, ?_⟩
      intro r' hr'
      obtain rfl := Option.some.inj hr'
      exact hroute r hr

theorem buildsStoredOption_of_selectionStored (s : Session) (e : SessionEvent)
    (h : SelectionStored s) : BuildsStoredOption s e := by
  cases e with
  | build => exact fun r hr => (h.2 r hr).symm
  | bookNow currentUser => trivial
  | radio v => trivial
  | back => trivial
  | added i => trivial
  | addFailed i => trivial

/-! ### One tap -/

theorem tapsWith_of_none (w : PaymentMethod) (v : Option PaymentOption) (s : Session)
    (es : List SessionEvent) (hnone : es.filter SessionEvent.isTap = []) :
    AllSteps (sessionStep w) (TapsWith v) s es := by
  induction es generalizing s with
  | nil => trivial
  | cons e es ih =>
      obtain ⟨htap, hrest⟩ := List.forall_mem_cons.mp (List.filter_eq_nil_iff.mp hnone)
      refine ⟨?_, ih _ (List.filter_eq_nil_iff.mpr hrest)⟩
      cases e with
      | bookNow currentUser => exact absurd rfl htap
      | _ => trivial

/-- The only tap of a run is made with the button that is selected then. -/
theorem tapsWith_radioAtTap (w : PaymentMethod) (s : Session) (es : List SessionEvent)
    (hone : (es.filter SessionEvent.isTap).length ≤ 1) :
    AllSteps (sessionStep w) (TapsWith (radioAtTap w s es)) s es := by
  induction es generalizing s with
  | nil => trivial
  | cons e es ih =>
      cases htap : e.isTap with
      | true =>
          rw [List.filter_cons_of_pos htap, List.length_cons] at hone
          have hradio : radioAtTap w s (e :: es) = s.paymentValue := by
            rw [radioAtTap, List.takeWhile_cons_of_neg (by simp [htap]), run_nil]
          rw [hradio]
          refine ⟨?_, tapsWith_of_none w _ _ es (List.length_eq_zero_iff.mp (by omega))⟩
          cases e with
          | bookNow currentUser => rfl
          | _ => trivial
      | false =>
          rw [List.filter_cons_of_neg (by simp [htap])] at hone
          have hradio : radioAtTap w s (e :: es) = radioAtTap w (sessionStep w s e) es := by
            rw [radioAtTap, List.takeWhile_cons_of_pos (by simp [htap]), run_cons, radioAtTap]
          rw [hradio]
          refine ⟨?_, ih _ hone⟩
          cases e with
          | bookNow currentUser => cases htap
          | _ => trivial

/-- When all documents name `v`, the builder runs with the stored option exactly if it runs with
    `v`. -/
theorem buildsStoredOption_iff {v : Option PaymentOption} {s : Session}
    (h : AllDocs (fun order => order.paymentMethod = PaymentOption.toText v) s) (e : SessionEvent) :
    BuildsStoredOption s e ↔ BuildsWith v s e := by
  cases e with
  | build =>
      simp only [BuildsStoredOption, BuildsWith]
      constructor
      · intro hbuild hsome
        obtain ⟨r, hr⟩ := Option.isSome_iff_exists.mp hsome
        exact (toText_inj _ _).mp ((hbuild r hr).trans (h.2.2 r hr))
      · intro hbuild r hr
        rw [h.2.2 r hr, hbuild (Option.isSome_iff_exists.mpr ⟨r, hr⟩)]
  | _ => exact Iff.rfl

/-- **The confirmation shows the stored method.** In every run with one tap, the built
    confirmation shows the option of its stored order in every state exactly when the radio button
    that was selected at the tap is selected each time the route's builder runs. In particular
    this holds in every run where, from the tap on, no radio button but the selected one is
    chosen. -/
theorem shows_stored_iff (w : PaymentMethod) (es : List SessionEvent)
    (hone : (es.filter SessionEvent.isTap).length = 1) :
    (Always (sessionStep w) ShowsStored Session.start es ↔
      AllSteps (sessionStep w) (BuildsWith (radioAtTap w Session.start es)) Session.start es) ∧
    (AllSteps (sessionStep w) SelectionKept Session.start es →
      Always (sessionStep w) ShowsStored Session.start es) := by
  have hshow : ShowsStored Session.start := by simp [ShowsStored, Session.start]
  have hsel : SelectionStored Session.start := by simp [SelectionStored, Session.start]
  have htaps := tapsWith_radioAtTap w Session.start es (Nat.le_of_eq hone)
  generalize radioAtTap w Session.start es = v at htaps
  constructor
  · refine always_iff_allSteps_of
      (I := AllDocs fun order => order.paymentMethod = PaymentOption.toText v) ?_ ?_ _ es htaps
      (allDocs_start _) hshow
    · intro s e hc h
      refine allDocs_step w _ s e ?_ h
      rintro uid rfl _
      exact congrArg PaymentOption.toText hc
    · intro s e h hq
      rw [showsStored_step_iff w s e (allDocs_mono (fun order ho => ⟨v, ho⟩) h) hq]
      exact buildsStoredOption_iff h e
  · intro hall
    refine always_of_inv (I := fun s => SelectionStored s ∧ AllDocs NamesOption s ∧ ShowsStored s)
      ?_ (fun s h => h.2.2) _ es hall ⟨hsel, allDocs_start _, hshow⟩
    intro s e he h
    obtain ⟨h1, h2, h3⟩ := h
    have hb := buildsStoredOption_of_selectionStored s e h1
    exact ⟨selectionStored_step w s e he h1, namesOption_step w s e h2,
      (showsStored_step_iff w s e h2 h3).mpr hb⟩

/-- BNI is selected at the tap, then BCA, and BNI again before the page is built. -/
theorem radio_changed_back_shows_stored :
    Always (sessionStep sampleBooking) ShowsStored Session.start
      [.radio .BNI, .bookNow (some "u"), .radio .BCA, .radio .BNI, .added 0, .build] :=
  (shows_stored_iff sampleBooking
    [.radio .BNI, .bookNow (some "u"), .radio .BCA, .radio .BNI, .added 0, .build] rfl).1.mpr
    (by decide)

/-- One tap with BCA selected, then BNI is chosen while the `add` is pending: the order says
    BCA and the confirmation shows BNI. -/
theorem radio_change_shows_other :
    ¬ ∀ (w : PaymentMethod) (es : List SessionEvent),
      (es.filter SessionEvent.isTap).length = 1 →
        ShowsStored (run (sessionStep w) Session.start es) := by
  intro h
  have hbad := h sampleBooking [.bookNow (some "u"), .radio .BNI, .added 0, .build] (by decide)
  have hshown := hbad ⟨sampleBooking.orderDoc "u" (some .BCA), _⟩ rfl _ rfl
  revert hshown
  decide

end Nginepyuk.Booking
