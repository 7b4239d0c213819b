/-
  The stack of pages in every reachable state.

  `LiesOn` says for each page what it lies on: a booking form on the detail page of its hotel,
  a payment page on the form whose Next button would open exactly this page again, and so on.
  `StackInv` is that of the whole stack, with the two facts that tie the payment pages to it:
  a payment page that is on the screen is the top page, and below a confirmation, which was
  pushed by one of them, there is nothing.

  Consequences are drawn by the other modules: an `add` that completes replaces the stack only
  if the user is still on the payment page that started it, and there is no way back from the
  confirmation to a booking.
-/
import Nginepyuk.Device.Navigator

namespace Nginepyuk.Device

open Lib.Trace Lib.LocalTime Lib.Fields Lib.DocStore
open Nginepyuk.Account Nginepyuk.Booking Nginepyuk.Hotels Nginepyuk.Orders

/-- Every payment page that was opened, with its place. -/
def World.pages (w : World) : List (PaymentMethod × PageStatus) :=
  w.sessions.map fun p => (p.1, p.2.page)

def Base.isPayment : Base → Bool
  | .payment _ => true
  | _ => false

/-- What a page lies on: the pages below it, down to the base. -/
def LiesOn (base : Base) (pages : List (PaymentMethod × PageStatus)) : Route → List Route → Prop
  | .search, below => below = [] ∧ base.isPayment = false
  | .orderDetail _, below => below = [] ∧ base.isPayment = false
  | .detail _ _, below => (below = [] ∨ below = [.search]) ∧ base.isPayment = false
  | .booking b _, below => ∃ page rest, below = .detail b.docId page :: rest
  | .picker _, below => ∃ b form rest, below = .booking b form :: rest
  | .paymentMethod i, below => ∃ b form rest pm, below = .booking b form :: rest ∧
      pages[i]? = some (pm, .shown) ∧ nextOnPressed b form = .ok pm

/-- Every page of the stack lies where it should. -/
def Stacked (base : Base) (pages : List (PaymentMethod × PageStatus)) : List Route → Prop
  | [] => True
  | r :: below => LiesOn base pages r below ∧ Stacked base pages below

structure StackInv (w : World) : Prop where
  stacked : Stacked w.base w.pages w.above
  shown : ∀ (i : Nat) (pm : PaymentMethod), w.pages[i]? = some (pm, .shown) →
    ∃ below, w.above = .paymentMethod i :: below
  confirmed : ∀ i, w.base = .payment i → w.above = [] ∧ ∃ pm, w.pages[i]? = some (pm, .replaced)

/-! ## The pages of the sessions -/

theorem sessionStep_page (pm : PaymentMethod) (s : Session) {se : SessionEvent}
    (hback : se ≠ .back) (hadded : ∀ j, se ≠ .added j) : (sessionStep pm s se).page = s.page := by
  have hm := sessionStep_move pm s se
  generalize sessionStep pm s se = s' at hm
  cases hm with
  | stay => rfl
  | book uid hp => rfl
  | choose v hp => rfl
  | pop hp => exact absurd rfl hback
  | confirm i order hi hp => exact absurd rfl (hadded i)
  | orphan i order hi hp => exact absurd rfl (hadded i)
  | fail i => rfl
  | build r hr => rfl

theorem pages_get (w : World) (k : Nat) :
    w.pages[k]? = w.sessions[k]?.map fun p => (p.1, p.2.page) :=
  List.getElem?_map

/-- The places after an event of the `i`-th page. -/
theorem pages_session_get (w : World) {i : Nat} {p : PaymentMethod × Session}
    (hp : w.sessions[i]? = some p) (se : SessionEvent) (k : Nat) :
    (w.session i se).pages[k]? =
      if k = i then some (p.1, (sessionStep p.1 p.2 se).page) else w.pages[k]? := by
  split
  · next hk =>
      rw [hk, pages_get, session_get_self hp]
      rfl
  · next hk => rw [pages_get, pages_get, session_get_ne w hk]

theorem pages_session_eq (w : World) (i : Nat) {se : SessionEvent}
    (h : ∀ p, w.sessions[i]? = some p → (sessionStep p.1 p.2 se).page = p.2.page) :
    (w.session i se).pages = w.pages := by
  refine map_session_eq w i _ fun p hp => ?_
  rw [h p hp]

/-- The session of a page with a known place. -/
theorem session_of_pages {w : World} {i : Nat} {pm : PaymentMethod} {place : PageStatus}
    (h : w.pages[i]? = some (pm, place)) :
    ∃ s, w.sessions[i]? = some (pm, s) ∧ s.page = place := by
  rw [pages_get] at h
  obtain ⟨p, hp, heq⟩ := Option.map_eq_some_iff.mp h
  obtain ⟨rfl, rfl⟩ := Prod.mk.inj heq
  exact ⟨p.2, hp, rfl⟩

theorem pages_of_session {w : World} {i : Nat} {p : PaymentMethod × Session}
    (h : w.sessions[i]? = some p) : w.pages[i]? = some (p.1, p.2.page) := by
  rw [pages_get, h]
  rfl

/-! ## Stacks -/

section Stacked

variable {base : Base} {pages : List (PaymentMethod × PageStatus)}

/-- A stack only asks of its base that it is not the confirmation. -/
theorem stacked_base {base' : Base} (hbase : base'.isPayment = base.isPayment) {l : List Route}
    (h : Stacked base pages l) : Stacked base' pages l := by
  induction l with
  | nil => trivial
  | cons r l ih =>
      refine ⟨?_, ih h.2⟩
      have hr := h.1
      unfold LiesOn at hr ⊢
      rw [hbase]
      exact hr

/-- Below a detail page. -/
theorem stacked_detail {docId : String} {page : PageState} {below : List Route}
    (h : Stacked base pages (.detail docId page :: below))
    (pages' : List (PaymentMethod × PageStatus)) (page' : PageState) :
    Stacked base pages' (.detail docId page' :: below) := by
  obtain ⟨⟨rfl | rfl, hbase⟩, hrest⟩ := h
  · exact ⟨⟨Or.inl rfl, hbase⟩, trivial⟩
  · exact ⟨⟨Or.inr rfl, hbase⟩, ⟨rfl, hbase⟩, trivial⟩

/-- Below a booking form there is no payment page, so nothing depends on the sessions. -/
theorem stacked_booking {b : BookingDetail} {form : DetailState} {below : List Route}
    (h : Stacked base pages (.booking b form :: below))
    (pages' : List (PaymentMethod × PageStatus)) (form' : DetailState) :
    Stacked base pages' (.booking b form' :: below) := by
  obtain ⟨⟨page, rest, rfl⟩, hrest⟩ := h
  exact ⟨⟨page, rest, rfl⟩, stacked_detail hrest pages' page⟩

/-- A new payment page changes nothing for the ones that are there. -/
theorem stacked_append (x : PaymentMethod × PageStatus) {l : List Route}
    (h : Stacked base pages l) : Stacked base (pages ++ [x]) l := by
  induction l with
  | nil => trivial
  | cons r l ih =>
      refine ⟨?_, ih h.2⟩
      have hr := h.1
      cases r with
      | paymentMethod i =>
          obtain ⟨b, form, rest, pm, hl, hpage, hpm⟩ := hr
          refine ⟨b, form, rest, pm, hl, ?_, hpm⟩
          rw [List.getElem?_append_left (List.getElem?_eq_some_iff.mp hpage).1]
          exact hpage
      | search => exact hr
      | detail docId page => exact hr
      | booking b form => exact hr
      | picker field => exact hr
      | orderDetail page => exact hr

theorem liesOn_refreshed {w : World} {r r' : Route} {l l' : List Route} (hr : Refreshed w r r')
    (hl : List.Forall₂ (Refreshed w) l l') (h : LiesOn base pages r l) :
    LiesOn base pages r' l' := by
  -- The page itself keeps its kind; below it at most a detail page got new data.
  have hempty : l = [] → l' = [] := by
    rintro rfl
    cases hl
    rfl
  have hsearch : l = [.search] → l' = [.search] := by
    rintro rfl
    cases hl with
    | cons hs hrest =>
        cases hs
        cases hrest
        rfl
  have hbooking : ∀ b form, (∃ rest, l = .booking b form :: rest) →
      ∃ rest, l' = .booking b form :: rest := by
    rintro b form ⟨rest, rfl⟩
    cases hl with
    | cons hs hrest =>
        cases hs
        exact ⟨_, rfl⟩
  have hdetail : ∀ docId, (∃ page rest, l = .detail docId page :: rest) →
      ∃ page rest, l' = .detail docId page :: rest := by
    rintro docId ⟨page, rest, rfl⟩
    cases hl with
    | cons hs hrest => cases hs <;> exact ⟨_, _, rfl⟩
  have hkept : LiesOn base pages r l' := by
    cases r with
    | search => exact ⟨hempty h.1, h.2⟩
    | detail docId page => exact ⟨h.1.imp hempty hsearch, h.2⟩
    | booking b form => exact hdetail b.docId h
    | picker field =>
        obtain ⟨b, form, hb⟩ := h
        exact ⟨b, form, hbooking b form hb⟩
    | paymentMethod i =>
        obtain ⟨b, form, rest, pm, hl, hpage, hpm⟩ := h
        obtain ⟨rest', hl'⟩ := hbooking b form ⟨rest, hl⟩
        exact ⟨b, form, rest', pm, hl', hpage, hpm⟩
    | orderDetail page => exact ⟨hempty h.1, h.2⟩
  cases hr with
  | same => exact hkept
  | turned docId page index => exact hkept
  | gone docId page => exact hkept
  | version docId page doc hv => exact hkept

theorem stacked_refreshed {w : World} {l l' : List Route}
    (hl : List.Forall₂ (Refreshed w) l l') (h : Stacked base pages l) : Stacked base pages l' := by
  induction hl with
  | nil => trivial
  | cons hr hl ih => exact ⟨liesOn_refreshed hr hl h.1, ih h.2⟩

end Stacked

/-! ## What is on top -/

theorem ne_payment {base : Base} (h : base.isPayment = false) (i : Nat) : base ≠ .payment i := by
  rintro rfl
  exact nomatch h

theorem isPayment_of_mainState {base : Base} {m : MainState} (h : base.mainState = some m) :
    base.isPayment = false := by
  cases base with
  | payment i => exact nomatch h
  | splash body => rfl
  | main m => rfl

theorem isPayment_setIndex (base : Base) (value : Nat) :
    (base.setIndex value).isPayment = base.isPayment := by
  unfold Base.setIndex
  split <;> rfl

theorem above_of_topMain {w : World} {m : MainState} (h : w.topMain = some m) :
    w.above = [] ∧ w.base.mainState = some m := by
  unfold World.topMain at h
  split at h
  · next habove => exact ⟨habove, h⟩
  · exact nomatch h

theorem above_of_listsHotels {w : World} (h : w.listsHotels = true) :
    (w.above = [] ∧ w.base.isPayment = false) ∨ ∃ rest, w.above = .search :: rest := by
  unfold World.listsHotels at h
  split at h
  · next habove =>
      obtain ⟨m, hm, _⟩ := (Option.any_eq_true _ _).mp h
      exact Or.inl ⟨habove, isPayment_of_mainState hm⟩
  · next rest habove => exact Or.inr ⟨rest, habove⟩
  · exact nomatch h

/-- No page lies above the confirmation. -/
theorem StackInv.base_of_cons {w : World} (h : StackInv w) {r : Route} {rest : List Route}
    (habove : w.above = r :: rest) : w.base.isPayment = false := by
  cases hbase : w.base with
  | payment i =>
      have hnil := (h.confirmed i hbase).1
      rw [habove] at hnil
      exact nomatch hnil
  | splash body => rfl
  | main m => rfl

theorem StackInv.stacked_of_cons {w : World} (h : StackInv w) {r : Route} {rest : List Route}
    (habove : w.above = r :: rest) :
    LiesOn w.base w.pages r rest ∧ Stacked w.base w.pages rest := by
  have hs := h.stacked
  rw [habove] at hs
  exact hs

/-- Where a page that a tap opens comes to lie: above no payment page and no confirmation. -/
theorem opens_liesOn {z : Zone} {w : World} {e : Event} {r : Route} (h : StackInv w)
    (hr : Opens z w e r) :
    LiesOn w.base w.pages r w.above ∧ w.base.isPayment = false ∧
      ∀ i below, w.above ≠ .paymentMethod i :: below := by
  cases hr with
  | search m htop =>
      obtain ⟨habove, hm⟩ := above_of_topMain htop
      have hbase := isPayment_of_mainState hm
      rw [habove]
      exact ⟨⟨rfl, hbase⟩, hbase, fun _ _ h => nomatch h⟩
  | detail docId hlists =>
      rcases above_of_listsHotels hlists with ⟨habove, hbase⟩ | ⟨rest, habove⟩
      · rw [habove]
        exact ⟨⟨Or.inl rfl, hbase⟩, hbase, fun _ _ h => nomatch h⟩
      · obtain ⟨⟨rfl, hbase⟩, _⟩ := h.stacked_of_cons habove
        rw [habove]
        exact ⟨⟨Or.inr rfl, hbase⟩, hbase, fun _ _ h => nomatch h⟩
  | booking docId page rest b now now' habove hb =>
      obtain ⟨p, _, rfl⟩ := bookOnTap_eq_some.mp hb
      refine ⟨⟨page, rest, habove⟩, h.base_of_cons habove, ?_⟩
      rw [habove]
      exact fun _ _ h => nomatch h
  | picker field b form rest habove =>
      refine ⟨⟨b, form, rest, habove⟩, h.base_of_cons habove, ?_⟩
      rw [habove]
      exact fun _ _ h => nomatch h
  | orderDetail version m v htop hv hl =>
      obtain ⟨habove, hm⟩ := above_of_topMain htop
      have hbase := isPayment_of_mainState hm
      rw [habove]
      exact ⟨⟨rfl, hbase⟩, hbase, fun _ _ h => nomatch h⟩

/-! ## The invariant -/

/-- New pages on a stack whose top is no payment page and whose base no confirmation. -/
theorem stackInv_above {w : World} {above : List Route} (h : StackInv w)
    (hbase : w.base.isPayment = false) (htop : ∀ i below, w.above ≠ .paymentMethod i :: below)
    (hs : Stacked w.base w.pages above) : StackInv { w with above := above } where
  stacked := hs
  shown := fun i pm hi =>
    have ⟨below, habove⟩ := h.shown i pm hi
    absurd habove (htop i below)
  confirmed := fun i hi => absurd hi (ne_payment hbase i)

/-- Another base that is no confirmation, below the same pages or below none. -/
theorem stackInv_base {w : World} (h : StackInv w) (user : Option User)
    (events : List (Option User)) {base : Base} (hbase : base.isPayment = false)
    (habove : w.above = [] ∨ w.base.isPayment = false) :
    StackInv { w with currentUser := user, events := events, base := base } where
  stacked := by
    rcases habove with habove | hold
    · show Stacked base w.pages w.above
      rw [habove]
      trivial
    · exact stacked_base (hbase.trans hold.symm) h.stacked
  shown := h.shown
  confirmed := fun i hi => absurd hi (ne_payment hbase i)

theorem stackInv_deliver {w : World} (n : Nat) (h : StackInv w) : StackInv (w.deliver n) := by
  unfold World.deliver
  split
  · next snapshot body hlast hbase =>
      exact stackInv_base h w.currentUser _ rfl (Or.inr (by rw [hbase]; rfl))
  · exact ⟨h.stacked, h.shown, h.confirmed⟩

theorem stackInv_refreshed {w : World} {above : List Route}
    (hl : List.Forall₂ (Refreshed w) w.above above) (h : StackInv w) :
    StackInv { w with above := above } where
  stacked := stacked_refreshed hl h.stacked
  shown := fun i pm hi => by
    obtain ⟨below, habove⟩ := h.shown i pm hi
    rw [habove] at hl
    cases hl with
    | cons hr hrest =>
        cases hr
        exact ⟨_, rfl⟩
  confirmed := fun i hi => by
    obtain ⟨habove, hpage⟩ := h.confirmed i hi
    rw [habove] at hl
    cases hl
    exact ⟨rfl, hpage⟩

theorem stackInv_next {w : World} {b : BookingDetail} {form : DetailState} {rest : List Route}
    {pm : PaymentMethod} (habove : w.above = .booking b form :: rest)
    (hpm : nextOnPressed b form = .ok pm) (h : StackInv w) :
    StackInv { w.push (.paymentMethod w.sessions.length) with
                 sessions := w.sessions ++ [(pm, Session.start)] } := by
  have hbase : w.base.isPayment = false := h.base_of_cons habove
  have hlen : w.pages.length = w.sessions.length := List.length_map _
  have hpages : (w.sessions ++ [(pm, Session.start)]).map (fun p => (p.1, p.2.page)) =
      w.pages ++ [(pm, .shown)] := List.map_append
  refine ⟨?_, ?_, ?_⟩
  · show LiesOn w.base _ _ w.above ∧ Stacked w.base _ w.above
    refine ⟨⟨b, form, rest, pm, habove, ?_, hpm⟩, ?_⟩
    · rw [World.pages, hpages, ← hlen, List.getElem?_concat_length]
    · rw [World.pages, hpages]
      exact stacked_append _ h.stacked
  · intro i pm' hi
    rw [World.pages, hpages] at hi
    rcases Nat.lt_or_ge i w.pages.length with hlt | hge
    · rw [List.getElem?_append_left hlt] at hi
      obtain ⟨below, htop⟩ := h.shown i pm' hi
      rw [habove] at htop
      exact nomatch htop
    · have hi' := (List.getElem?_eq_some_iff.mp hi).1
      rw [List.length_append, List.length_singleton] at hi'
      have : i = w.sessions.length := by omega
      exact ⟨w.above, by rw [this]; rfl⟩
  · intro i hi
    exact absurd hi (ne_payment hbase i)

/-- Events that leave the payment pages where they are. -/
theorem stackInv_pages {w : World} {i : Nat} {se : SessionEvent}
    (hpages : (w.session i se).pages = w.pages) (h : StackInv w) : StackInv (w.session i se) where
  stacked := by
    rw [hpages]
    exact h.stacked
  shown := by
    rw [hpages]
    exact h.shown
  confirmed := by
    rw [hpages]
    exact h.confirmed

theorem stackInv_session {w : World} {i : Nat} {se : SessionEvent} (he : Around w i se)
    (h : StackInv w) : StackInv (w.session i se) := by
  refine stackInv_pages (pages_session_eq w i fun p _ => sessionStep_page p.1 p.2 ?_ ?_) h
  · rintro rfl
    exact he
  · rintro j rfl
    exact he

/-- No two payment pages are on the screen. -/
theorem StackInv.shown_unique {w : World} (h : StackInv w) {i k : Nat} {pm pm' : PaymentMethod}
    (hi : w.pages[i]? = some (pm, .shown)) (hk : w.pages[k]? = some (pm', .shown)) : k = i := by
  obtain ⟨below, habove⟩ := h.shown i pm hi
  obtain ⟨below', habove'⟩ := h.shown k pm' hk
  rw [habove] at habove'
  exact (Route.paymentMethod.inj (List.cons.inj habove').1).symm

/-- Once the page on the screen is gone there is none on the screen. -/
theorem StackInv.none_shown {w : World} (h : StackInv w) {i : Nat}
    {p : PaymentMethod × Session} (hp : w.sessions[i]? = some p) (hshown : p.2.page = .shown)
    {se : SessionEvent} (hgone : (sessionStep p.1 p.2 se).page ≠ .shown) (k : Nat)
    (pm : PaymentMethod) : (w.session i se).pages[k]? ≠ some (pm, .shown) := by
  intro hk
  rw [pages_session_get w hp] at hk
  split at hk
  · exact hgone (Prod.mk.inj (Option.some.inj hk)).2
  · next hne => exact hne (h.shown_unique (hshown ▸ pages_of_session hp) hk)

theorem stackInv_left {w : World} {i : Nat} {rest : List Route}
    (habove : w.above = .paymentMethod i :: rest) (h : StackInv w) :
    StackInv { w.session i .back with above := rest } := by
  obtain ⟨⟨b, form, below, pm, rfl, hpage, _⟩, hrest⟩ := h.stacked_of_cons habove
  obtain ⟨s, hp, hshown⟩ := session_of_pages hpage
  have hgone : (sessionStep pm s .back).page ≠ .shown := by
    rw [sessionStep, if_pos hshown]
    intro h
    cases h
  refine ⟨stacked_booking hrest _ form, ?_, ?_⟩
  · intro k pm' hk
    exact absurd hk (h.none_shown hp hshown hgone k pm')
  · intro k hk
    have hnil := (h.confirmed k hk).1
    rw [habove] at hnil
    cases hnil

theorem added_page (pm : PaymentMethod) (s : Session) {j : Nat} {order : OrderDoc}
    (hj : s.pending[j]? = some order) :
    (sessionStep pm s (.added j)).page = if s.page = .shown then .replaced else s.page := by
  simp only [sessionStep, hj, afterAdd]
  split <;> rfl

theorem stackInv_stored {w : World} {i j : Nat} {id : String} {p : PaymentMethod × Session}
    {order : OrderDoc} (hp : w.sessions[i]? = some p) (hj : p.2.pending[j]? = some order)
    (h : StackInv w) : StackInv (w.store i j id p.2 order) := by
  have hpage := added_page p.1 p.2 hj
  by_cases hshown : p.2.page = .shown
  · rw [if_pos hshown] at hpage
    simp only [World.store, if_pos hshown]
    refine ⟨trivial, ?_, ?_⟩
    · intro k pm hk
      refine absurd hk (h.none_shown hp hshown ?_ k pm)
      rw [hpage]
      exact fun h => nomatch h
    · intro k hk
      obtain rfl := Base.payment.inj hk
      refine ⟨rfl, p.1, ?_⟩
      show (w.session i (.added j)).pages[i]? = _
      rw [pages_session_get w hp, if_pos rfl, hpage]
  · rw [if_neg hshown] at hpage
    simp only [World.store, if_neg hshown]
    have hpages : (w.session i (.added j)).pages = w.pages := by
      refine pages_session_eq w i fun q hq => ?_
      obtain rfl := Option.some.inj (hp.symm.trans hq)
      exact hpage
    have hinv := stackInv_pages hpages h
    exact ⟨hinv.stacked, hinv.shown, hinv.confirmed⟩

theorem stackInv_step (z : Zone) (w : World) (e : Event) (h : StackInv w) :
    StackInv (step z w e) := by
  have hm := step_move z w e
  generalize step z w e = w' at hm
  cases hm with
  | stay => exact h
  | user user => exact ⟨h.stacked, h.shown, h.confirmed⟩
  | deliver n => exact stackInv_deliver n h
  | tab value m htop =>
      have hbase := isPayment_of_mainState (above_of_topMain htop).2
      exact stackInv_base h _ _ (by rw [isPayment_setIndex, hbase]) (Or.inr hbase)
  | exit m htop hindex => exact stackInv_base h _ _ rfl (Or.inl (above_of_topMain htop).1)
  | home i hbase => exact stackInv_base h _ _ rfl (Or.inl (h.confirmed i hbase).1)
  | opened _ r hr =>
      obtain ⟨hlies, hbase, htop⟩ := opens_liesOn h hr
      exact stackInv_above h hbase htop ⟨hlies, h.stacked⟩
  | refreshed _ above hl => exact stackInv_refreshed hl h
  | picked date field b form rest habove =>
      have hs := (h.stacked_of_cons habove).2
      refine stackInv_above h (h.base_of_cons habove) ?_ (stacked_booking hs _ _)
      rw [habove]
      exact fun _ _ h => nomatch h
  | edited field text b form rest habove =>
      have hs : Stacked w.base w.pages (.booking b form :: rest) := h.stacked_of_cons habove
      refine stackInv_above h (h.base_of_cons habove) ?_ (stacked_booking hs _ _)
      rw [habove]
      exact fun _ _ h => nomatch h
  | next b form rest pm habove hpm => exact stackInv_next habove hpm h
  | session _ i se he => exact stackInv_session he h
  | left i rest habove => exact stackInv_left habove h
  | popped r rest habove hr =>
      refine stackInv_above h (h.base_of_cons habove) ?_ (h.stacked_of_cons habove).2
      rw [habove]
      exact fun i _ heq => hr i (List.cons.inj heq).1
  | stored i j id p order hp hj hid => exact stackInv_stored hp hj h
  | hotelWritten docId doc => exact ⟨h.stacked, h.shown, h.confirmed⟩
  | orderWritten id order hid => exact ⟨h.stacked, h.shown, h.confirmed⟩
  | orderChanged id flags e he => exact ⟨h.stacked, h.shown, h.confirmed⟩

theorem stackInv_start (user : Option User) (orders : Collection OrderDoc)
    (hotels : List (String × Doc)) : StackInv (World.start user orders hotels) where
  stacked := trivial
  shown := fun _ _ h => nomatch h
  confirmed := fun _ h => nomatch h

/-- **The stack of pages.** In every state of every run of the app, whatever the order of taps,
    snapshots, auth events and completed writes: every page lies where it should, with a payment
    page exactly above the form that would open it again; a payment page that counts as shown is
    the top page, so at most one is; and a confirmation has nothing above it. -/
theorem stack_well_formed (z : Zone) (user : Option User) (orders : Collection OrderDoc)
    (hotels : List (String × Doc)) (es : List Event) :
    Always (step z) StackInv (World.start user orders hotels) es :=
  fun pre _ => inv_run_all (stackInv_step z) _ pre (stackInv_start user orders hotels)

end Nginepyuk.Device
