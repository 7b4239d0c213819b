/-
  Whose orders a user makes, confirms and sees.

  The payment page reads the current user at the tap, the order page the user its `MainPage` was
  created with, and the confirmation the order whose `add` completed. `OwnedBy uid` says that all
  that is open belongs to one user, and that whoever is signed in is this user. A session may end
  at any time, with pages open and writes pending; the owner stays. It changes only at a sign-in,
  and if that takes place over a bare stack (`SignsInBare`) there is nothing left of the owner
  before.
-/
import Nginepyuk.Device.Refinement

namespace Nginepyuk.Device

open Lib.Trace Lib.LocalTime Lib.Fields Lib.DocStore
open Nginepyuk.Account Nginepyuk.Booking Nginepyuk.Hotels Nginepyuk.Orders

/-- The user signed in, the `MainPage`, the writes pending of the payment page on the screen, the
    orders that a detail page is open of and the order of a confirmation on the screen are all of
    one user. -/
structure OwnedBy (uid : String) (w : World) : Prop where
  current : ∀ u, w.currentUser = some u → u.uid = uid
  main : ∀ m, w.base.mainState = some m → m.user.uid = uid
  pending : ∀ (i : Nat) (p : PaymentMethod × Session), w.sessions[i]? = some p →
    p.2.page = .shown → ∀ order ∈ p.2.pending, order.userId = uid
  confirmed : ∀ i, w.base = .payment i → ∃ p r, w.sessions[i]? = some p ∧
    p.2.route = some r ∧ r.order.userId = uid
  opened : ∀ page, Route.orderDetail page ∈ w.above →
    ∃ v ∈ w.orderVersions, v.2.userId = uid ∧ page = (orderItem v.2).onTap

def Owned (w : World) : Prop := ∃ uid, OwnedBy uid w

/-- A user signs in only over a bare stack. -/
def SignsInBare (w : World) : Event → Prop
  | .user (some _) => w.app.Bare
  | _ => True

instance (w : World) : (e : Event) → Decidable (SignsInBare w e)
  | .user (some _) => inferInstanceAs (Decidable (App.Bare _))
  | .user none | .deliver _ | .tab _ | .exit | .showSearch | .openHotel _ | .snapshot _ _
  | .pageChanged _ | .bookHotel _ _ | .tapDate _ | .picked _ | .edit _ _ | .next | .radio _
  | .bookNow | .added _ _ _ | .addFailed _ _ | .build | .home | .back | .openOrder _
  | .hotelWritten _ _ | .orderWritten _ _ | .orderChanged _ _ => isTrue trivial

/-! ## The sessions -/

theorem mem_pending_step (pm : PaymentMethod) (s : Session) (se : SessionEvent)
    {order : OrderDoc} (h : order ∈ (sessionStep pm s se).pending) :
    order ∈ s.pending ∨ ∃ uid, se = .bookNow (some uid) ∧
      order = pm.orderDoc uid s.paymentValue := by
  have hm := sessionStep_move pm s se
  generalize sessionStep pm s se = s' at h hm
  cases hm with
  | book uid hp =>
      rcases List.mem_append.mp h with h | h
      · exact Or.inl h
      · exact Or.inr ⟨uid, rfl, List.mem_singleton.mp h⟩
  | confirm i order' hi hp => exact Or.inl (List.mem_of_mem_eraseIdx h)
  | orphan i order' hi hp => exact Or.inl (List.mem_of_mem_eraseIdx h)
  | fail i => exact Or.inl (List.mem_of_mem_eraseIdx h)
  | stay => exact Or.inl h
  | choose v hp => exact Or.inl h
  | pop hp => exact Or.inl h
  | build r hr => exact Or.inl h

/-- Once the page is off the screen nothing is confirmed anew. -/
theorem route_kept (pm : PaymentMethod) (s : Session) (se : SessionEvent) {r : Confirmation}
    (hpage : s.page ≠ .shown) (hr : s.route = some r) :
    ∃ r', (sessionStep pm s se).route = some r' ∧ r'.order = r.order := by
  have hm := sessionStep_move pm s se
  generalize sessionStep pm s se = s' at hm
  cases hm with
  | confirm i order hi hp => exact absurd hp hpage
  | build r' hr' =>
      obtain rfl := Option.some.inj (hr.symm.trans hr')
      exact ⟨_, rfl, rfl⟩
  | stay => exact ⟨r, hr, rfl⟩
  | book uid hp => exact ⟨r, hr, rfl⟩
  | choose v hp => exact ⟨r, hr, rfl⟩
  | pop hp => exact ⟨r, hr, rfl⟩
  | orphan i order hi hp => exact ⟨r, hr, rfl⟩
  | fail i => exact ⟨r, hr, rfl⟩

/-- A page never comes back on the screen. -/
theorem shown_of_step (pm : PaymentMethod) (s : Session) (se : SessionEvent)
    (h : (sessionStep pm s se).page = .shown) : s.page = .shown := by
  have hm := sessionStep_move pm s se
  generalize sessionStep pm s se = s' at h hm
  cases hm with
  | pop hp => exact nomatch h
  | confirm i order hi hp => exact nomatch h
  | stay => exact h
  | book uid hp => exact h
  | choose v hp => exact h
  | orphan i order hi hp => exact h
  | fail i => exact h
  | build r hr => exact h

section Session

variable {w : World} {i : Nat} {se : SessionEvent} {uid : String}

theorem pending_session (h : OwnedBy uid w) (hnew : ∀ v, se = .bookNow (some v) → v = uid)
    (k : Nat) (q : PaymentMethod × Session) (hq : (w.session i se).sessions[k]? = some q)
    (hshown : q.2.page = .shown) : ∀ order ∈ q.2.pending, order.userId = uid := by
  intro order horder
  obtain ⟨p, hp, ⟨rfl, rfl⟩ | ⟨_, rfl⟩⟩ := session_get hq
  · rcases mem_pending_step p.1 p.2 se horder with hold | ⟨v, hse, rfl⟩
    · exact h.pending _ p hp (shown_of_step _ _ _ hshown) order hold
    · exact hnew v hse
  · exact h.pending k q hp hshown order horder

theorem confirmed_session (h : OwnedBy uid w) (hs : StackInv w) (k : Nat)
    (hk : w.base = .payment k) : ∃ p r, (w.session i se).sessions[k]? = some p ∧
      p.2.route = some r ∧ r.order.userId = uid := by
  obtain ⟨p, r, hp, hr, howner⟩ := h.confirmed k hk
  by_cases hki : k = i
  · subst hki
    obtain ⟨_, pm, hpage⟩ := hs.confirmed k hk
    rw [pages_of_session hp] at hpage
    have hreplaced : p.2.page = .replaced := (Prod.mk.inj (Option.some.inj hpage)).2
    obtain ⟨r', hr', horder⟩ := route_kept p.1 p.2 se (by rw [hreplaced]; decide) hr
    refine ⟨_, r', session_get_self hp se, hr', ?_⟩
    rw [horder]
    exact howner
  · refine ⟨p, r, ?_, hr, howner⟩
    rw [session_get_ne w hki]
    exact hp

end Session

/-! ## The steps -/

section Step

variable {z : Zone} {w w' : World} {e : Event} {uid : String}

/-- The user of the `MainPage` is the one from before, or the one signed in when it is made. -/
theorem main_from (hm : Move z w e w') {m : MainState} (h : w'.base.mainState = some m) :
    (∃ m₀, w.base.mainState = some m₀ ∧ m.user = m₀.user) ∨ w.currentUser = some m.user := by
  cases hm with
  | deliver n =>
      rw [← root_mainState] at h
      have happ : (w.app.deliver n).root.mainState = some m := by
        rw [← app_deliver]
        exact h
      rcases mainFrom_deliver (e := .deliver n) happ with ⟨m₀, hm₀, huser, _⟩ | ⟨hcur, _⟩
      · exact Or.inl ⟨m₀, (root_mainState w.base).symm.trans hm₀, huser⟩
      · exact Or.inr hcur
  | tab value m' htop =>
      have hset := setIndex_mainState w.base.root value
      rw [← root_setIndex, root_mainState, root_mainState, h] at hset
      obtain ⟨m₀, hm₀, rfl⟩ := Option.map_eq_some_iff.mp hset.symm
      exact Or.inl ⟨m₀, hm₀, rfl⟩
  | exit m' htop hindex => cases h
  | home i hbase =>
      obtain ⟨u, hu, rfl⟩ := Option.map_eq_some_iff.mp h
      exact Or.inr hu
  | stored i j id p order hp hj hid =>
      simp only [World.store] at h
      split at h
      · cases h
      · exact Or.inl ⟨m, h, rfl⟩
  | _ => exact Or.inl ⟨m, h, rfl⟩

theorem main_move (hm : Move z w e w') (h : OwnedBy uid w) (m : MainState)
    (hmain : w'.base.mainState = some m) : m.user.uid = uid := by
  rcases main_from hm hmain with ⟨m₀, hm₀, huser⟩ | hcur
  · rw [huser]
    exact h.main m₀ hm₀
  · exact h.current m.user hcur

/-- The item of an order is in a tab of the user of the `MainPage`. -/
theorem opened_move (hm : Move z w e w') (h : OwnedBy uid w) (page : OrderDetailPage)
    (hpage : Route.orderDetail page ∈ w'.above) :
    ∃ v ∈ w'.orderVersions, v.2.userId = uid ∧ page = (orderItem v.2).onTap := by
  rcases orderDetail_from hm hpage with hold | hnew
  · obtain ⟨v, hv, hrest⟩ := h.opened page hold
    exact ⟨v, orderVersions_grow hm hv, hrest⟩
  · cases hnew with
    | orderDetail version m v htop hv hl =>
        refine ⟨v, orderVersions_grow hm hv, ?_, rfl⟩
        rw [← h.main m (above_of_topMain htop).2]
        unfold listed ongoingFilter historyFilter at hl
        simp only [Bool.or_eq_true, Bool.and_eq_true, beq_iff_eq] at hl
        rcases hl with hl | hl
        · exact hl.1
        · exact hl.1.1

/-- A sign-in over a bare stack: nothing is left of the owner before. -/
theorem ownedBy_signIn (hs : StackInv w) (hbare : w.app.Bare) (u : User) :
    OwnedBy u.uid { w with currentUser := some u, events := w.events ++ [some u] } := by
  have habove : w.above = [] := covered_eq_false.mp hbare.1
  have hmain : w.base.mainState = none :=
    (root_mainState w.base).symm.trans (bare_mainState hbare)
  refine ⟨?_, ?_, ?_, ?_, ?_⟩
  · intro v hv
    obtain rfl := Option.some.inj hv
    rfl
  · intro m hm
    cases hmain.symm.trans hm
  · intro i p hp hshown
    obtain ⟨below, hcons⟩ := hs.shown i p.1 (hshown ▸ pages_of_session hp)
    cases habove.symm.trans hcons
  · intro i hi
    have hroot : w.app.root = .payment := root_eq_payment.mpr ⟨i, hi⟩
    rcases hbare.2 with hr | hr <;> cases hroot.symm.trans hr
  · intro page hpage
    rw [show w.above = [] from habove] at hpage
    exact absurd hpage List.not_mem_nil

/-- A new payment page has nothing pending. -/
theorem pending_next (pm : PaymentMethod) (h : OwnedBy uid w) (i : Nat)
    (p : PaymentMethod × Session) (hp : (w.sessions ++ [(pm, Session.start)])[i]? = some p)
    (hshown : p.2.page = .shown) : ∀ order ∈ p.2.pending, order.userId = uid := by
  rcases Nat.lt_or_ge i w.sessions.length with hlt | hge
  · rw [List.getElem?_append_left hlt] at hp
    exact h.pending i p hp hshown
  · rw [List.getElem?_append_right hge] at hp
    obtain rfl := List.mem_singleton.mp (List.mem_of_getElem? hp)
    exact fun _ horder => absurd horder List.not_mem_nil

theorem confirmed_next (pm : PaymentMethod) (h : OwnedBy uid w) (i : Nat)
    (hi : w.base = .payment i) : ∃ p r, (w.sessions ++ [(pm, Session.start)])[i]? = some p ∧
      p.2.route = some r ∧ r.order.userId = uid := by
  obtain ⟨p, r, hp, hrest⟩ := h.confirmed i hi
  refine ⟨p, r, ?_, hrest⟩
  rw [List.getElem?_append_left (List.getElem?_eq_some_iff.mp hp).1]
  exact hp

/-- The confirmation is pushed for the order that was pending of the page on the screen. -/
theorem confirmed_stored {i j : Nat} {id : String} {p : PaymentMethod × Session} {order : OrderDoc}
    (hs : StackInv w) (hp : w.sessions[i]? = some p) (hj : p.2.pending[j]? = some order)
    (h : OwnedBy uid w) (k : Nat) (hk : (w.store i j id p.2 order).base = .payment k) :
    ∃ q r, (w.session i (.added j)).sessions[k]? = some q ∧ q.2.route = some r ∧
      r.order.userId = uid := by
  by_cases hshown : p.2.page = .shown
  · simp only [World.store, if_pos hshown] at hk
    obtain rfl := Base.payment.inj hk
    refine ⟨_, ⟨order, none⟩, session_get_self hp _, ?_,
      h.pending i p hp hshown order (List.mem_of_getElem? hj)⟩
    simp only [sessionStep, hj, afterAdd, if_pos hshown]
  · simp only [World.store, if_neg hshown] at hk
    exact confirmed_session h hs k hk

/-- Delivery rebuilds a `SplashScreen` or leaves the base. -/
theorem deliver_eq (w : World) (n : Nat) :
    ∃ base, w.deliver n = { w with events := w.events.drop n, base := base } ∧
      (base = w.base ∨ ∃ body, base = .splash body) := by
  unfold World.deliver
  split
  · exact ⟨_, rfl, Or.inr ⟨_, rfl⟩⟩
  · exact ⟨w.base, rfl, Or.inl rfl⟩

theorem owned_step (z : Zone) (w : World) (e : Event) (hs : StackInv w) (hc : SignsInBare w e)
    (h : Owned w) : Owned (step z w e) := by
  obtain ⟨uid, h⟩ := h
  have hm := step_move z w e
  generalize step z w e = w' at hm
  have hopened := opened_move hm h
  have hmain := main_move hm h
  cases hm with
  | user user =>
      cases user with
      | some u => exact ⟨u.uid, ownedBy_signIn hs hc u⟩
      | none => exact ⟨uid, fun _ hu => (by cases hu), hmain, h.pending, h.confirmed, hopened⟩
  | deliver n =>
      obtain ⟨base, heq, hbase⟩ := deliver_eq w n
      rw [heq] at hmain hopened ⊢
      refine ⟨uid, h.current, hmain, h.pending, ?_, hopened⟩
      intro i hi
      rcases hbase with rfl | ⟨body, rfl⟩
      · exact h.confirmed i hi
      · cases hi
  | tab value m htop =>
      have hbase : (w.base.setIndex value).isPayment = false := by
        rw [isPayment_setIndex]
        exact isPayment_of_mainState (above_of_topMain htop).2
      exact ⟨uid, h.current, hmain, h.pending, fun i hi => absurd hi (ne_payment hbase i), hopened⟩
  | exit m htop hindex =>
      exact ⟨uid, fun _ hu => (by cases hu), hmain, h.pending, fun _ hi => (by cases hi), hopened⟩
  | home i hbase =>
      exact ⟨uid, h.current, hmain, h.pending, fun _ hi => (by cases hi), hopened⟩
  | next b form rest pm habove hpm =>
      exact ⟨uid, h.current, hmain, pending_next pm h, confirmed_next pm h, hopened⟩
  | session _ i se he =>
      refine ⟨uid, h.current, hmain, pending_session h ?_, confirmed_session h hs, hopened⟩
      rintro v rfl
      obtain ⟨u, hu, rfl⟩ := Option.map_eq_some_iff.mp he.2.symm
      exact h.current u hu
  | left i rest habove =>
      refine ⟨uid, h.current, hmain, pending_session h ?_, confirmed_session h hs, hopened⟩
      intro v hse
      cases hse
  | stored i j id p order hp hj hid =>
      refine ⟨uid, h.current, hmain, pending_session h ?_, confirmed_stored hs hp hj h, hopened⟩
      intro v hse
      cases hse
  | _ => exact ⟨uid, h.current, hmain, h.pending, h.confirmed, hopened⟩

end Step

/-- Nothing is open at the start, and whoever is signed in is the owner. -/
theorem owned_start (user : Option User) (orders : Collection OrderDoc)
    (hotels : List (String × Doc)) : Owned (World.start user orders hotels) := by
  refine ⟨(user.map User.uid).getD "", ?_, ?_, ?_, ?_, ?_⟩
  · intro u hu
    rw [show user = some u from hu]
    rfl
  · intro m hm
    cases hm
  · intro i p hp
    cases hp
  · intro i hi
    cases hi
  · exact fun page hpage => absurd hpage List.not_mem_nil

/-- **What is open is of one user.** In every run of the app in which users sign in only over a
    bare stack, whenever sessions end and in whatever order writes complete, in every state: the
    user signed in, if any, the `MainPage`, the writes pending of the payment page on the screen,
    the orders whose detail pages are open and the order of a confirmation on the screen are all
    of one user. -/
theorem orders_owned (z : Zone) (user : Option User) (orders : Collection OrderDoc)
    (hotels : List (String × Doc)) (es : List Event)
    (hall : AllSteps (step z) SignsInBare (World.start user orders hotels) es) :
    Always (step z) Owned (World.start user orders hotels) es := by
  refine always_of_inv (I := fun w => StackInv w ∧ Owned w) ?_ (fun w h => h.2) _ es hall
    ⟨stackInv_start user orders hotels, owned_start user orders hotels⟩
  intro w e hc h
  exact ⟨stackInv_step z w e h.1, owned_step z w e h.1 hc h.2⟩

/-- A booking through to its confirmation, then Home, the detail page of the order, and the end of
    the session. -/
def sampleRun : List Event :=
  [.deliver 1, .user (some ⟨"u1", "u1@mail.com"⟩), .deliver 1, .openHotel "h1",
    .snapshot "h1" (some 0), .bookHotel 0 0, .edit .fullName "Guest", .edit .fullNameTamu "Guest",
    .edit .email "u1@mail.com", .edit .phoneNumber "0812", .next, .radio .BNI, .bookNow,
    .added 0 0 "o1", .build, .home, .tab 2, .openOrder 0, .user none]

def sampleStart : World := World.start none ⟨[], List.nodup_nil⟩ [("h1", sampleDoc)]

theorem sampleRun_owned :
    (run (step (Zone.fixed 0)) sampleStart sampleRun).above.length = 1 ∧
      Always (step (Zone.fixed 0)) Owned sampleStart sampleRun :=
  ⟨by decide +kernel, orders_owned (Zone.fixed 0) none ⟨[], List.nodup_nil⟩ [("h1", sampleDoc)]
    sampleRun (by decide +kernel)⟩

end Nginepyuk.Device
