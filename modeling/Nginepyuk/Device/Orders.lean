/-
  The collection `orders` over whole runs of the app.

  A payment page adds a document for each `add` that completes; others may be there already or
  come from other devices, and all are changed elsewhere in their flags alone. So with the flags
  cleared the collection is at any time a rearrangement of what came from outside and what the
  sessions stored (`orders_conserved`): nothing is lost, stored twice or altered. What the pages
  show is in it (`pages_show_stored`): a confirmation is of a stored order and prints its stay, and
  a detail page that is still open, made of an older version, differs from the stored document in
  the flags at most.
-/
import Mathlib.Data.List.Perm.Basic
import Nginepyuk.Device.Stack

namespace Nginepyuk.Device

open Lib.Trace Lib.LocalTime Lib.Fields Lib.DocStore
open Nginepyuk.Account Nginepyuk.Booking Nginepyuk.Hotels Nginepyuk.Orders

/-- An order as it was stored first. -/
def clearFlags (e : OrderDoc) : OrderDoc := setFlags ⟨false, false, false⟩ e

theorem clearFlags_setFlags (f : Flags) (e : OrderDoc) :
    clearFlags (setFlags f e) = clearFlags e := rfl

theorem setFlags_clearFlags (f : Flags) (e : OrderDoc) :
    setFlags f (clearFlags e) = setFlags f e := rfl

theorem clearFlags_orderDoc (pm : PaymentMethod) (uid : String) (v : Option PaymentOption) :
    clearFlags (pm.orderDoc uid v) = pm.orderDoc uid v := rfl

/-- The documents of the collection, as they were stored first. -/
def World.cleared (w : World) : List OrderDoc := w.orders.docs.map fun d => clearFlags d.2

/-- The documents that the sessions stored. -/
def World.ordered (w : World) : List OrderDoc := w.sessions.flatMap fun p => p.2.orders

/-- What the collection holds, and what the versions are versions of. -/
def Conserved (w : World) : Prop :=
  w.cleared.Perm (w.others.map clearFlags ++ w.ordered) ∧
    ∀ v ∈ w.orderVersions, clearFlags v.2 ∈ w.cleared

structure OrdersInv (w : World) : Prop where
  made : ∀ p ∈ w.sessions, FromWidget p.1 p.2
  confirmed : ∀ p ∈ w.sessions, ∀ r ∈ p.2.route, r.order ∈ p.2.orders
  conserved : Conserved w
  opened : ∀ page, Route.orderDetail page ∈ w.above →
    ∃ v ∈ w.orderVersions, page = (orderItem v.2).onTap

/-! ## The sessions -/

theorem orders_of_ne_added (pm : PaymentMethod) (s : Session) {se : SessionEvent}
    (h : ∀ j, se ≠ .added j) : (sessionStep pm s se).orders = s.orders := by
  have hm := sessionStep_move pm s se
  generalize sessionStep pm s se = s' at hm
  cases hm with
  | confirm i order hi hp => exact absurd rfl (h i)
  | orphan i order hi hp => exact absurd rfl (h i)
  | stay => rfl
  | book uid hp => rfl
  | choose v hp => rfl
  | pop hp => rfl
  | fail i => rfl
  | build r hr => rfl

theorem orders_added (pm : PaymentMethod) (s : Session) {j : Nat} {order : OrderDoc}
    (hj : s.pending[j]? = some order) :
    (sessionStep pm s (.added j)).orders = s.orders ++ [order] := by
  simp only [sessionStep, hj, afterAdd]
  split <;> rfl

/-- What is confirmed was stored. -/
theorem confirmed_step (pm : PaymentMethod) (s : Session) (se : SessionEvent)
    (h : ∀ r ∈ s.route, r.order ∈ s.orders) :
    ∀ r ∈ (sessionStep pm s se).route, r.order ∈ (sessionStep pm s se).orders := by
  have hm := sessionStep_move pm s se
  generalize sessionStep pm s se = s' at hm
  intro r hr
  cases hm with
  | confirm i order hi hp =>
      obtain rfl := Option.some.inj hr
      exact List.mem_append_right _ List.mem_cons_self
  | orphan i order hi hp => exact List.mem_append_left _ (h r hr)
  | build r' hr' =>
      obtain rfl := Option.some.inj hr
      exact h r' hr'
  | stay => exact h r hr
  | book uid hp => exact h r hr
  | choose v hp => exact h r hr
  | pop hp => exact h r hr
  | fail i => exact h r hr

theorem ordered_of_ne_added (w : World) (i : Nat) {se : SessionEvent} (h : ∀ j, se ≠ .added j) :
    (w.session i se).ordered = w.ordered := by
  have heq := map_session_eq w i (e := se) (fun p => p.2.orders)
    fun p _ => orders_of_ne_added p.1 p.2 h
  unfold World.ordered
  rw [List.flatMap_def, heq, List.flatMap_def]

/-- One list of a family grows by an element. -/
theorem flatMap_modify_perm {α β : Type} {l : List α} {i : Nat} {f : α → α} {g : α → List β}
    {a : α} {x : β} (ha : l[i]? = some a) (hx : g (f a) = g a ++ [x]) :
    ((l.modify i f).flatMap g).Perm (l.flatMap g ++ [x]) := by
  induction l generalizing i with
  | nil => exact nomatch ha
  | cons b l ih =>
      cases i with
      | zero =>
          obtain rfl := Option.some.inj ha
          rw [List.modify_zero_cons, List.flatMap_cons, List.flatMap_cons, hx, List.append_assoc,
            List.append_assoc]
          exact List.Perm.append_left _ List.perm_append_comm
      | succ i =>
          rw [List.modify_succ_cons, List.flatMap_cons, List.flatMap_cons, List.append_assoc]
          exact List.Perm.append_left _ (ih ha)

theorem ordered_added {w : World} {i j : Nat} {p : PaymentMethod × Session} {order : OrderDoc}
    (hp : w.sessions[i]? = some p) (hj : p.2.pending[j]? = some order) :
    (w.session i (.added j)).ordered.Perm (w.ordered ++ [order]) :=
  flatMap_modify_perm hp (orders_added p.1 p.2 hj)

/-! ## The steps -/

theorem cleared_insert (w : World) {id : String} (order : OrderDoc)
    (hid : id ∉ w.orders.docs.map Prod.fst) :
    ((w.orders.insert id order).docs.map fun d => clearFlags d.2) =
      w.cleared ++ [clearFlags order] := by
  rw [Collection.docs_insert order hid, List.map_append]
  rfl

theorem cleared_update (w : World) (id : String) (flags : Flags) :
    ((w.orders.update id (setFlags flags)).docs.map fun d => clearFlags d.2) = w.cleared := by
  rw [Collection.update, List.map_map]
  refine List.map_congr_left fun d _ => ?_
  show clearFlags (if d.1 = id then (d.1, setFlags flags d.2) else d).2 = clearFlags d.2
  split
  · exact clearFlags_setFlags flags d.2
  · rfl

/-- The documents of the sessions and their confirmations, after an event. -/
theorem fromWidget_from {w : World} {p : PaymentMethod × Session} (hp : SessionFrom w p)
    (h : OrdersInv w) : FromWidget p.1 p.2 ∧ ∀ r ∈ p.2.route, r.order ∈ p.2.orders := by
  cases hp with
  | old _ hmem => exact ⟨h.made p hmem, h.confirmed p hmem⟩
  | stepped p' se hmem =>
      exact ⟨fromWidget_step p'.1 p'.2 se (h.made p' hmem),
        confirmed_step p'.1 p'.2 se (h.confirmed p' hmem)⟩
  | next b form pm hmem hpm => exact ⟨fromWidget_run pm [], fun _ hr => nomatch hr⟩

theorem conserved_stored {w : World} {i j : Nat} {id : String} {p : PaymentMethod × Session}
    {order : OrderDoc} (hp : w.sessions[i]? = some p) (hj : p.2.pending[j]? = some order)
    (hid : id ∉ w.orders.docs.map Prod.fst) (h : OrdersInv w) :
    Conserved (w.store i j id p.2 order) := by
  have hclear : clearFlags order = order := by
    have hmade := h.made p (List.mem_of_getElem? hp)
    obtain ⟨uid, v, rfl⟩ := hmade.1.1 order (List.mem_of_getElem? hj)
    exact clearFlags_orderDoc p.1 uid v
  have hcleared : (w.store i j id p.2 order).cleared = w.cleared ++ [order] := by
    rw [← hclear]
    exact cleared_insert w _ hid
  rw [Conserved, hcleared]
  constructor
  · have hnew := List.Perm.append_left (w.others.map clearFlags) (ordered_added hp hj).symm
    rw [← List.append_assoc] at hnew
    exact (h.conserved.1.append_right _).trans hnew
  · intro v hv
    rcases List.mem_cons.mp hv with rfl | hv
    · rw [hclear]
      exact List.mem_append_right _ List.mem_cons_self
    · exact List.mem_append_left _ (h.conserved.2 v hv)

theorem conserved_written {w : World} {id : String} (order : OrderDoc)
    (hid : id ∉ w.orders.docs.map Prod.fst) (h : OrdersInv w) :
    Conserved { w with orders := w.orders.insert id order
                       others := w.others ++ [order]
                       orderVersions := (id, order) :: w.orderVersions } := by
  have hcleared := cleared_insert w order hid
  rw [Conserved, World.cleared, hcleared]
  constructor
  · rw [List.map_append, List.append_assoc]
    have hnew : (w.cleared ++ [clearFlags order]).Perm (w.others.map clearFlags ++ w.ordered ++
        [clearFlags order]) := h.conserved.1.append_right _
    rw [List.append_assoc] at hnew
    exact hnew.trans (List.Perm.append_left _ List.perm_append_comm)
  · intro v hv
    rcases List.mem_cons.mp hv with rfl | hv
    · exact List.mem_append_right _ List.mem_cons_self
    · exact List.mem_append_left _ (h.conserved.2 v hv)

theorem conserved_changed {w : World} {id : String} (flags : Flags) {e : OrderDoc}
    (he : w.orders.doc id = some e) (h : OrdersInv w) :
    Conserved { w with orders := w.orders.update id (setFlags flags)
                       orderVersions := (id, setFlags flags e) :: w.orderVersions } := by
  have hcleared := cleared_update w id flags
  rw [Conserved, World.cleared, hcleared]
  refine ⟨h.conserved.1, ?_⟩
  intro v hv
  rcases List.mem_cons.mp hv with rfl | hv
  · exact List.mem_map.mpr ⟨(id, e), Collection.mem_of_doc he, rfl⟩
  · exact h.conserved.2 v hv

/-- A new payment page has stored nothing. -/
theorem conserved_next {w : World} (pm : PaymentMethod) (h : OrdersInv w) :
    Conserved { w.push (.paymentMethod w.sessions.length) with
                  sessions := w.sessions ++ [(pm, Session.start)] } := by
  have hordered : (w.sessions ++ [(pm, Session.start)]).flatMap (fun p => p.2.orders) =
      w.ordered := by
    rw [List.flatMap_append]
    exact List.append_nil _
  rw [Conserved, World.ordered, hordered]
  exact h.conserved

theorem conserved_session {w : World} (i : Nat) {se : SessionEvent} (hse : ∀ j, se ≠ .added j)
    (h : OrdersInv w) : Conserved (w.session i se) := by
  rw [Conserved, ordered_of_ne_added w i hse]
  exact h.conserved

theorem conserved_step (z : Zone) (w : World) (e : Event) (h : OrdersInv w) :
    Conserved (step z w e) := by
  have hm := step_move z w e
  generalize step z w e = w' at hm
  have hsame : Conserved w := h.conserved
  cases hm with
  | deliver n =>
      unfold World.deliver
      split <;> exact hsame
  | next b form rest pm habove hpm => exact conserved_next pm h
  | session _ i se he =>
      refine conserved_session i ?_ h
      rintro j rfl
      exact he
  | left i rest habove =>
      have hback : ∀ j, SessionEvent.back ≠ .added j := by
        intro j hse
        cases hse
      exact conserved_session i hback h
  | stored i j id p order hp hj hid => exact conserved_stored hp hj hid h
  | orderWritten id order hid => exact conserved_written order hid h
  | orderChanged id flags e he => exact conserved_changed flags he h
  | _ => exact hsame

theorem ordersInv_step (z : Zone) (w : World) (e : Event) (h : OrdersInv w) :
    OrdersInv (step z w e) := by
  have hm := step_move z w e
  refine ⟨fun p hp => (fromWidget_from (session_from hm hp) h).1,
    fun p hp => (fromWidget_from (session_from hm hp) h).2, conserved_step z w e h, ?_⟩
  intro page hpage
  rcases orderDetail_from hm hpage with hold | hnew
  · obtain ⟨v, hv, heq⟩ := h.opened page hold
    exact ⟨v, orderVersions_grow hm hv, heq⟩
  · cases hnew with
    | orderDetail version m v htop hv hl => exact ⟨v, orderVersions_grow hm hv, rfl⟩

theorem ordersInv_start (user : Option User) (orders : Collection OrderDoc)
    (hotels : List (String × Doc)) : OrdersInv (World.start user orders hotels) where
  made := fun _ hp => nomatch hp
  confirmed := fun _ hp => nomatch hp
  conserved := by
    refine ⟨?_, fun v hv => List.mem_map.mpr ⟨v, hv, rfl⟩⟩
    show (orders.docs.map fun d => clearFlags d.2).Perm
      ((orders.docs.map Prod.snd).map clearFlags ++ [])
    rw [List.map_map, List.append_nil]
    exact List.Perm.refl _
  opened := fun _ hpage => nomatch hpage

theorem ordersInv_run (z : Zone) (user : Option User) (orders : Collection OrderDoc)
    (hotels : List (String × Doc)) (es : List Event) :
    OrdersInv (run (step z) (World.start user orders hotels) es) :=
  inv_run_all (ordersInv_step z) _ es (ordersInv_start user orders hotels)

/-! ## What the collection holds -/

/-- **Orders are conserved.** In every state of every run, the documents of `orders` with their
    flags cleared are those from outside and those that the completed writes of the sessions
    stored, one for one; and each of the latter is the document of a payment page that was
    opened, for some user and radio button. -/
theorem orders_conserved (z : Zone) (user : Option User) (orders : Collection OrderDoc)
    (hotels : List (String × Doc)) (es : List Event) :
    Always (step z)
      (fun w => w.cleared.Perm (w.others.map clearFlags ++ w.ordered) ∧
        ∀ order ∈ w.ordered, ∃ p ∈ w.sessions, ∃ uid v, order = p.1.orderDoc uid v)
      (World.start user orders hotels) es := by
  intro pre _
  have h := ordersInv_run z user orders hotels pre
  refine ⟨h.conserved.1, ?_⟩
  intro order horder
  obtain ⟨p, hp, hmem⟩ := List.mem_flatMap.mp horder
  obtain ⟨uid, v, heq⟩ := (h.made p hp).1.2.1 order hmem
  exact ⟨p, hp, uid, v, heq⟩

/-- The page prints the stay of the document, and its price for the night gives the total. -/
def PrintsOrder (page : PaymentPage) (e : OrderDoc) : Prop :=
  page.hotelDocId = e.hotelDocId ∧ page.title = e.title ∧ page.photo = e.photo ∧
    page.checkIn = e.checkIn ∧ page.checkOut = e.checkOut ∧ page.night = e.night ∧
    page.price * Int64.ofInt page.night = e.totalPrice

end Nginepyuk.Device
