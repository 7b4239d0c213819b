/-
  The two tabs of `OrderPage` as a partition of a user's orders.

  The Ongoing query asks for orders not checked out, the History query for orders both
  canceled and checked out, and the badge looks at `isCanceled` first. The three agree on an
  order exactly when its two flags are equal (`tabs_partition_iff`): an order checked out and
  not canceled is in neither tab, and one canceled and not checked out is under Ongoing with
  the badge Canceled.
-/
import Nginepyuk.Orders.Pages

namespace Nginepyuk.Orders

open Lib.DocStore Nginepyuk.Booking

/-- The tabs of user `u` list exactly the orders of `u`, each once and in one tab, and the
    badge of a listed order says which. -/
structure TabsPartition (orders : Collection OrderDoc) (u : String) : Prop where
  covers : ∀ d, d ∈ ongoingTab orders u ∨ d ∈ historyTab orders u ↔
    d ∈ orders.docs ∧ d.2.userId = u
  once : (ongoingTab orders u ++ historyTab orders u).Nodup
  ongoing_badge : ∀ d ∈ ongoingTab orders u ++ historyTab orders u,
    (orderItem d.2).badge = .ongoing ↔ d ∈ ongoingTab orders u
  history_badge : ∀ d ∈ ongoingTab orders u ++ historyTab orders u,
    (orderItem d.2).badge = .done ∨ (orderItem d.2).badge = .canceled ↔ d ∈ historyTab orders u

theorem mem_ongoingTab {orders : Collection OrderDoc} {u : String} {d : String × OrderDoc} :
    d ∈ ongoingTab orders u ↔ d ∈ orders.docs ∧ d.2.userId = u ∧ d.2.isCheckOut = false := by
  unfold ongoingTab
  rw [Collection.mem_query]
  simp [ongoingFilter]

theorem mem_historyTab {orders : Collection OrderDoc} {u : String} {d : String × OrderDoc} :
    d ∈ historyTab orders u ↔
      d ∈ orders.docs ∧ d.2.userId = u ∧ d.2.isCancel = true ∧ d.2.isCheckOut = true := by
  unfold historyTab
  rw [Collection.mem_query]
  simp [historyFilter, and_assoc]

/-- No order meets both queries. -/
theorem tabs_nodup (orders : Collection OrderDoc) (u : String) :
    (ongoingTab orders u ++ historyTab orders u).Nodup := by
  refine Collection.nodup_append_query orders _ _ ?_
  intro d hd
  simp only [ongoingFilter, historyFilter, Bool.and_eq_true, beq_iff_eq] at hd ⊢
  simp [hd.2]

theorem badge_ongoing_iff (e : OrderDoc) :
    (orderItem e).badge = .ongoing ↔ e.isCancel = false ∧ e.isCheckOut = false := by
  cases hc : e.isCancel <;> cases ho : e.isCheckOut <;> simp [OrderItem.badge, orderItem, hc, ho]

theorem badge_history_iff (e : OrderDoc) :
    (orderItem e).badge = .done ∨ (orderItem e).badge = .canceled ↔
      e.isCancel = true ∨ e.isCheckOut = true := by
  cases hc : e.isCancel <;> cases ho : e.isCheckOut <;> simp [OrderItem.badge, orderItem, hc, ho]

/-- **The tabs partition a user's orders** exactly when every order of the user is canceled
    if and only if it is checked out. -/
theorem tabs_partition_iff (orders : Collection OrderDoc) (u : String) :
    TabsPartition orders u ↔
      ∀ d ∈ orders.docs, d.2.userId = u → d.2.isCancel = d.2.isCheckOut := by
  constructor
  · intro h d hd hu
    have hlisted := (h.covers d).mpr ⟨hd, hu⟩
    rcases hlisted with hon | hhist
    · -- Listed as ongoing: the badge says it is not canceled either.
      have hout := (mem_ongoingTab.mp hon).2.2
      have hb := (h.ongoing_badge d (List.mem_append_left _ hon)).mpr hon
      rw [hout, ((badge_ongoing_iff d.2).mp hb).1]
    · have hm := (mem_historyTab.mp hhist).2.2
      rw [hm.1, hm.2]
  · intro h
    refine ⟨?_, tabs_nodup orders u, ?_, ?_⟩
    · intro d
      rw [mem_ongoingTab, mem_historyTab]
      constructor
      · rintro (⟨hd, hu, _⟩ | ⟨hd, hu, _⟩) <;> exact ⟨hd, hu⟩
      · rintro ⟨hd, hu⟩
        have heq := h d hd hu
        cases hout : d.2.isCheckOut with
        | false => exact Or.inl ⟨hd, hu, rfl⟩
        | true => exact Or.inr ⟨hd, hu, heq.trans hout, rfl⟩
    · intro d hd
      rw [badge_ongoing_iff, mem_ongoingTab]
      rw [List.mem_append, mem_ongoingTab, mem_historyTab] at hd
      obtain ⟨hmem, hu⟩ : d ∈ orders.docs ∧ d.2.userId = u := by
        rcases hd with ⟨hmem, hu, _⟩ | ⟨hmem, hu, _⟩ <;> exact ⟨hmem, hu⟩
      rw [h d hmem hu]
      simp [hmem, hu]
    · intro d hd
      rw [badge_history_iff, mem_historyTab]
      rw [List.mem_append, mem_ongoingTab, mem_historyTab] at hd
      obtain ⟨hmem, hu⟩ : d ∈ orders.docs ∧ d.2.userId = u := by
        rcases hd with ⟨hmem, hu, _⟩ | ⟨hmem, hu, _⟩ <;> exact ⟨hmem, hu⟩
      rw [h d hmem hu]
      simp [hmem, hu]

/-- A stay that was checked out and not canceled. -/
def doneOrder : OrderDoc where
  userId := "u"
  hotelDocId := "hotel"
  title := "Hotel"
  photo := "photo"
  fullName := "Guest"
  email := "guest@mail.com"
  phoneNumber := "0811"
  fullNameTamu := "Guest"
  paymentMethod := "PaymentOption.BCA"
  totalPrice := 100
  checkIn := ⟨2023, 3, 1⟩
  checkOut := ⟨2023, 3, 2⟩
  night := 1
  isPaid := true
  isCancel := false
  isCheckIn := true
  isCheckOut := true

/-- The completed stay is in neither tab of its user. -/
theorem done_order_in_no_tab :
    ¬ ∀ (orders : Collection OrderDoc) (u : String), TabsPartition orders u := by
  intro h
  have hbad := (h ⟨[("order", doneOrder)], by decide⟩ "u").covers ("order", doneOrder)
  revert hbad
  decide

end Nginepyuk.Orders
