/-
  The whole booking flow: the form, and every payment page opened from it.

  The user fills in the form, presses Next, and books on the payment page; the back arrow
  returns to the same form, and Next opens another payment page. An `add` started on a page
  that was left may still complete, so the flow keeps every session.

  None of the three stages compares the two dates: the pickers share one range of dates,
  Next only looks at the text fields, and `handleBooking` stores what it is given.
  `ordered_stays_meaningful`: in a zone of constant offset every document is a stay of at
  least one night, for at least the nightly price, if each booking tap finds the check-out
  date after the check-in date and a total that fits in 64 bits, and the first half of that
  condition is necessary. `negative_stay_ordered` is a run that stores a stay of -3 nights.
-/
import Nginepyuk.Booking.Nights
import Nginepyuk.Booking.Session

namespace Nginepyuk.Booking

open Lib.Trace Lib.Civil Lib.LocalTime

/-- The form and the payment pages opened from it, oldest first. -/
structure Flow where
  form : DetailState
  sessions : List (PaymentMethod × Session)
deriving DecidableEq, Repr

/-- The form is the top page: every payment page opened from it was popped. -/
def Flow.formOnTop (f : Flow) : Bool := f.sessions.all fun p => p.2.page = .popped

/-- What happens in the flow: an event of the form, the button Next, or an event around the
    `i`-th payment page. -/
inductive FlowEvent where
  | form (e : FormEvent)
  | next
  | session (i : Nat) (e : SessionEvent)
deriving DecidableEq, Repr

def flowStep (z : Zone) (b : BookingDetail) (f : Flow) : FlowEvent → Flow
  | .form e => if f.formOnTop then { f with form := formStep z f.form e } else f
  | .next =>
      if f.formOnTop then
        match nextOnPressed b f.form with
        | .error _ => f
        | .ok w => { f with sessions := f.sessions ++ [(w, Session.start)] }
      else f
  | .session i e =>
      { f with sessions := f.sessions.modify i fun p => (p.1, sessionStep p.1 p.2 e) }

def Flow.start (z : Zone) (now now' : Int) : Flow := ⟨initState z now now', []⟩

/-! ## The condition -/

/-- A stored stay makes sense for the nightly price `p`. -/
def MeaningfulStay (p : Int64) (order : OrderDoc) : Prop :=
  order.checkIn.toDays < order.checkOut.toDays ∧ 1 ≤ order.night ∧
    p.toInt ≤ order.totalPrice.toInt

/-- Every document of every payment page makes sense. -/
def MeaningfulOrders (b : BookingDetail) (f : Flow) : Prop :=
  ∀ p ∈ f.sessions, AllDocs (MeaningfulStay b.price) p.2

/-- A booking tap on a payment page `w`, with a signed-in user, meets `C w`. -/
def TapMeets (C : PaymentMethod → Prop) (f : Flow) : FlowEvent → Prop
  | .session i (.bookNow (some _)) => ∀ p ∈ f.sessions[i]?, p.2.page = .shown → C p.1
  | _ => True

instance (C : PaymentMethod → Prop) [DecidablePred C] (f : Flow) (e : FlowEvent) :
    Decidable (TapMeets C f e) :=
  match e with
  | .session i (.bookNow (some _)) =>
      inferInstanceAs (Decidable (∀ p ∈ f.sessions[i]?, p.2.page = .shown → C p.1))
  | .session _ (.bookNow none) => isTrue trivial
  | .session _ (.radio _) => isTrue trivial
  | .session _ .back => isTrue trivial
  | .session _ (.added _) => isTrue trivial
  | .session _ (.addFailed _) => isTrue trivial
  | .session _ .build => isTrue trivial
  | .form _ => isTrue trivial
  | .next => isTrue trivial

/-- The check-out date of the booking lies after its check-in date. -/
def LaterCheckOut (w : PaymentMethod) : Prop := w.checkIn.toDays < w.checkOut.toDays

instance : DecidablePred LaterCheckOut := fun _ => inferInstanceAs (Decidable (_ < _))

/-- The price of the stay fits in a 64-bit integer. -/
def TotalFits (w : PaymentMethod) : Prop := w.price.toInt * w.night < 2 ^ 63

instance : DecidablePred TotalFits := fun _ => inferInstanceAs (Decidable (_ < _))

/-! ## Nights in a zone of constant offset -/

/-- A later check-out date is at least one night. -/
def LaterIsNight (s : DetailState) : Prop :=
  s.checkInController.toDays < s.checkOutController.toDays → 1 ≤ s.night

/-- The counter is either the one of `initState` or matches the dates. -/
theorem laterIsNight_step (c : Int) (s : DetailState) (e : FormEvent) (h : LaterIsNight s) :
    LaterIsNight (formStep (Zone.fixed c) s e) := by
  have of_matches : ∀ s' : DetailState, NightMatches s' → LaterIsNight s' := by
    intro s' hm hlt
    unfold NightMatches at hm
    omega
  cases e with
  | checkIn picked =>
      cases picked with
      | none => exact h
      | some p =>
          exact of_matches _ ((nightMatches_checkIn_iff _ s p).mpr (Zone.fixed_daysKept c _ _))
  | checkOut picked =>
      cases picked with
      | none => exact h
      | some p =>
          exact of_matches _ ((nightMatches_checkOut_iff _ s p).mpr (Zone.fixed_daysKept c _ _))
  | fullName text => exact h
  | fullNameTamu text => exact h
  | email text => exact h
  | phoneNumber text => exact h

theorem toInt_total (p : Int64) (n : Int) (h0 : 0 ≤ p.toInt * n) (h : p.toInt * n < 2 ^ 63) :
    (p * Int64.ofInt n).toInt = p.toInt * n := by
  rw [Int64.toInt_mul, Int64.toInt_ofInt]
  have hsize : Int64.size = 2 ^ 64 := rfl
  rw [hsize, Int.mul_bmod_bmod]
  exact Int.bmod_eq_of_le (by omega) (by omega)

/-- A document booked with a later check-out date and a total that fits makes sense. -/
theorem meaningfulStay_orderDoc (b : BookingDetail) (w : PaymentMethod) (uid : String)
    (v : Option PaymentOption) (hpos : 0 < b.price.toInt) (hprice : w.price = b.price)
    (hnight : LaterCheckOut w → 1 ≤ w.night) (hlater : LaterCheckOut w) (hfits : TotalFits w) :
    MeaningfulStay b.price (w.orderDoc uid v) := by
  have hn := hnight hlater
  unfold TotalFits at hfits
  rw [hprice] at hfits
  have hge : b.price.toInt * 1 ≤ b.price.toInt * w.night :=
    Int.mul_le_mul_of_nonneg_left hn (Int.le_of_lt hpos)
  refine ⟨hlater, hn, ?_⟩
  simp only [PaymentMethod.orderDoc, hprice]
  rw [toInt_total _ _ (by omega) hfits]
  omega

/-! ## Runs of the flow -/

/-- What every state of the flow keeps: the form's counter, and on every payment page the
    hotel's price and a counter of the same kind. -/
structure FlowInv (b : BookingDetail) (f : Flow) : Prop where
  form : LaterIsNight f.form
  price : ∀ p ∈ f.sessions, p.1.price = b.price
  night : ∀ p ∈ f.sessions, LaterCheckOut p.1 → 1 ≤ p.1.night

/-- An entry of a list with one entry changed is an old one or the changed one. -/
theorem mem_modify {α : Type} {l : List α} {i : Nat} {f : α → α} {p : α}
    (h : p ∈ l.modify i f) : p ∈ l ∨ ∃ q, l[i]? = some q ∧ p = f q := by
  obtain ⟨j, hj⟩ := List.mem_iff_getElem?.mp h
  rw [List.getElem?_modify] at hj
  cases hq : l[j]? with
  | none => rw [hq] at hj; exact nomatch hj
  | some q =>
      rw [hq] at hj
      obtain rfl := Option.some.inj hj
      by_cases hij : i = j
      · right; exact ⟨q, by rw [hij, hq], by simp [hij]⟩
      · left; simp only [if_neg hij]; exact List.mem_of_getElem? hq

/-- What one event does to the payment pages: nothing, a new page made of the form, or one
    event on one page. -/
theorem mem_flowStep_sessions {z : Zone} {b : BookingDetail} {f : Flow} {e : FlowEvent}
    {p : PaymentMethod × Session} (h : p ∈ (flowStep z b f e).sessions) :
    p ∈ f.sessions ∨ (nextOnPressed b f.form = .ok p.1 ∧ p.2 = Session.start) ∨
      ∃ i se s, e = .session i se ∧ f.sessions[i]? = some (p.1, s) ∧
        p.2 = sessionStep p.1 s se := by
  cases e with
  | form e =>
      simp only [flowStep] at h
      split at h <;> exact Or.inl h
  | next =>
      simp only [flowStep] at h
      split at h
      · split at h
        · exact Or.inl h
        · next w hw =>
            rcases List.mem_append.mp h with h | h
            · exact Or.inl h
            · obtain rfl := List.mem_singleton.mp h
              exact Or.inr (Or.inl ⟨hw, rfl⟩)
      · exact Or.inl h
  | session i se =>
      rcases mem_modify h with h | ⟨q, hq, rfl⟩
      · exact Or.inl h
      · exact Or.inr (Or.inr ⟨i, se, q.2, rfl, hq, rfl⟩)

theorem flowStep_form (z : Zone) (b : BookingDetail) (f : Flow) (e : FlowEvent) :
    (flowStep z b f e).form = f.form ∨ ∃ fe, (flowStep z b f e).form = formStep z f.form fe := by
  cases e with
  | form e =>
      simp only [flowStep]
      split
      · exact Or.inr ⟨e, rfl⟩
      · exact Or.inl rfl
  | next =>
      simp only [flowStep]
      split
      · split <;> exact Or.inl rfl
      · exact Or.inl rfl
  | session i se => exact Or.inl rfl

theorem flowInv_step (c : Int) (b : BookingDetail) (f : Flow) (e : FlowEvent)
    (h : FlowInv b f) : FlowInv b (flowStep (Zone.fixed c) b f e) := by
  refine ⟨?_, ?_, ?_⟩
  · rcases flowStep_form (Zone.fixed c) b f e with hf | ⟨fe, hf⟩
    · rw [hf]; exact h.form
    · rw [hf]; exact laterIsNight_step c f.form fe h.form
  · intro p hp
    rcases mem_flowStep_sessions hp with hp | ⟨hw, _⟩ | ⟨i, se, s, _, hi, _⟩
    · exact h.price p hp
    · exact (nextOnPressed_ok hw).2.2.2
    · exact h.price (p.1, s) (List.mem_of_getElem? hi)
  · intro p hp
    rcases mem_flowStep_sessions hp with hp | ⟨hw, _⟩ | ⟨i, se, s, _, hi, _⟩
    · exact h.night p hp
    · obtain ⟨hin, hout, hn, _⟩ := nextOnPressed_ok hw
      unfold LaterCheckOut
      rw [hin, hout, hn]
      exact h.form
    · exact h.night (p.1, s) (List.mem_of_getElem? hi)

theorem meaningfulOrders_step (c : Int) (b : BookingDetail) (hpos : 0 < b.price.toInt)
    (f : Flow) (e : FlowEvent) (hlater : TapMeets LaterCheckOut f e)
    (hfits : TapMeets TotalFits f e) (hinv : FlowInv b f) (h : MeaningfulOrders b f) :
    MeaningfulOrders b (flowStep (Zone.fixed c) b f e) := by
  intro p hp
  rcases mem_flowStep_sessions hp with hp | ⟨_, hs⟩ | ⟨i, se, s, rfl, hi, hs⟩
  · exact h p hp
  · rw [hs]; exact allDocs_start _
  · rw [hs]
    have hmem := List.mem_of_getElem? hi
    refine allDocs_step p.1 _ s se ?_ (h (p.1, s) hmem)
    rintro uid rfl hshown
    exact meaningfulStay_orderDoc b p.1 uid s.paymentValue hpos (hinv.price (p.1, s) hmem)
      (hinv.night (p.1, s) hmem) (hlater (p.1, s) hi hshown) (hfits (p.1, s) hi hshown)

/-- A tap that leaves only meaningful documents had a later check-out date. -/
theorem laterCheckOut_of_meaningful (z : Zone) (b : BookingDetail) (f : Flow) (e : FlowEvent)
    (h : MeaningfulOrders b (flowStep z b f e)) : TapMeets LaterCheckOut f e := by
  cases e with
  | form e => trivial
  | next => trivial
  | session i se =>
      cases se with
      | bookNow currentUser =>
          cases currentUser with
          | none => trivial
          | some uid =>
              intro p hp hshown
              -- The tap leaves its document pending on the same page.
              have hmem : (p.1, handleBooking p.1 p.2 (some uid)) ∈
                  (flowStep z b f (.session i (.bookNow (some uid)))).sessions := by
                apply List.mem_of_getElem? (i := i)
                simp only [flowStep, List.getElem?_modify_eq, Option.mem_def.mp hp, sessionStep,
                  Option.map_eq_map, Option.map_some, if_pos hshown]
              have hdoc := (h _ hmem).1 (p.1.orderDoc uid p.2.paymentValue)
                (List.mem_append_right _ (List.mem_singleton_self _))
              exact hdoc.1
      | radio v => trivial
      | back => trivial
      | added j => trivial
      | addFailed j => trivial
      | build => trivial

/-- **Only meaningful stays are ordered**, in a zone of constant offset, in every run of the
    flow in which each booking tap finds a check-out date after the check-in date and a total
    that fits in 64 bits; and a run that only ever adds meaningful stays meets the first of
    the two at each of its taps. -/
theorem ordered_stays_meaningful (c now now' : Int) (b : BookingDetail) (es : List FlowEvent)
    (hpos : 0 < b.price.toInt) :
    (AllSteps (flowStep (Zone.fixed c) b)
        (fun f e => TapMeets LaterCheckOut f e ∧ TapMeets TotalFits f e)
        (Flow.start (Zone.fixed c) now now') es →
      Always (flowStep (Zone.fixed c) b) (MeaningfulOrders b)
        (Flow.start (Zone.fixed c) now now') es) ∧
    (Always (flowStep (Zone.fixed c) b) (MeaningfulOrders b)
        (Flow.start (Zone.fixed c) now now') es →
      AllSteps (flowStep (Zone.fixed c) b) (TapMeets LaterCheckOut)
        (Flow.start (Zone.fixed c) now now') es) := by
  constructor
  · intro hall
    have hinv : FlowInv b (Flow.start (Zone.fixed c) now now') :=
      ⟨fun _ => Int.le_refl 1, by simp [Flow.start], by simp [Flow.start]⟩
    have hord : MeaningfulOrders b (Flow.start (Zone.fixed c) now now') := by
      simp [MeaningfulOrders, Flow.start]
    refine always_of_inv (I := fun f => FlowInv b f ∧ MeaningfulOrders b f) ?_
      (fun f h => h.2) _ es hall ⟨hinv, hord⟩
    intro f e he h
    exact ⟨flowInv_step c b f e h.1, meaningfulOrders_step c b hpos f e he.1 he.2 h.1 h.2⟩
  · exact allSteps_of_always (laterCheckOut_of_meaningful _ b) _ es

/-- The hotel of the concrete runs, at 100 a night. -/
def sampleHotel : BookingDetail where
  docId := "hotel"
  title := "Hotel"
  price := 100
  photo := "photo"

/-- The four text fields, filled in. -/
def filledFields : List FormEvent :=
  [.fullName "Guest", .fullNameTamu "Guest", .email "guest@mail.com", .phoneNumber "0811"]

/-- 2023-03-05, picked as the check-in date. -/
def march5 : PickerDate := ⟨19421, by decide, by decide⟩

/-- A form opened on 2023-03-01 and booked as it stands: one night, and every document of the
    run is a meaningful stay. -/
theorem one_night_meaningful :
    Always (flowStep (Zone.fixed 0) sampleHotel) (MeaningfulOrders sampleHotel)
      (Flow.start (Zone.fixed 0) 1677672000000000 1677672000000000)
      (filledFields.map .form ++
        [.next, .session 0 (.bookNow (some "u")), .session 0 (.added 0)]) :=
  (ordered_stays_meaningful 0 1677672000000000 1677672000000000 sampleHotel _ (by decide)).1
    (by decide)

/-- Check-in is picked after the check-out date of the form: the order is for -3 nights at a
    total of -300. -/
theorem negative_stay_ordered :
    ¬ ∀ (c now now' : Int) (b : BookingDetail) (es : List FlowEvent), 0 < b.price.toInt →
      MeaningfulOrders b (run (flowStep (Zone.fixed c) b) (Flow.start (Zone.fixed c) now now') es) := by
  intro h
  have hbad := h 0 1677672000000000 1677672000000000 sampleHotel
    (filledFields.map .form ++
      [.form (.checkIn (some march5)), .next, .session 0 (.bookNow (some "u")),
        .session 0 (.added 0)]) (by decide)
  have hdoc := (hbad (_, _) (List.mem_singleton_self _)).2.1 _ (List.mem_singleton_self _)
  revert hdoc
  unfold MeaningfulStay
  decide

end Nginepyuk.Booking
