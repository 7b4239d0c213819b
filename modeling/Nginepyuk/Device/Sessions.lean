/-
  The payment pages, one at a time, in the whole app.

  `Booking.Session` follows one payment page through any taps and completed writes. Here every
  page of a run of the app is such a page: `sent` says which of its events an event of the app
  is, and the page's session is its own run on what it was sent (`sessions_refine`). An `add` of
  one page is therefore no event of another, and an event of the app reaches a page that is not
  on top only as the end of one of its own writes or as a rebuild of its confirmation.

  With the invariant of the stack, the condition of `Booking.Session` under which a page orders
  once is a condition on the top page of the app (`orders_once_in_app`).
-/
import Mathlib.Data.List.Induction
import Nginepyuk.Lib.Simulation
import Nginepyuk.Device.Stack

namespace Nginepyuk.Device

open Lib.Trace Lib.LocalTime Lib.Fields Lib.DocStore
open Nginepyuk.Account Nginepyuk.Booking Nginepyuk.Hotels Nginepyuk.Orders

/-- The payment page on top of the stack. -/
def World.topPayment (w : World) : Option Nat :=
  match w.above with
  | .paymentMethod i :: _ => some i
  | _ => none

/-- The payment page that an event is for, and what it is there. -/
def sessionEvent (w : World) : Event → Option (Nat × SessionEvent)
  | .radio value => w.topPayment.map fun i => (i, .radio value)
  | .bookNow => w.topPayment.map fun i => (i, .bookNow (w.currentUser.map User.uid))
  | .back => w.topPayment.map fun i => (i, .back)
  | .added i j id => if id ∈ w.orders.docs.map Prod.fst then none else some (i, .added j)
  | .addFailed i j => some (i, .addFailed j)
  | .build =>
      match w.base with
      | .payment i => some (i, .build)
      | _ => none
  | _ => none

/-- What the `i`-th payment page is sent by an event. -/
def sent (i : Nat) (w : World) (e : Event) : List SessionEvent :=
  match sessionEvent w e with
  | some (k, se) => if k = i ∧ i < w.sessions.length then [se] else []
  | none => []

/-- What the `i`-th payment page is sent by a run. -/
def sentBy (z : Zone) (i : Nat) (w : World) (es : List Event) : List SessionEvent :=
  emitted (step z) (sent i) w es

/-! ## One step -/

/-- The sessions after the event of a page, before a new page. -/
def World.passed (w : World) (e : Event) : List (PaymentMethod × Session) :=
  match sessionEvent w e with
  | some (i, se) => (w.session i se).sessions
  | none => w.sessions

theorem session_idle {w : World} {i : Nat} {se : SessionEvent}
    (h : ∀ p, w.sessions[i]? = some p → sessionStep p.1 p.2 se = p.2) :
    (w.session i se).sessions = w.sessions := by
  have heq := map_session_eq w i (e := se) id fun p hp => congrArg (Prod.mk p.1) (h p hp)
  rw [List.map_id, List.map_id] at heq
  exact heq

theorem step_added_sessions (z : Zone) (w : World) (i j : Nat) (id : String) :
    (step z w (.added i j id)).sessions = w.passed (.added i j id) := by
  simp only [step, World.passed, sessionEvent]
  by_cases hid : id ∈ w.orders.docs.map Prod.fst
  · rw [if_pos hid]
    split
    · split
      · exact congrArg World.sessions (if_pos hid)
      · rfl
    · rfl
  · rw [if_neg hid]
    split
    · next p hp =>
        split
        · rw [if_neg hid]
          rfl
        · next hj =>
            refine (session_idle fun q hq => ?_).symm
            obtain rfl := Option.some.inj (hp.symm.trans hq)
            simp only [sessionStep, hj]
    · next hp =>
        refine (session_idle fun q hq => ?_).symm
        cases hp.symm.trans hq

/-- The events of no page. -/
def Event.elsewhere : Event → Bool
  | .radio _ | .bookNow | .back | .added _ _ _ | .addFailed _ _ | .build | .next => false
  | _ => true

theorem sessions_elsewhere (z : Zone) (w : World) {e : Event} (h : e.elsewhere = true) :
    (step z w e).sessions = w.sessions ∧ sessionEvent w e = none := by
  cases e with
  | radio | bookNow | back | added | addFailed | build | next => cases h
  | user | hotelWritten => exact ⟨rfl, rfl⟩
  | deliver n =>
      refine ⟨?_, rfl⟩
      simp only [step, World.deliver]
      split <;> rfl
  | snapshot docId version =>
      refine ⟨?_, rfl⟩
      cases version with
      | none => rfl
      | some j =>
          simp only [step]
          split
          · split <;> rfl
          · rfl
  | tab | exit | showSearch | openHotel | pageChanged | tapDate | picked | edit | home
  | orderWritten | orderChanged =>
      refine ⟨?_, rfl⟩
      simp only [step]
      split <;> rfl
  | bookHotel | openOrder =>
      refine ⟨?_, rfl⟩
      simp only [step]
      split
      · split <;> rfl
      · rfl

/-- A step passes the event on to its page; a pressed Next button adds a page that starts. -/
theorem step_sessions (z : Zone) (w : World) (e : Event) :
    ∃ new, (step z w e).sessions = w.passed e ++ new ∧ ∀ p ∈ new, p.2 = Session.start := by
  have hnone : ∀ p ∈ ([] : List (PaymentMethod × Session)), p.2 = Session.start :=
    fun _ hp => absurd hp List.not_mem_nil
  have hquiet : (step z w e).sessions = w.passed e → ∃ new,
      (step z w e).sessions = w.passed e ++ new ∧ ∀ p ∈ new, p.2 = Session.start :=
    fun h => ⟨[], by rw [List.append_nil, h], hnone⟩
  by_cases he : e.elsewhere = true
  · obtain ⟨hsame, hno⟩ := sessions_elsewhere z w he
    refine hquiet ?_
    rw [hsame, World.passed, hno]
  · cases e with
    | added i j id => exact hquiet (step_added_sessions z w i j id)
    | addFailed i j => exact hquiet rfl
    | radio | bookNow | back =>
        refine hquiet ?_
        simp only [step, World.passed, sessionEvent, World.topPayment]
        cases w.above with
        | nil => rfl
        | cons r rest => cases r <;> rfl
    | build =>
        refine hquiet ?_
        simp only [step, World.passed, sessionEvent]
        cases w.base <;> rfl
    | next =>
        simp only [step]
        split
        · split
          · next pm hpm => exact ⟨[(pm, Session.start)], rfl, fun p hp => by
              rw [List.mem_singleton.mp hp]⟩
          · exact ⟨[], (List.append_nil _).symm, hnone⟩
        · exact ⟨[], (List.append_nil _).symm, hnone⟩
    | _ => exact absurd rfl he

/-- A page that there is goes through what it is sent. -/
theorem passed_get {w : World} {i : Nat} {p : PaymentMethod × Session}
    (hp : w.sessions[i]? = some p) (e : Event) :
    (w.passed e)[i]? = some (p.1, run (sessionStep p.1) p.2 (sent i w e)) := by
  have hlt : i < w.sessions.length := (List.getElem?_eq_some_iff.mp hp).1
  unfold World.passed sent
  split
  · next k se hse =>
      by_cases hk : k = i
      · rw [if_pos ⟨hk, hlt⟩, hk, session_get_self hp]
        rfl
      · rw [if_neg fun h => hk h.1, session_get_ne w (Ne.symm hk), hp]
        rfl
  · exact hp

theorem step_get (z : Zone) {w : World} {i : Nat} {p : PaymentMethod × Session}
    (hp : w.sessions[i]? = some p) (e : Event) :
    (step z w e).sessions[i]? = some (p.1, run (sessionStep p.1) p.2 (sent i w e)) := by
  obtain ⟨new, hnew, _⟩ := step_sessions z w e
  have hget := passed_get hp e
  have hlt : i < (w.passed e).length := (List.getElem?_eq_some_iff.mp hget).1
  rw [hnew, List.getElem?_append_left hlt, hget]

/-- A page that there is not is sent nothing, and if it comes, it starts. -/
theorem step_get_none (z : Zone) {w : World} {i : Nat} (hi : w.sessions[i]? = none) (e : Event) :
    sent i w e = [] ∧ ∀ q, (step z w e).sessions[i]? = some q → q.2 = Session.start := by
  have hle : w.sessions.length ≤ i := List.getElem?_eq_none_iff.mp hi
  constructor
  · unfold sent
    split
    · exact if_neg fun h => absurd h.2 (by omega)
    · rfl
  · intro q hq
    obtain ⟨new, hnew, hstart⟩ := step_sessions z w e
    have hlen : (w.passed e).length = w.sessions.length := by
      unfold World.passed
      split
      · exact List.length_modify _ _ _
      · rfl
    rw [hnew, List.getElem?_append_right (by omega)] at hq
    exact hstart q (List.mem_of_getElem? hq)

/-! ## Whole runs -/

/-- From a state in which the page is there. -/
theorem run_get (z : Zone) {w : World} {i : Nat} {p : PaymentMethod × Session}
    (hp : w.sessions[i]? = some p) (es : List Event) :
    (run (step z) w es).sessions[i]? =
      some (p.1, run (sessionStep p.1) p.2 (sentBy z i w es)) := by
  induction es generalizing w p with
  | nil => exact hp
  | cons e es ih =>
      rw [run_cons, ih (step_get z hp e), ← run_append]
      rfl

/-- Along a run: as long as the page is not there it was sent nothing, and then it goes through
    what it is sent. -/
theorem sentBy_run (z : Zone) (user : Option User) (orders : Collection OrderDoc)
    (hotels : List (String × Doc)) (es : List Event) (i : Nat) :
    ((run (step z) (World.start user orders hotels) es).sessions[i]? = none →
        sentBy z i (World.start user orders hotels) es = []) ∧
      ∀ p, (run (step z) (World.start user orders hotels) es).sessions[i]? = some p →
        p.2 = run (sessionStep p.1) Session.start
          (sentBy z i (World.start user orders hotels) es) := by
  induction es using List.reverseRecOn with
  | nil => exact ⟨fun _ => rfl, fun _ h => nomatch h⟩
  | append_singleton es e ih =>
      rw [run_concat, sentBy, emitted_concat]
      cases hi : (run (step z) (World.start user orders hotels) es).sessions[i]? with
      | none =>
          obtain ⟨hsent, hstart⟩ := step_get_none z hi e
          have hno : sentBy z i (World.start user orders hotels) es = [] := ih.1 hi
          rw [sentBy] at hno
          rw [hno, hsent]
          exact ⟨fun _ => rfl, hstart⟩
      | some p =>
          rw [step_get z hi e]
          refine ⟨fun h => (nomatch h), ?_⟩
          intro q hq
          obtain rfl := Option.some.inj hq
          rw [run_append, ← sentBy, ← ih.2 p hi]

/-- **Each payment page is on its own.** After every run of the app, every payment page that was
    opened, on the screen or gone, is in the state of a page that went alone through the events
    that the app sent it. -/
theorem sessions_refine (z : Zone) (user : Option User) (orders : Collection OrderDoc)
    (hotels : List (String × Doc)) (es : List Event) :
    (run (step z) (World.start user orders hotels) es).sessions =
      (run (step z) (World.start user orders hotels) es).sessions.mapIdx fun i p =>
        (p.1, run (sessionStep p.1) Session.start
          (sentBy z i (World.start user orders hotels) es)) := by
  refine List.ext_getElem? fun i => ?_
  rw [List.getElem?_mapIdx]
  cases hi : (run (step z) (World.start user orders hotels) es).sessions[i]? with
  | none => rfl
  | some p =>
      have hp := (sentBy_run z user orders hotels es i).2 p hi
      exact congrArg some (Prod.ext rfl hp)

/-! ## One order for each page -/

/-- An `add` that completes finds its page on top of the stack. -/
def AddedOnTop (w : World) : Event → Prop
  | .added i j id => id ∉ w.orders.docs.map Prod.fst →
      ∀ p, w.sessions[i]? = some p → j < p.2.pending.length → w.topPayment = some i
  | _ => True

/-- The page that is on the screen is the one on top. -/
theorem shown_iff_top {w : World} (h : StackInv w) {i : Nat} {p : PaymentMethod × Session}
    (hp : w.sessions[i]? = some p) : p.2.page = .shown ↔ w.topPayment = some i := by
  unfold World.topPayment
  constructor
  · intro hshown
    obtain ⟨below, habove⟩ := h.shown i p.1 (hshown ▸ pages_of_session hp)
    rw [habove]
  · intro htop
    split at htop
    · next k rest habove =>
        obtain rfl := Option.some.inj htop
        obtain ⟨⟨b, form, below, pm, _, hpage, _⟩, _⟩ := h.stacked_of_cons habove
        obtain ⟨s, hs, hshown⟩ := session_of_pages hpage
        obtain rfl := Option.some.inj (hp.symm.trans hs)
        exact hshown
    · cases htop

/-- Only a completed `add` of the app is one of a page. -/
theorem sessionEvent_ne_added {w : World} {e : Event} (he : ∀ i j id, e ≠ .added i j id) {k : Nat}
    {se : SessionEvent} (h : sessionEvent w e = some (k, se)) (s : Session) : AddedOnPage s se := by
  cases se with
  | added j =>
      exfalso
      cases e with
      | added i j id => exact he i j id rfl
      | radio | bookNow | back =>
          obtain ⟨_, _, heq⟩ := Option.map_eq_some_iff.mp h
          cases heq
      | build =>
          simp only [sessionEvent] at h
          split at h <;> cases h
      | _ => cases h
  | _ => trivial

/-- What an event sends to the pages there are meets their condition, if and only if the event
    meets the one of the app. -/
theorem addedOnTop_iff {w : World} (h : StackInv w) (e : Event) :
    AddedOnTop w e ↔
      ∀ i p, w.sessions[i]? = some p → AllSteps (sessionStep p.1) AddedOnPage p.2 (sent i w e) := by
  by_cases he : ∃ i j id, e = .added i j id
  · obtain ⟨k, j, id, rfl⟩ := he
    by_cases hid : id ∈ w.orders.docs.map Prod.fst
    · refine iff_of_true (fun hno => absurd hid hno) fun i p _ => ?_
      simp only [sent, sessionEvent, if_pos hid]
      trivial
    · have hsent : ∀ i, sent i w (.added k j id) =
          if k = i ∧ i < w.sessions.length then [.added j] else [] := by
        intro i
        simp only [sent, sessionEvent, if_neg hid]
      constructor
      · intro hadd i p hp
        rw [hsent]
        by_cases hk : k = i ∧ i < w.sessions.length
        · obtain rfl := hk.1
          rw [if_pos hk]
          exact ⟨fun hlt => (shown_iff_top h hp).mpr (hadd hid p hp hlt), trivial⟩
        · rw [if_neg hk]
          trivial
      · intro hall _ p hp hlt
        have hpage := hall k p hp
        rw [hsent, if_pos ⟨rfl, (List.getElem?_eq_some_iff.mp hp).1⟩] at hpage
        exact (shown_iff_top h hp).mp (hpage.1 hlt)
  · have hne : ∀ i j id, e ≠ .added i j id := fun i j id heq => he ⟨i, j, id, heq⟩
    refine iff_of_true ?_ ?_
    · cases e with
      | added i j id => exact absurd rfl (hne i j id)
      | _ => trivial
    · intro i p _
      unfold sent
      split
      · next k se hse =>
          split
          · exact ⟨sessionEvent_ne_added hne hse p.2, trivial⟩
          · trivial
      · trivial

/-- What holds of the sessions after a step. -/
theorem forall_stepped {z : Zone} {w : World} {e : Event} {P : Session → Prop}
    (hold : ∀ i p, w.sessions[i]? = some p → P (run (sessionStep p.1) p.2 (sent i w e)))
    (hnew : P Session.start) : ∀ q ∈ (step z w e).sessions, P q.2 := by
  intro q hq
  obtain ⟨i, hi⟩ := List.mem_iff_getElem?.mp hq
  cases hp : w.sessions[i]? with
  | none =>
      rw [(step_get_none z hp e).2 q hi]
      exact hnew
  | some p =>
      rw [step_get z hp e] at hi
      rw [← Option.some.inj hi]
      exact hold i p hp

/-- The sessions are in order, and so is the stack. -/
def PagesInv (w : World) : Prop := StackInv w ∧ ∀ p ∈ w.sessions, SessionInv p.2

theorem pagesInv_step (z : Zone) (w : World) (e : Event) (h : PagesInv w) :
    PagesInv (step z w e) := by
  refine ⟨stackInv_step z w e h.1, forall_stepped ?_ sessionInv_start⟩
  intro i p hp
  exact inv_run_all (sessionInv_step p.1) _ _ (h.2 p (List.mem_of_getElem? hp))

theorem pagesInv_start (user : Option User) (orders : Collection OrderDoc)
    (hotels : List (String × Doc)) : PagesInv (World.start user orders hotels) :=
  ⟨stackInv_start user orders hotels, fun _ hp => absurd hp List.not_mem_nil⟩

/-- An `add` that completes without its page on top spoils the session of the page for good. -/
theorem spoilt_in_run (z : Zone) (w : World) (es : List Event) (hw : PagesInv w)
    (h : ¬ AllSteps (step z) AddedOnTop w es) : ∃ p ∈ (run (step z) w es).sessions, Spoilt p.2 := by
  induction es generalizing w with
  | nil => exact absurd trivial h
  | cons e es ih =>
      by_cases he : AddedOnTop w e
      · exact ih _ (pagesInv_step z w e hw) (fun hall => h ⟨he, hall⟩)
      · rw [addedOnTop_iff hw.1] at he
        push Not at he
        obtain ⟨i, p, hp, hno⟩ := he
        have hspoilt := spoilt_run p.1 p.2 _ (hw.2 p (List.mem_of_getElem? hp)) hno
        have hget := run_get z (step_get z hp e) es
        exact ⟨_, List.mem_of_getElem? hget, inv_run_all (spoilt_step p.1) _ _ hspoilt⟩

/-- **One order for each page.** In a run of the app in which every `add` that completes finds its
    payment page on top of the stack, in every state every payment page that was opened has stored
    at most one order and, once nothing of it is pending, has led to a confirmation exactly if it
    stored one. For a run that ends with nothing pending the condition is also necessary. -/
theorem orders_once_in_app (z : Zone) (user : Option User) (orders : Collection OrderDoc)
    (hotels : List (String × Doc)) (es : List Event) :
    (AllSteps (step z) AddedOnTop (World.start user orders hotels) es →
      Always (step z) (fun w => ∀ p ∈ w.sessions, OrdersOnce p.2)
        (World.start user orders hotels) es) ∧
    ((∀ p ∈ (run (step z) (World.start user orders hotels) es).sessions, p.2.pending = []) →
      Always (step z) (fun w => ∀ p ∈ w.sessions, OrdersOnce p.2)
        (World.start user orders hotels) es →
      AllSteps (step z) AddedOnTop (World.start user orders hotels) es) := by
  have hstart := pagesInv_start user orders hotels
  constructor
  · intro hall
    refine always_of_inv (I := fun w => PagesInv w ∧ ∀ p ∈ w.sessions, OrdersMatchPage p.2)
      ?_ ?_ _ es hall ⟨hstart, fun _ hp => absurd hp List.not_mem_nil⟩
    · intro w e he h
      refine ⟨pagesInv_step z w e h.1, forall_stepped ?_ rfl⟩
      intro i p hp
      have hpage := (addedOnTop_iff h.1.1 e).mp he i p hp
      exact inv_run (ordersMatchPage_step p.1) _ _ hpage (h.2 p (List.mem_of_getElem? hp))
    · intro w h p hp
      exact ordersOnce_of_match p.2 (h.1.2 p hp) (h.2 p hp)
  · intro hpending halways
    by_contra hnot
    obtain ⟨p, hp, hspoilt⟩ := spoilt_in_run z _ es hstart hnot
    have hinv := inv_run_all (pagesInv_step z) _ es hstart
    exact not_ordersOnce_of_spoilt p.2 (hinv.2 p hp) (hpending p hp) hspoilt (halways.last p hp)

end Nginepyuk.Device
