/-
  The navigation model seen in the whole app.

  `Account.Navigation` has one page at the root and one bit for everything above it. `World.app`
  forgets the rest of the device, and `emit` says what an event amounts to there: the first page
  over the root is a `push`, the last one gone a `pop`, and an `add` that replaces the stack is
  `booked`. With the invariant of the stack every step is followed (`follows_app`), so every run
  of the app is a run of the navigation model, and what holds there of the signed-in user holds
  here.
-/
import Nginepyuk.Lib.Simulation
import Nginepyuk.Device.Stack

namespace Nginepyuk.Device

open Lib.Trace Lib.LocalTime Lib.Fields Lib.DocStore
open Nginepyuk.Account Nginepyuk.Booking Nginepyuk.Hotels Nginepyuk.Orders

def Base.root : Base → Root
  | .splash body => .splash body
  | .main m => .main m
  | .payment _ => .payment

/-- Some page lies over the base. -/
def World.covered (w : World) : Bool := !w.above.isEmpty

/-- What the navigation model knows of the device. -/
def World.app (w : World) : App where
  currentUser := w.currentUser
  events := w.events
  root := w.base.root
  covered := w.covered

/-- The first page came over the base, or the last one went. -/
def coverEvents : Bool → Bool → List AppEvent
  | false, true => [.push]
  | true, false => [.pop]
  | _, _ => []

/-- What an event that leads from `w` to `w'` amounts to. -/
def Event.appEvents (w w' : World) : Event → List AppEvent
  | .user u => [.change u]
  | .deliver n => [.deliver n]
  | .tab value => [.tab value]
  | .exit => [.exit]
  | .home => [.home]
  | .added _ _ _ => if w.covered && !w'.covered then [.booked] else []
  | _ => coverEvents w.covered w'.covered

def emit (z : Zone) (w : World) (e : Event) : List AppEvent := e.appEvents w (step z w e)

/-! ## The base -/

theorem covered_eq_false {w : World} : w.covered = false ↔ w.above = [] := by
  unfold World.covered
  cases w.above with
  | nil => simp
  | cons r rest => simp

theorem covered_cons {w : World} {r : Route} {rest : List Route} (h : w.above = r :: rest) :
    w.covered = true := by
  unfold World.covered
  rw [h]
  rfl

theorem root_mainState (base : Base) : base.root.mainState = base.mainState := by
  match base with
  | .splash .auth => rfl
  | .splash (.main _) => rfl
  | .main _ => rfl
  | .payment _ => rfl

theorem root_setIndex (base : Base) (value : Nat) :
    (base.setIndex value).root = base.root.setIndex value := by
  match base with
  | .splash .auth => rfl
  | .splash (.main none) => rfl
  | .splash (.main (some _)) => rfl
  | .main none => rfl
  | .main (some _) => rfl
  | .payment _ => rfl

theorem root_eq_payment {base : Base} : base.root = .payment ↔ ∃ i, base = .payment i := by
  match base with
  | .splash _ => exact iff_of_false (fun h => nomatch h) (fun ⟨_, h⟩ => nomatch h)
  | .main _ => exact iff_of_false (fun h => nomatch h) (fun ⟨_, h⟩ => nomatch h)
  | .payment i => exact iff_of_true rfl ⟨i, rfl⟩

theorem app_topMain (w : World) : w.app.topMain = w.topMain := by
  unfold App.topMain World.topMain
  cases habove : w.above with
  | nil =>
      rw [if_neg (by simp [World.app, covered_eq_false.mpr habove])]
      exact root_mainState w.base
  | cons r rest => rw [if_pos (show w.app.covered = true from covered_cons habove)]

theorem app_deliver (w : World) (n : Nat) : (w.deliver n).app = w.app.deliver n := by
  obtain ⟨user, events, base, above, sessions, orders, orderVersions, hotelVersions⟩ := w
  simp only [World.deliver, App.deliver, World.app]
  cases (events.take n).getLast? with
  | none => rfl
  | some snapshot => cases base <;> rfl

/-! ## The pages above -/

/-- A step that keeps the user, the queue and the base, and opens a page over the base only
    from a `MainPage`. -/
theorem app_cover {w w' : World} (huser : w'.currentUser = w.currentUser)
    (hevents : w'.events = w.events) (hbase : w'.base = w.base)
    (hopen : w.above = [] → w'.above ≠ [] → w.topMain.isSome = true) :
    w'.app = run appStep w.app (coverEvents w.covered w'.covered) := by
  have happ : w'.app = { w.app with covered := w'.covered } := by
    unfold World.app
    rw [huser, hevents, hbase]
  rw [happ]
  have hsame : { w.app with covered := w.covered } = w.app := rfl
  cases hc : w.covered with
  | false =>
      cases hc' : w'.covered with
      | false =>
          rw [hc] at hsame
          exact hsame
      | true =>
          have htop : w.app.topMain.isSome = true := by
            rw [app_topMain]
            refine hopen (covered_eq_false.mp hc) fun hnil => ?_
            rw [covered_eq_false.mpr hnil] at hc'
            exact nomatch hc'
          show _ = appStep w.app .push
          rw [appStep, if_pos htop]
  | true =>
      cases hc' : w'.covered with
      | false => rfl
      | true =>
          rw [hc] at hsame
          exact hsame

/-- A page is opened over the base only from a `MainPage`. -/
theorem topMain_of_opens {z : Zone} {w : World} {e : Event} {r : Route} (h : Opens z w e r)
    (habove : w.above = []) : w.topMain.isSome = true := by
  cases h with
  | search m htop => rw [htop]; rfl
  | orderDetail version m v htop hv hl => rw [htop]; rfl
  | detail docId hlists =>
      rw [World.listsHotels, habove] at hlists
      obtain ⟨m, hm, _⟩ := (Option.any_eq_true _ _).mp hlists
      rw [World.topMain, habove]
      exact Option.isSome_iff_exists.mpr ⟨m, hm⟩
  | booking docId page rest b now now' hcons hb =>
      rw [habove] at hcons
      exact nomatch hcons
  | picker field b form rest hcons =>
      rw [habove] at hcons
      exact nomatch hcons

/-- An `add` that completes replaces the stack exactly if its page is on the screen, which is
    then above the base. -/
theorem app_stored {w : World} {i j : Nat} {id : String} {p : PaymentMethod × Session}
    {order : OrderDoc} (hp : w.sessions[i]? = some p) (h : StackInv w) :
    (w.store i j id p.2 order).app = run appStep w.app
      (Event.appEvents w (w.store i j id p.2 order) (.added i j id)) := by
  by_cases hshown : p.2.page = .shown
  · obtain ⟨below, habove⟩ := h.shown i p.1 (hshown ▸ pages_of_session hp)
    have hc := covered_cons habove
    have hc' : (w.store i j id p.2 order).covered = false := by
      rw [covered_eq_false]
      simp only [World.store, if_pos hshown]
    rw [Event.appEvents, hc, hc']
    show _ = appStep w.app .booked
    rw [appStep, if_pos (show w.app.covered = true from hc)]
    simp only [World.app, World.store, if_pos hshown]
    rfl
  · have hc : (w.store i j id p.2 order).covered = w.covered := by
      simp only [World.covered, World.store, if_neg hshown]
    have hnone : (w.covered && !(w.store i j id p.2 order).covered) = false := by
      rw [hc, Bool.and_not_self]
    rw [Event.appEvents, hnone]
    simp only [World.app, World.store, if_neg hshown]
    rfl

/-- The events that leave the user, the queue and the base alone. -/
def Event.quiet : Event → Bool
  | .user _ | .deliver _ | .tab _ | .exit | .home | .added _ _ _ => false
  | _ => true

theorem appEvents_quiet (w w' : World) {e : Event} (he : e.quiet = true) :
    e.appEvents w w' = coverEvents w.covered w'.covered := by
  cases e with
  | user _ => exact nomatch he
  | deliver _ => exact nomatch he
  | tab _ => exact nomatch he
  | exit => exact nomatch he
  | home => exact nomatch he
  | added _ _ _ => exact nomatch he
  | _ => rfl

theorem app_quiet {z : Zone} {w w' : World} {e : Event} (he : e.quiet = true)
    (hm : Move z w e w') : w'.app = run appStep w.app (coverEvents w.covered w'.covered) := by
  cases hm with
  | stay => exact app_cover rfl rfl rfl fun hnil hne => absurd hnil hne
  | user user => exact nomatch he
  | deliver n => exact nomatch he
  | tab value m htop => exact nomatch he
  | exit m htop hindex => exact nomatch he
  | home i hbase => exact nomatch he
  | stored i j id p order hp hj hid => exact nomatch he
  | opened _ r hr => exact app_cover rfl rfl rfl fun hnil _ => topMain_of_opens hr hnil
  | refreshed _ above hl =>
      refine app_cover rfl rfl rfl fun hnil hne => ?_
      rw [hnil] at hl
      cases hl
      exact absurd rfl hne
  | picked date field b form rest habove =>
      exact app_cover rfl rfl rfl fun hnil _ => nomatch habove.symm.trans hnil
  | edited field text b form rest habove =>
      exact app_cover rfl rfl rfl fun hnil _ => nomatch habove.symm.trans hnil
  | next b form rest pm habove hpm =>
      exact app_cover rfl rfl rfl fun hnil _ => nomatch habove.symm.trans hnil
  | session _ i se hse => exact app_cover rfl rfl rfl fun hnil hne => absurd hnil hne
  | left i rest habove => exact app_cover rfl rfl rfl fun hnil _ => nomatch habove.symm.trans hnil
  | popped r rest habove hr =>
      exact app_cover rfl rfl rfl fun hnil _ => nomatch habove.symm.trans hnil
  | hotelWritten docId doc => exact app_cover rfl rfl rfl fun hnil hne => absurd hnil hne
  | orderWritten id order hid => exact app_cover rfl rfl rfl fun hnil hne => absurd hnil hne
  | orderChanged id flags e he' => exact app_cover rfl rfl rfl fun hnil hne => absurd hnil hne

/-- Every step is followed. -/
theorem follows_app (z : Zone) : Follows (step z) appStep World.app (emit z) StackInv := by
  intro w e h
  show (step z w e).app = run appStep w.app (e.appEvents w (step z w e))
  by_cases he : e.quiet = true
  · rw [appEvents_quiet w _ he]
    exact app_quiet he (step_move z w e)
  · cases e with
    | user user => rfl
    | deliver n => exact app_deliver w n
    | tab value =>
        show (step z w (.tab value)).app = appStep w.app (.tab value)
        simp only [step, appStep, app_topMain]
        split
        · have hroot := root_setIndex w.base value
          simp only [World.app, hroot]
          rfl
        · rfl
    | exit =>
        show (step z w .exit).app = appStep w.app .exit
        simp only [step, appStep, App.onProfile, app_topMain]
        split
        · next htop =>
            obtain ⟨m, hm, _⟩ := (Option.any_eq_true _ _).mp htop
            have hc := covered_eq_false.mpr (above_of_topMain hm).1
            rw [App.exit, ← hc]
            rfl
        · rfl
    | home =>
        show (step z w .home).app = appStep w.app .home
        simp only [step, appStep]
        split
        · next i hbase =>
            rw [if_pos (show w.app.root = .payment from root_eq_payment.mpr ⟨i, hbase⟩)]
            rfl
        · next hno =>
            rw [if_neg fun hroot => ?_]
            obtain ⟨i, hi⟩ := root_eq_payment.mp hroot
            exact hno i hi
    | added i j id =>
        rcases step_added z w i j id with heq | ⟨p, order, hp, _, _, heq⟩
        · rw [heq, Event.appEvents, Bool.and_not_self]
          rfl
        · rw [heq]
          exact app_stored hp h
    | _ => exact absurd rfl he

/-- **The app refines the navigation model.** Every run of the device, seen through `World.app`,
    is the run of the navigation model on the events it amounts to. -/
theorem app_refines_navigation (z : Zone) (user : Option User) (orders : Collection OrderDoc)
    (hotels : List (String × Doc)) (es : List Event) :
    (run (step z) (World.start user orders hotels) es).app =
      run appStep (App.start user)
        (emitted (step z) (emit z) (World.start user orders hotels) es) :=
  abs_run (stackInv_step z) (follows_app z) _ es (stackInv_start user orders hotels)

end Nginepyuk.Device
