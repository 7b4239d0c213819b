/-
  `lib/main.dart`, `lib/pages/auth/splash_screen.dart` and `lib/pages/home/main_page.dart`:
  the signed-in user and the page at the root of the stack.

  The auth service has a current user, which may change at any time, and a queue of events
  that reach the listeners of `authStateChanges` later, in order. `SplashScreen` rebuilds on
  the latest event that reached it: with a user it returns a `MainPage`, whose state is kept
  if one is there already and created otherwise; without one it returns `AuthPage`.
  Creating a `MainPage` state reads `FirebaseAuth.instance.currentUser!`, not the event, and
  keeps that user for the life of the state.

  The other way to a `MainPage` is the route `/main`, taken by the Home button of the
  confirmation page. Below it there is no `SplashScreen`, so no listener.
-/
import Nginepyuk.Lib.Trace

namespace Nginepyuk.Account

open Lib.Trace

/-- A user of the auth service. -/
structure User where
  uid : String
  email : String
deriving DecidableEq, Repr

/-- `_MainPageState`. -/
structure MainState where
  user : User
  currentIndex : Nat
deriving DecidableEq, Repr

/-- A new `_MainPageState`; `none` when `currentUser!` throws. -/
def createMain (currentUser : Option User) : Option MainState :=
  currentUser.map fun u => ⟨u, 0⟩

/-- What `SplashScreen` returns. `main none` is the page whose state could not be created. -/
inductive SplashBody where
  | auth
  | main (state : Option MainState)
deriving DecidableEq, Repr

/-- The page at the bottom of the stack. -/
inductive Root where
  | splash (body : SplashBody)
  | payment
  | main (state : Option MainState)
deriving DecidableEq, Repr

/-- The `MainPage` state at the root, if any. -/
def Root.mainState : Root → Option MainState
  | .splash .auth => none
  | .splash (.main m) => m
  | .payment => none
  | .main m => m

/-- The auth service and the stack. `covered` says that pages of the booking flow lie over
    the root. -/
structure App where
  currentUser : Option User
  events : List (Option User)
  root : Root
  covered : Bool
deriving DecidableEq, Repr

/-- The app as started, with the user kept from an earlier session, if any. A new listener
    is first sent the current state. -/
def App.start (currentUser : Option User) : App where
  currentUser := currentUser
  events := [currentUser]
  root := .splash .auth
  covered := false

/-- The `MainPage` on top of the stack. -/
def App.topMain (a : App) : Option MainState := if a.covered then none else a.root.mainState

/-- Sign-in, sign-out or the backend ending the session: the current user changes at once
    and an event is queued. -/
def App.change (a : App) (user : Option User) : App :=
  { a with currentUser := user, events := a.events ++ [user] }

/-- `_SplashScreenState.build` with the event `snapshot`, over what it returned before. -/
def rebuild (currentUser : Option User) (body : SplashBody) : Option User → SplashBody
  | none => .auth
  | some _ =>
      match body with
      | .main (some m) => .main (some m)
      | _ => .main (createMain currentUser)

/-- The first `n` queued events reach the listeners before the next frame. A `SplashScreen`
    rebuilds on the latest of them; elsewhere nobody listens. -/
def App.deliver (a : App) (n : Nat) : App :=
  match (a.events.take n).getLast?, a.root with
  | some snapshot, .splash body =>
      { a with events := a.events.drop n, root := .splash (rebuild a.currentUser body snapshot) }
  | _, _ => { a with events := a.events.drop n }

/-- `setState` of the bottom navigation bar. -/
def Root.setIndex (value : Nat) : Root → Root
  | .splash (.main (some m)) => .splash (.main (some { m with currentIndex := value }))
  | .main (some m) => .main (some { m with currentIndex := value })
  | r => r

/-- The steps of the app. `push` and `pop` open and leave the booking flow; `booked` is the
    end of `handleBooking`, which replaces the stack by the confirmation page. -/
inductive AppEvent where
  | change (user : Option User)
  | deliver (n : Nat)
  | tab (value : Nat)
  | exit
  | push
  | pop
  | booked
  | home
deriving DecidableEq, Repr

/-- The Profile tab is on the screen. -/
def App.onProfile (a : App) : Bool := a.topMain.any fun m => m.currentIndex == 3

/-- `onTap` of the exit icon: `signOut`, not awaited, and a new stack with a `SplashScreen`. The
    service is taken to sign out at once, as with every change of the user; only the event comes
    later. -/
def App.exit (a : App) : App :=
  { a.change none with root := .splash .auth, covered := false }

def appStep (a : App) : AppEvent → App
  | .change user => a.change user
  | .deliver n => a.deliver n
  | .tab value => if a.topMain.isSome then { a with root := a.root.setIndex value } else a
  | .exit => if a.onProfile then a.exit else a
  | .push => if a.topMain.isSome then { a with covered := true } else a
  | .pop => { a with covered := false }
  | .booked => if a.covered then { a with root := .payment, covered := false } else a
  | .home =>
      if a.root = .payment then { a with root := .main (createMain a.currentUser) } else a

/-- The stack holds a `SplashScreen` only, and no `MainPage` with a user. -/
def App.Bare (a : App) : Prop :=
  a.covered = false ∧ (a.root = .splash .auth ∨ a.root = .splash (.main none))

instance (a : App) : Decidable a.Bare := inferInstanceAs (Decidable (_ ∧ _))

/-! ## What delivery and the tabs do -/

/-- Delivery either only shortens the queue (and does nothing at all below a `SplashScreen`),
    or rebuilds the `SplashScreen` at the root on the latest event delivered. -/
theorem deliver_cases (a : App) (n : Nat) :
    (a.deliver n = { a with events := a.events.drop n } ∧
      (a.events.drop n = a.events ∨ ∀ body, a.root ≠ .splash body)) ∨
    ∃ body snapshot, a.root = .splash body ∧ (a.events.take n).getLast? = some snapshot ∧
      a.deliver n = { a with events := a.events.drop n,
                             root := .splash (rebuild a.currentUser body snapshot) } := by
  unfold App.deliver
  split
  · next snapshot body hlast hroot => exact Or.inr ⟨body, snapshot, hroot, hlast, rfl⟩
  · next hno =>
      refine Or.inl ⟨rfl, ?_⟩
      by_cases htake : a.events.take n = []
      · left
        have := List.take_append_drop n a.events
        rw [htake, List.nil_append] at this
        exact this
      · right
        intro body hroot
        exact hno _ body (List.getLast?_eq_some_getLast htake) hroot

theorem deliver_events (a : App) (n : Nat) : (a.deliver n).events = a.events.drop n := by
  unfold App.deliver
  split <;> rfl

theorem setIndex_mainState (r : Root) (value : Nat) :
    (r.setIndex value).mainState =
      r.mainState.map fun m => { m with currentIndex := value } := by
  unfold Root.setIndex
  split
  · rfl
  · rfl
  · next h1 h2 =>
      match r with
      | .splash .auth => rfl
      | .splash (.main none) => rfl
      | .splash (.main (some m)) => exact absurd rfl (h1 m)
      | .payment => rfl
      | .main none => rfl
      | .main (some m) => exact absurd rfl (h2 m)

theorem topMain_eq_some {a : App} {m : MainState} (h : a.topMain = some m) :
    a.covered = false ∧ a.root.mainState = some m := by
  unfold App.topMain at h
  split at h
  · exact nomatch h
  · next hc => exact ⟨Bool.eq_false_iff.mpr hc, h⟩

theorem onProfile_main {a : App} (h : a.onProfile = true) :
    ∃ m, a.topMain = some m ∧ m.currentIndex = 3 := by
  unfold App.onProfile at h
  cases hm : a.topMain with
  | none => rw [hm] at h; exact nomatch h
  | some m =>
      rw [hm] at h
      exact ⟨m, rfl, beq_iff_eq.mp h⟩

/-- Where a `MainPage` state `m` after the event `e` comes from: it is the one from before,
    with its index changed by a tab at most, or a new one of the current user. -/
def MainFrom (a : App) (e : AppEvent) (m : MainState) : Prop :=
  (∃ m₀, a.root.mainState = some m₀ ∧ m.user = m₀.user ∧
    (m.currentIndex = m₀.currentIndex ∨ (e = .tab m.currentIndex ∧ a.topMain = some m₀))) ∨
  (a.currentUser = some m.user ∧ m.currentIndex = 0)

section MainFrom

variable {a : App} {e : AppEvent} {m : MainState}

theorem mainFrom_root (h : a.root.mainState = some m) : MainFrom a e m :=
  Or.inl ⟨m, h, rfl, Or.inl rfl⟩

theorem mainFrom_createMain (h : createMain a.currentUser = some m) : MainFrom a e m := by
  obtain ⟨u, hu, rfl⟩ := Option.map_eq_some_iff.mp h
  exact Or.inr ⟨hu, rfl⟩

theorem mainFrom_deliver {n : Nat} (h : (a.deliver n).root.mainState = some m) :
    MainFrom a e m := by
  rcases deliver_cases a n with ⟨hd, _⟩ | ⟨body, snapshot, hr, _, hd⟩
  · rw [hd] at h
    exact mainFrom_root h
  · rw [hd] at h
    match body, snapshot, h with
    | .auth, some _, h => exact mainFrom_createMain h
    | .main none, some _, h => exact mainFrom_createMain h
    | .main (some m₀), some _, h =>
        refine mainFrom_root ?_
        rw [hr]
        exact h

theorem mainFrom_tab {value : Nat} (htop : a.topMain.isSome = true)
    (h : (a.root.setIndex value).mainState = some m) : MainFrom a (.tab value) m := by
  obtain ⟨m₀, hm₀⟩ := Option.isSome_iff_exists.mp htop
  rw [setIndex_mainState, (topMain_eq_some hm₀).2] at h
  obtain rfl := Option.some.inj h
  exact Or.inl ⟨m₀, (topMain_eq_some hm₀).2, rfl, Or.inr ⟨rfl, hm₀⟩⟩

end MainFrom

theorem deliver_currentUser (a : App) (n : Nat) : (a.deliver n).currentUser = a.currentUser := by
  unfold App.deliver
  split <;> rfl

/-- What a step leaves at the root when it does not change the user other than by the exit
    icon. That one leaves no `MainPage`. -/
theorem appStep_main (a : App) (e : AppEvent) (he : ∀ u, e ≠ .change u) :
    ((appStep a e).currentUser = none ∧ (appStep a e).root.mainState = none) ∨
    ((appStep a e).currentUser = a.currentUser ∧
      ∀ m, (appStep a e).root.mainState = some m → MainFrom a e m) := by
  cases e with
  | change u => exact absurd rfl (he u)
  | deliver n => exact Or.inr ⟨deliver_currentUser a n, fun _ => mainFrom_deliver⟩
  | tab value =>
      right
      simp only [appStep]
      split
      · next htop => exact ⟨rfl, fun _ => mainFrom_tab htop⟩
      · exact ⟨rfl, fun _ => mainFrom_root⟩
  | exit =>
      simp only [appStep]
      split
      · exact Or.inl ⟨rfl, rfl⟩
      · exact Or.inr ⟨rfl, fun _ => mainFrom_root⟩
  | push =>
      right
      simp only [appStep]
      split <;> exact ⟨rfl, fun _ hm => mainFrom_root hm⟩
  | pop => exact Or.inr ⟨rfl, fun _ hm => mainFrom_root hm⟩
  | booked =>
      right
      simp only [appStep]
      split
      · exact ⟨rfl, fun _ hm => nomatch hm⟩
      · exact ⟨rfl, fun _ => mainFrom_root⟩
  | home =>
      right
      simp only [appStep]
      split
      · exact ⟨rfl, fun _ => mainFrom_createMain⟩
      · exact ⟨rfl, fun _ => mainFrom_root⟩

/-- A step other than a sign-in leaves the user or nobody signed in. -/
theorem appStep_from (a : App) (e : AppEvent) (he : ∀ u, e ≠ .change (some u)) :
    ((appStep a e).currentUser = none ∨ (appStep a e).currentUser = a.currentUser) ∧
      ∀ m, (appStep a e).root.mainState = some m → MainFrom a e m := by
  by_cases hend : e = .change none
  · subst hend
    exact ⟨Or.inl rfl, fun _ hm => mainFrom_root hm⟩
  · have hne : ∀ u, e ≠ .change u := by
      intro u
      cases u with
      | none => exact hend
      | some u => exact he u
    rcases appStep_main a e hne with ⟨hcur, hroot⟩ | ⟨hcur, hroot⟩
    · refine ⟨Or.inl hcur, fun m hm => ?_⟩
      cases hroot.symm.trans hm
    · exact ⟨Or.inr hcur, hroot⟩

/-! ## A bare stack -/

theorem bare_mainState {a : App} (h : a.Bare) : a.root.mainState = none := by
  rcases h.2 with hroot | hroot <;> rw [hroot] <;> rfl

/-- As long as nobody signs in a bare stack stays bare. -/
theorem bare_step {a : App} {e : AppEvent} (he : ∀ u, e ≠ .change (some u)) (h : a.Bare)
    (hcur : a.currentUser = none) : (appStep a e).Bare := by
  have hmain : a.root.mainState = none := bare_mainState h
  have htop : a.topMain = none := by
    rw [App.topMain, h.1]
    exact hmain
  cases e with
  | change u =>
      cases u with
      | none => exact h
      | some u => exact absurd rfl (he u)
  | deliver n =>
      rcases deliver_cases a n with ⟨hd, _⟩ | ⟨body, snapshot, hr, _, hd⟩
      · rw [appStep, hd]
        exact h
      · rw [appStep, hd, hcur]
        refine ⟨h.1, ?_⟩
        rw [hr] at hmain
        cases snapshot with
        | none => exact Or.inl rfl
        | some u =>
            right
            match body, hmain with
            | .auth, _ => rfl
            | .main none, _ => rfl
  | tab value =>
      rw [appStep, htop]
      exact h
  | exit =>
      have hprofile : a.onProfile = false := by
        rw [App.onProfile, htop]
        rfl
      rw [appStep, hprofile]
      exact h
  | push =>
      rw [appStep, htop]
      exact h
  | pop => exact ⟨rfl, h.2⟩
  | booked =>
      rw [appStep, h.1]
      exact h
  | home =>
      have hroot : a.root ≠ .payment := by
        rcases h.2 with hroot | hroot <;> rw [hroot] <;> exact fun heq => by cases heq
      rw [appStep, if_neg hroot]
      exact h

end Nginepyuk.Account
