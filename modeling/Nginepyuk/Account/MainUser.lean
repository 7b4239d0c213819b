/-
  `MainPage` and the current user.

  `UserInvariant` ties the queue of auth events and the page at the root to the current user.
  It is kept by every step that meets `AuthInStep`: the signed-in user changes only with the
  `SplashScreen` at the root and every earlier event delivered, a sign-in takes place on
  `AuthPage`, and a booking completes with a user signed in. `main_user_current` draws the
  two safety properties from it.

  Outside that condition both fail (`main_user_goes_stale`): the Home button creates a
  `MainPage` for no user after the session ended on the confirmation page, and a `MainPage`
  reached by it keeps its user when the session ends.
-/
import Nginepyuk.Account.Navigation

namespace Nginepyuk.Account

open Lib.Trace

/-- No `MainPage` at the root was created without a user. -/
def MainCreated (a : App) : Prop := a.root ≠ .splash (.main none) ∧ a.root ≠ .main none

instance (a : App) : Decidable (MainCreated a) := inferInstanceAs (Decidable (_ ∧ _))

/-- With every event delivered, the `MainPage` on top passes the uid of the current user to
    `OrderPage`. -/
def MainForCurrent (a : App) : Prop :=
  a.events = [] → ∀ m ∈ a.topMain, a.currentUser.map User.uid = some m.user.uid

instance (a : App) : Decidable (MainForCurrent a) :=
  inferInstanceAs (Decidable (_ → ∀ m ∈ _, _))

/-- The condition on a step. A session ends (or a user signs out other than by the exit icon)
    only with a `SplashScreen` at the root that has been told of everything before; a sign-in
    takes place on `AuthPage`, with nobody signed in; a booking completes with a user. -/
def AuthInStep (a : App) : AppEvent → Prop
  | .change none => a.currentUser = none ∨ (a.events = [] ∧ ∃ body, a.root = .splash body)
  | .change (some _) => a.currentUser = none ∧ a.root = .splash .auth ∧ a.covered = false
  | .booked => a.covered = true → a.currentUser ≠ none
  | _ => True

/-- The queue of a user whose sign-in was not delivered yet: only the ends of earlier sessions
    before it. -/
def SignInQueued (currentUser : Option User) (events : List (Option User)) : Prop :=
  ∃ pre, (∀ ev ∈ pre, ev = none) ∧ events = pre ++ [currentUser]

/-- What the root page says about the current user and the queue. A `MainPage` below a
    `SplashScreen` is the current user's, or the session has ended and the event that says so
    is still queued. -/
def RootOk (currentUser : Option User) (events : List (Option User)) (covered : Bool) : Root → Prop
  | .splash .auth => currentUser = none ∨ (covered = false ∧ SignInQueued currentUser events)
  | .splash (.main none) => False
  | .splash (.main (some m)) =>
      (currentUser = some m.user ∧ events = []) ∨ (currentUser = none ∧ events ≠ [])
  | .payment => currentUser ≠ none ∧ events = []
  | .main none => False
  | .main (some m) => currentUser = some m.user ∧ events = []

/-- With nobody signed in only ends of sessions are queued, and the root page fits the user. -/
structure UserInvariant (a : App) : Prop where
  queue : a.currentUser = none → ∀ ev ∈ a.events, ev = none
  root : RootOk a.currentUser a.events a.covered a.root

/-! ## What a fitting root gives -/

section Root

variable {cur : Option User} {events : List (Option User)} {cov : Bool}

theorem rootOk_main {m : MainState} :
    ∀ {r : Root}, RootOk cur events cov r → r.mainState = some m →
      (cur = some m.user ∧ events = []) ∨ (cur = none ∧ events ≠ [])
  | .splash (.main (some _)), h, hm => by
      obtain rfl := Option.some.inj hm
      exact h
  | .main (some _), h, hm => by
      obtain rfl := Option.some.inj hm
      exact Or.inl h

theorem rootOk_created : ∀ {r : Root}, RootOk cur events cov r →
    r ≠ .splash (.main none) ∧ r ≠ .main none
  | .splash .auth, _ => by simp
  | .splash (.main (some _)), _ => by simp
  | .payment, _ => by simp
  | .main (some _), _ => by simp

theorem rootOk_setIndex (value : Nat) :
    ∀ {r : Root}, RootOk cur events cov r → RootOk cur events cov (r.setIndex value)
  | .splash .auth, h => h
  | .splash (.main (some _)), h => h
  | .payment, h => h
  | .main (some _), h => h

/-- A page over a `MainPage` changes nothing. -/
theorem rootOk_cover {m : MainState} :
    ∀ {r : Root}, RootOk cur events cov r → r.mainState = some m → RootOk cur events true r
  | .splash (.main (some _)), h, _ => h
  | .main (some _), h, _ => h

theorem rootOk_uncover : ∀ {r : Root}, RootOk cur events cov r → RootOk cur events false r
  | .splash .auth, h => h.imp_right fun hq => ⟨rfl, hq.2⟩
  | .splash (.main (some _)), h => h
  | .payment, h => h
  | .main (some _), h => h

/-- Below the booking flow, with a user signed in, nothing is queued. -/
theorem rootOk_covered_nil (hcur : cur ≠ none) :
    ∀ {r : Root}, RootOk cur events true r → events = []
  | .splash .auth, h => by
      rcases h with hnone | ⟨hcov, _⟩
      · exact absurd hnone hcur
      · exact nomatch hcov
  | .splash (.main (some _)), h => by
      rcases h with ⟨_, hnil⟩ | ⟨hnone, _⟩
      · exact hnil
      · exact absurd hnone hcur
  | .payment, h => h.2
  | .main (some _), h => h.2

/-- Where nobody listens the queue is empty already. -/
theorem rootOk_drop (n : Nat) : ∀ {r : Root}, (∀ body, r ≠ .splash body) →
    RootOk cur events cov r → RootOk cur (events.drop n) cov r
  | .splash body, hr, _ => absurd rfl (hr body)
  | .payment, _, h => ⟨h.1, by rw [h.2]; exact List.drop_nil⟩
  | .main (some _), _, h => ⟨h.1, by rw [h.2]; exact List.drop_nil⟩

/-- With nobody signed in from now on, the root fits if some event says so to a `MainPage`. -/
theorem rootOk_signedOut (hne : events ≠ []) : ∀ {body : SplashBody} {old : Option User}
    {oldEvents : List (Option User)}, RootOk old oldEvents cov (.splash body) →
    RootOk none events cov (.splash body)
  | .auth, _, _, _ => Or.inl rfl
  | .main (some _), _, _, _ => Or.inr ⟨rfl, hne⟩

/-- With nobody signed in the root is a `SplashScreen`. -/
theorem rootOk_none_splash :
    ∀ {r : Root}, RootOk none events cov r → ∃ body, r = .splash body
  | .splash body, _ => ⟨body, rfl⟩
  | .payment, h => absurd rfl h.1
  | .main (some _), h => nomatch h.1

/-- Delivering part of the queue of a signed-in user: the latest event is the end of an earlier
    session, or the sign-in itself with nothing after it. -/
theorem signInQueued_take {u : User} {n : Nat} {snapshot : Option User}
    (h : SignInQueued (some u) events) (hlast : (events.take n).getLast? = some snapshot) :
    (snapshot = none ∧ SignInQueued (some u) (events.drop n)) ∨
      (snapshot = some u ∧ events.drop n = []) := by
  obtain ⟨pre, hpre, rfl⟩ := h
  by_cases hn : n ≤ pre.length
  · left
    rw [List.take_append_of_le_length hn] at hlast
    have hmem := List.mem_of_mem_take (List.mem_of_getLast? hlast)
    refine ⟨hpre _ hmem, pre.drop n, fun ev hev => hpre ev (List.mem_of_mem_drop hev), ?_⟩
    rw [List.drop_append_of_le_length hn]
  · right
    have hlen : (pre ++ [some u]).length ≤ n := by
      rw [List.length_append, List.length_singleton]
      omega
    rw [List.take_of_length_le hlen, List.getLast?_concat] at hlast
    exact ⟨(Option.some.inj hlast).symm, List.drop_eq_nil_of_le hlen⟩

/-- A rebuild on the latest of the events delivered. -/
theorem rootOk_rebuild {n : Nat} {body : SplashBody} {snapshot : Option User}
    (hq : cur = none → ∀ ev ∈ events, ev = none) (h : RootOk cur events cov (.splash body))
    (hlast : (events.take n).getLast? = some snapshot) :
    RootOk cur (events.drop n) cov (.splash (rebuild cur body snapshot)) := by
  have hmem : snapshot ∈ events := List.mem_of_mem_take (List.mem_of_getLast? hlast)
  cases cur with
  | none =>
      rw [hq rfl snapshot hmem]
      exact Or.inl rfl
  | some u =>
      match body, h with
      | .auth, h =>
          rcases h with hnone | ⟨hcov, hsign⟩
          · exact nomatch hnone
          · rcases signInQueued_take hsign hlast with ⟨rfl, hrest⟩ | ⟨rfl, hnil⟩
            · exact Or.inr ⟨hcov, hrest⟩
            · exact Or.inl ⟨rfl, hnil⟩
      | .main (some m), h =>
          -- A `MainPage` is up and a user is signed in: nothing was queued.
          rcases h with ⟨_, hempty⟩ | ⟨hnone, _⟩
          · rw [hempty] at hmem; exact nomatch hmem
          · exact nomatch hnone

end Root

/-! ## One step -/

/-- The end of a session, behind nothing but ends of sessions. -/
theorem queue_signedOut {events : List (Option User)} (h : ∀ ev ∈ events, ev = none) :
    ∀ ev ∈ events ++ [none], ev = none := by
  rw [List.forall_mem_append, List.forall_mem_singleton]
  exact ⟨h, rfl⟩

theorem userInvariant_start (user : Option User) : UserInvariant (App.start user) where
  queue := fun hnone ev hev => (List.mem_singleton.mp hev).trans hnone
  root := Or.inr ⟨rfl, [], by simp, rfl⟩

theorem userInvariant_change (a : App) (user : Option User) (hc : AuthInStep a (.change user))
    (h : UserInvariant a) : UserInvariant (a.change user) := by
  have hne : a.events ++ [user] ≠ [] := by simp
  cases user with
  | none =>
      have hall : ∀ ev ∈ a.events, ev = none := by
        rcases hc with hnone | ⟨hnil, _⟩
        · exact h.queue hnone
        · rw [hnil]; exact fun _ hev => nomatch hev
      refine ⟨fun _ => queue_signedOut hall, ?_⟩
      have hroot := h.root
      have hsplash : ∃ body, a.root = .splash body := by
        rcases hc with hnone | ⟨_, hsplash⟩
        · rw [hnone] at hroot
          exact rootOk_none_splash hroot
        · exact hsplash
      obtain ⟨body, hr⟩ := hsplash
      unfold App.change
      rw [hr] at hroot ⊢
      exact rootOk_signedOut hne hroot
  | some u =>
      obtain ⟨hnone, hr, hcov⟩ := hc
      refine ⟨by simp [App.change], ?_⟩
      unfold App.change
      rw [hr, hcov]
      exact Or.inr ⟨rfl, a.events, h.queue hnone, rfl⟩

theorem userInvariant_deliver (a : App) (n : Nat) (h : UserInvariant a) :
    UserInvariant (a.deliver n) := by
  have hq : a.currentUser = none → ∀ ev ∈ a.events.drop n, ev = none :=
    fun hnone ev hev => h.queue hnone ev (List.mem_of_mem_drop hev)
  have hroot := h.root
  rcases deliver_cases a n with ⟨hd, hsame⟩ | ⟨body, snapshot, hr, hlast, hd⟩
  · rw [hd]
    refine ⟨hq, ?_⟩
    rcases hsame with hsame | hsplash
    · rw [hsame]; exact hroot
    · exact rootOk_drop n hsplash hroot
  · rw [hr] at hroot
    rw [hd]
    exact ⟨hq, rootOk_rebuild h.queue hroot hlast⟩

theorem userInvariant_exit (a : App) (m : MainState) (h : UserInvariant a)
    (hm : a.root.mainState = some m) : UserInvariant a.exit := by
  have hall : ∀ ev ∈ a.events, ev = none := by
    rcases rootOk_main h.root hm with ⟨_, hnil⟩ | ⟨hnone, _⟩
    · rw [hnil]; exact fun _ hev => nomatch hev
    · exact h.queue hnone
  exact ⟨fun _ => queue_signedOut hall, Or.inl rfl⟩

theorem userInvariant_step (a : App) (e : AppEvent) (hc : AuthInStep a e)
    (h : UserInvariant a) : UserInvariant (appStep a e) := by
  cases e with
  | change user => exact userInvariant_change a user hc h
  | deliver n => exact userInvariant_deliver a n h
  | tab value =>
      simp only [appStep]
      split
      · exact ⟨h.queue, rootOk_setIndex value h.root⟩
      · exact h
  | exit =>
      simp only [appStep]
      split
      · next hp =>
          obtain ⟨m, hm, _⟩ := onProfile_main hp
          exact userInvariant_exit a m h (topMain_eq_some hm).2
      · exact h
  | push =>
      simp only [appStep]
      split
      · next hp =>
          obtain ⟨m, hm⟩ := Option.isSome_iff_exists.mp hp
          exact ⟨h.queue, rootOk_cover h.root (topMain_eq_some hm).2⟩
      · exact h
  | pop => exact ⟨h.queue, rootOk_uncover h.root⟩
  | booked =>
      simp only [appStep]
      split
      · next hcov =>
          have hroot := h.root
          rw [hcov] at hroot
          exact ⟨h.queue, hc hcov, rootOk_covered_nil (hc hcov) hroot⟩
      · exact h
  | home =>
      simp only [appStep]
      split
      · next hr =>
          have hroot := h.root
          rw [hr] at hroot
          obtain ⟨hcur, hnil⟩ := hroot
          obtain ⟨u, hu⟩ := Option.ne_none_iff_exists'.mp hcur
          refine ⟨h.queue, ?_⟩
          rw [hu]
          exact ⟨rfl, hnil⟩
      · exact h

theorem safe_of_userInvariant (a : App) (h : UserInvariant a) :
    MainCreated a ∧ MainForCurrent a := by
  refine ⟨rootOk_created h.root, ?_⟩
  intro hnil m hm
  rcases rootOk_main h.root (topMain_eq_some hm).2 with ⟨hcur, _⟩ | ⟨_, hne⟩
  · rw [hcur]; rfl
  · exact absurd hnil hne

/-! ## The condition is needed -/

/-- Some continuation of `a` reaches a state that is not safe. -/
def CanFail (a : App) : Prop :=
  ∃ es, ¬ (MainCreated (run appStep a es) ∧ MainForCurrent (run appStep a es))

theorem canFail_of_step {a : App} (e : AppEvent) (h : CanFail (appStep a e)) : CanFail a := by
  obtain ⟨es, hes⟩ := h
  exact ⟨e :: es, hes⟩

/-- The latest event of a delivery that ends with `ev`. -/
theorem getLast?_take_through (pre rest : List (Option User)) (ev : Option User) :
    ((pre ++ ev :: rest).take (pre.length + 1)).getLast? = some ev := by
  rw [List.append_cons, List.take_left' (by simp), List.getLast?_concat]

/-- A `SplashScreen` that is told of a user who is gone. -/
theorem canFail_of_signedOut {a : App} {u : User} (pre rest : List (Option User))
    (hcur : a.currentUser = none) (hroot : a.root = .splash .auth)
    (hev : a.events = pre ++ some u :: rest) : CanFail a := by
  refine ⟨[.deliver (pre.length + 1)], ?_⟩
  have htake : (a.events.take (pre.length + 1)).getLast? = some (some u) := by
    rw [hev, getLast?_take_through]
  simp only [run_cons, run_nil, appStep, App.deliver, htake, hroot, hcur, rebuild, createMain]
  exact fun hsafe => hsafe.1.1 rfl

/-- Leaving a `MainPage` by the exit icon while an event of a user is queued. -/
theorem canFail_of_main {a : App} {m : MainState} {u : User} (pre : List (Option User))
    (hm : a.root.mainState = some m) (hev : a.events = pre ++ [some u]) : CanFail a := by
  refine canFail_of_step .pop (canFail_of_step (.tab 3) (canFail_of_step .exit ?_))
  have htab : appStep (appStep a .pop) (.tab 3) =
      { a with covered := false, root := a.root.setIndex 3 } := by
    simp only [appStep, App.topMain, hm]
    rfl
  have hprofile : (appStep (appStep a .pop) (.tab 3)).onProfile = true := by
    rw [htab]
    simp only [App.onProfile, App.topMain, setIndex_mainState, hm]
    rfl
  have hexit : appStep (appStep (appStep a .pop) (.tab 3)) .exit =
      { a with covered := false, root := a.root.setIndex 3 }.exit := by
    rw [← htab]
    exact if_pos hprofile
  rw [hexit]
  refine canFail_of_signedOut (u := u) pre [none] rfl rfl ?_
  simp only [App.exit, App.change, hev, List.append_assoc, List.cons_append, List.nil_append]

/-- The confirmation page with nobody signed in. -/
theorem canFail_of_payment_none {a : App} (hroot : a.root = .payment)
    (hcur : a.currentUser = none) : CanFail a := by
  refine ⟨[.home], ?_⟩
  simp only [run_cons, run_nil, appStep, hroot, hcur, createMain]
  exact fun hsafe => hsafe.1.2 rfl

/-- The confirmation page of a user whose sign-in is queued. -/
theorem canFail_of_payment_some {a : App} {u : User} (pre : List (Option User))
    (hroot : a.root = .payment) (hcur : a.currentUser = some u)
    (hev : a.events = pre ++ [some u]) : CanFail a := by
  refine canFail_of_step .home (canFail_of_main (m := ⟨u, 0⟩) (u := u) pre ?_ ?_)
  · simp only [appStep, hroot, hcur, createMain]
    rfl
  · simp only [appStep, hroot, if_true, hev]

theorem canFail_endSession (a : App) (u : User) (h : UserInvariant a)
    (hcur : a.currentUser = some u)
    (hc : ¬ (a.events = [] ∧ ∃ body, a.root = .splash body)) : CanFail (a.change none) := by
  have hroot := h.root
  rw [hcur] at hroot
  cases hr : a.root with
  | splash body =>
      rw [hr] at hroot
      cases body with
      | auth =>
          rcases hroot with hnone | ⟨_, pre, _, hev⟩
          · exact nomatch hnone
          · refine canFail_of_signedOut (u := u) pre [none] rfl hr ?_
            simp only [App.change, hev, List.append_assoc, List.cons_append, List.nil_append]
      | main state =>
          cases state with
          | none => exact hroot.elim
          | some m =>
              rcases hroot with ⟨_, hnil⟩ | ⟨hnone, _⟩
              · exact absurd ⟨hnil, _, hr⟩ hc
              · exact nomatch hnone
  | payment => exact canFail_of_payment_none hr rfl
  | main state =>
      rw [hr] at hroot
      cases state with
      | none => exact hroot.elim
      | some m =>
          -- Nobody listens: the page stays, and the last event is delivered.
          refine ⟨[.pop, .deliver 1], fun hsafe => ?_⟩
          have hbad := hsafe.2
          simp only [run_cons, run_nil, appStep, App.change, App.deliver, hr, hroot.2] at hbad
          have huid : none = some m.user.uid := hbad rfl m rfl
          exact Option.some_ne_none _ huid.symm

theorem canFail_signIn (a : App) (v : User) (h : UserInvariant a)
    (hc : ¬ (a.currentUser = none ∧ a.root = .splash .auth ∧ a.covered = false)) :
    CanFail (a.change (some v)) := by
  have hroot := h.root
  match hr : a.root with
  | .splash .auth =>
      rw [hr] at hroot
      rcases hroot with hnone | ⟨hcov, pre, _, hev⟩
      · have hcov : a.covered = true := by
          rcases Bool.eq_false_or_eq_true a.covered with hcov | hcov
          · exact hcov
          · exact absurd ⟨hnone, hr, hcov⟩ hc
        refine canFail_of_step .booked ?_
        have hstep : appStep (a.change (some v)) .booked =
            { a.change (some v) with root := .payment, covered := false } := by
          simp only [appStep, App.change, hcov, if_true]
        rw [hstep]
        exact canFail_of_payment_some a.events rfl rfl rfl
      · cases hcur : a.currentUser with
        | none => exact absurd ⟨hcur, hr, hcov⟩ hc
        | some u =>
            -- The earlier sign-in is delivered first, and creates the page for `v`.
            rw [hcur] at hev
            refine canFail_of_step (.deliver (pre.length + 1))
              (canFail_of_main (m := ⟨v, 0⟩) (u := v) [] ?_ ?_)
            · have htake : ((a.change (some v)).events.take (pre.length + 1)).getLast? =
                  some (some u) := by
                simp only [App.change, hev, List.append_assoc]
                exact getLast?_take_through pre [some v] (some u)
              simp only [appStep, App.deliver, htake]
              simp only [App.change, hr]
              rfl
            · simp only [appStep, deliver_events, App.change, hev]
              rw [List.drop_left' (by simp), List.nil_append]
  | .splash (.main none) => rw [hr] at hroot; exact hroot.elim
  | .splash (.main (some m)) => exact canFail_of_main a.events (by rw [App.change, hr]; rfl) rfl
  | .payment => exact canFail_of_payment_some a.events hr rfl rfl
  | .main none => rw [hr] at hroot; exact hroot.elim
  | .main (some m) => exact canFail_of_main a.events (by rw [App.change, hr]; rfl) rfl

/-- Every step that breaks the condition can be continued to a state that is not safe. -/
theorem canFail_of_not_authInStep (a : App) (e : AppEvent) (h : UserInvariant a)
    (hc : ¬ AuthInStep a e) : CanFail (appStep a e) := by
  cases e with
  | change user =>
      cases user with
      | none =>
          obtain ⟨hcur, hsplash⟩ := not_or.mp hc
          obtain ⟨u, hu⟩ := Option.ne_none_iff_exists'.mp hcur
          exact canFail_endSession a u h hu hsplash
      | some v => exact canFail_signIn a v h hc
  | booked =>
      simp only [AuthInStep, Classical.not_imp, not_not] at hc
      have hstep : appStep a .booked = { a with root := .payment, covered := false } := by
        simp only [appStep, hc.1, if_true]
      rw [hstep]
      exact canFail_of_payment_none rfl hc.2
  | deliver n => exact absurd trivial hc
  | tab value => exact absurd trivial hc
  | exit => exact absurd trivial hc
  | push => exact absurd trivial hc
  | pop => exact absurd trivial hc
  | home => exact absurd trivial hc

/-- **`MainPage` is the current user's.** In every run whose steps meet `AuthInStep`, no
    `MainPage` is created without a user, and with every event delivered the `MainPage` on top
    passes on the uid of the current user. After such a run, a step that does not meet the
    condition can be continued to a state where one of the two fails. -/
theorem main_user_current (user : Option User) (es : List AppEvent)
    (hall : AllSteps appStep AuthInStep (App.start user) es) :
    Always appStep (fun a => MainCreated a ∧ MainForCurrent a) (App.start user) es ∧
      ∀ e, ¬ AuthInStep (run appStep (App.start user) es) e →
        CanFail (appStep (run appStep (App.start user) es) e) := by
  have h0 := userInvariant_start user
  refine ⟨always_of_inv userInvariant_step safe_of_userInvariant _ es hall h0, ?_⟩
  intro e he
  exact canFail_of_not_authInStep _ e (inv_run userInvariant_step _ es hall h0) he

/-- The user of the concrete runs. -/
def sampleUser : User := ⟨"u", "guest@mail.com"⟩

/-- Signed in, through a booking to the confirmation and Home, then out by the exit icon. -/
theorem booking_and_exit_stay_current :
    Always appStep (fun a => MainCreated a ∧ MainForCurrent a) (App.start none)
      [.deliver 1, .change (some sampleUser), .deliver 1, .push, .booked, .home, .tab 3, .exit,
        .deliver 1] :=
  (main_user_current none
    [.deliver 1, .change (some sampleUser), .deliver 1, .push, .booked, .home, .tab 3, .exit,
      .deliver 1]
    ⟨trivial, ⟨rfl, rfl, rfl⟩, trivial, trivial, fun _ => Option.some_ne_none sampleUser, trivial,
      trivial, trivial, trivial, trivial⟩).1

/-- The session ends on the confirmation page: Home then creates a `MainPage` for no user.
    It ends after Home: the `MainPage` keeps its user, with every event delivered. -/
theorem main_user_goes_stale :
    ¬ (∀ (user : Option User) (es : List AppEvent),
        MainCreated (run appStep (App.start user) es)) ∧
    ¬ (∀ (user : Option User) (es : List AppEvent),
        MainForCurrent (run appStep (App.start user) es)) := by
  constructor
  · intro h
    have hbad := h (some sampleUser) [.deliver 1, .push, .booked, .change none, .home]
    revert hbad
    decide
  · intro h
    have hbad := h (some sampleUser) [.deliver 1, .push, .booked, .home, .change none, .deliver 1]
    revert hbad
    decide

end Nginepyuk.Account
