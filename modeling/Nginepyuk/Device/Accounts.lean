/-
  The app with the auth pages and the accounts, all at once.

  `Device.Navigator` takes the signed-in user as it comes, and `Account.AuthPages` has the app only
  as the navigation model. Here both run side by side. A sign-in of the auth pages is an event of
  the device, and what an event of the device is in the navigation model, the end of a session by
  the backend included, is an event of the auth pages; nobody is signed in in any other way.
  `whole_runs`: each of the two goes through a run of its own machine, and they agree on the user,
  the queue and the page at the bottom all along, so what was proved of either holds here.

  Two results are about both. An order refers to an account by its uid, and so does the document
  of the user (`orders_of_accounts`). And the condition of `Device.Owners` on the sign-ins comes
  down to one on the taps of the auth pages (`orders_owned_by_users`).
-/
import Nginepyuk.Account.Handlers
import Nginepyuk.Device.Orders
import Nginepyuk.Device.Owners
import Nginepyuk.Device.Sessions

namespace Nginepyuk.Device

open Lib.Trace Lib.LocalTime Lib.Fields Lib.DocStore
open Nginepyuk.Account Nginepyuk.Booking Nginepyuk.Hotels Nginepyuk.Orders

/-- The device and the auth pages. -/
structure Whole where
  device : World
  auth : AuthPages

/-- Nobody registered, nobody signed in. -/
def Whole.start (orders : Collection OrderDoc) (hotels : List (String × Doc)) : Whole where
  device := World.start none orders hotels
  auth := AuthPages.start

inductive WholeEvent where
  | device (e : Event)
  | auth (e : AuthEvent)

def Event.signsIn : Event → Bool
  | .user (some _) => true
  | _ => false

def isNav : AuthEvent → Bool
  | .nav _ => true
  | _ => false

section Machine

variable (z : Zone) (lower : String → String)

/-- What an event of the auth pages is for the device: a sign-in, or nothing. -/
def signIns (p : AuthPages) (e : AuthEvent) : List Event :=
  if (authStep lower p e).app = p.app then []
  else [.user (authStep lower p e).app.currentUser]

/-- What the device is sent. -/
def deviceEvents (s : Whole) : WholeEvent → List Event
  | .device e => if e.signsIn then [] else [e]
  | .auth e => if isNav e then [] else signIns lower s.auth e

/-- What the auth pages are sent. -/
def authEvents (s : Whole) : WholeEvent → List AuthEvent
  | .device e => if e.signsIn then [] else (emit z s.device e).map .nav
  | .auth e => if isNav e then [] else [e]

def wholeStep (s : Whole) (e : WholeEvent) : Whole where
  device := run (step z) s.device (deviceEvents lower s e)
  auth := run (authStep lower) s.auth (authEvents z s e)

end Machine

/-! ## The two agree -/

section Agree

variable {z : Zone} {lower : String → String}

theorem emit_ne_change (z : Zone) (w : World) {e : Event} (he : e.signsIn = false)
    {a : AppEvent} (ha : a ∈ emit z w e) (u : User) : a ≠ .change (some u) := by
  have hcover : ∀ c c', a ∈ coverEvents c c' → a ≠ .change (some u) := by
    intro c c' hmem
    cases c <;> cases c' <;> simp only [coverEvents, List.mem_singleton, List.not_mem_nil] at hmem
    · rw [hmem]
      exact fun h => by cases h
    · rw [hmem]
      exact fun h => by cases h
  unfold emit at ha
  cases e with
  | user user =>
      cases user with
      | some u => cases he
      | none =>
          rw [List.mem_singleton.mp ha]
          exact fun h => by cases h
  | deliver | tab | exit | home =>
      rw [List.mem_singleton.mp ha]
      exact fun h => by cases h
  | added i j id =>
      simp only [Event.appEvents] at ha
      split at ha
      · rw [List.mem_singleton.mp ha]
        exact fun h => by cases h
      · exact absurd ha List.not_mem_nil
  | _ => exact hcover _ _ ha

theorem run_nav_app (lower : String → String) (p : AuthPages) (l : List AppEvent)
    (hl : ∀ a ∈ l, ∀ u, a ≠ .change (some u)) :
    (run (authStep lower) p (l.map .nav)).app = run appStep p.app l := by
  induction l generalizing p with
  | nil => rfl
  | cons a l ih =>
      have hstep : (authStep lower p (.nav a)).app = appStep p.app a := by
        cases a with
        | change user =>
            cases user with
            | some u => exact absurd rfl (hl _ List.mem_cons_self u)
            | none => rfl
        | _ => rfl
      rw [List.map_cons, run_cons, ih _ fun b hb => hl b (List.mem_cons_of_mem _ hb), hstep]
      rfl

/-- An event of the auth pages leaves the app as it is or ends a waiting call and signs somebody
    in. -/
theorem auth_app (lower : String → String) (p : AuthPages) {e : AuthEvent} (he : isNav e = false) :
    (authStep lower p e).app = p.app ∨
      p.requests ≠ [] ∧ ∃ u, (authStep lower p e).app = p.app.change (some u) := by
  have hm := authStep_move lower p e
  generalize authStep lower p e = p' at hm
  cases hm with
  | created k page form uid hk hnew =>
      exact Or.inr ⟨List.ne_nil_of_mem (List.mem_of_getElem? hk), _, rfl⟩
  | signedIn k page form uid a hk ha =>
      exact Or.inr ⟨List.ne_nil_of_mem (List.mem_of_getElem? hk), _, rfl⟩
  | nav => cases he
  | _ => exact Or.inl rfl

theorem signIns_app (z : Zone) {p : AuthPages} {w : World} {e : AuthEvent} (he : isNav e = false)
    (h : p.app = w.app) :
    (run (step z) w (signIns lower p e)).app = (authStep lower p e).app := by
  unfold signIns
  split
  · next heq => exact h.symm.trans heq.symm
  · next hne =>
      rcases auth_app lower p he with heq | ⟨_, u, heq⟩
      · exact absurd heq hne
      · rw [heq, h]
        rfl

/-- The two agree, and the stack is well formed. -/
def Agree (s : Whole) : Prop := StackInv s.device ∧ s.auth.app = s.device.app

/-- A step of the whole app: nothing, an event of the device with what it means for the app sent
    to the auth pages, or an event of the auth pages with its sign-in sent to the device. -/
theorem wholeStep_cases (z : Zone) (lower : String → String) (s : Whole) (e : WholeEvent) :
    wholeStep z lower s e = s ∨
      (∃ e', e = .device e' ∧ e'.signsIn = false ∧ wholeStep z lower s e =
        ⟨step z s.device e', run (authStep lower) s.auth ((emit z s.device e').map .nav)⟩) ∨
      ∃ e', e = .auth e' ∧ isNav e' = false ∧ wholeStep z lower s e =
        ⟨run (step z) s.device (signIns lower s.auth e'), authStep lower s.auth e'⟩ := by
  cases e with
  | device e =>
      cases he : e.signsIn with
      | true =>
          refine Or.inl ?_
          simp only [wholeStep, deviceEvents, authEvents, he]
          rfl
      | false =>
          refine Or.inr (Or.inl ⟨e, rfl, he, ?_⟩)
          simp only [wholeStep, deviceEvents, authEvents, he]
          rfl
  | auth e =>
      cases he : isNav e with
      | true =>
          refine Or.inl ?_
          simp only [wholeStep, deviceEvents, authEvents, he]
          rfl
      | false =>
          refine Or.inr (Or.inr ⟨e, rfl, he, ?_⟩)
          simp only [wholeStep, deviceEvents, authEvents, he]
          rfl

theorem agree_step (z : Zone) (lower : String → String) (s : Whole) (e : WholeEvent)
    (h : Agree s) : Agree (wholeStep z lower s e) := by
  refine ⟨inv_run_all (stackInv_step z) _ _ h.1, ?_⟩
  rcases wholeStep_cases z lower s e with hstay | ⟨e, rfl, he, hstep⟩ | ⟨e, rfl, he, hstep⟩
  · rw [hstay]
    exact h.2
  · rw [hstep, run_nav_app lower s.auth _ fun a ha => emit_ne_change z s.device he ha, h.2]
    exact (follows_app z s.device e h.1).symm
  · rw [hstep]
    exact (signIns_app z he h.2).symm

end Agree

theorem agree_start (orders : Collection OrderDoc) (hotels : List (String × Doc)) :
    Agree (Whole.start orders hotels) :=
  ⟨stackInv_start none orders hotels, rfl⟩

/-- **The whole app is the two together.** After every run the device is where its own machine
    gets from the events that it was sent, the auth pages are where theirs gets, and both have the
    same user, queue of auth events and page at the bottom. -/
theorem whole_runs (z : Zone) (lower : String → String) (orders : Collection OrderDoc)
    (hotels : List (String × Doc)) (es : List WholeEvent) :
    (run (wholeStep z lower) (Whole.start orders hotels) es).device =
        run (step z) (World.start none orders hotels)
          (emitted (wholeStep z lower) (deviceEvents lower) (Whole.start orders hotels) es) ∧
      (run (wholeStep z lower) (Whole.start orders hotels) es).auth =
        run (authStep lower) AuthPages.start
          (emitted (wholeStep z lower) (authEvents z) (Whole.start orders hotels) es) ∧
      (run (wholeStep z lower) (Whole.start orders hotels) es).auth.app =
        (run (wholeStep z lower) (Whole.start orders hotels) es).device.app := by
  have hdevice : Follows (wholeStep z lower) (step z) Whole.device (deviceEvents lower)
      (fun _ => True) := fun _ _ _ => rfl
  have hauth : Follows (wholeStep z lower) (authStep lower) Whole.auth (authEvents z)
      (fun _ => True) := fun _ _ _ => rfl
  refine ⟨?_, ?_, ?_⟩
  · exact abs_run (fun _ _ _ => trivial) hdevice _ es trivial
  · exact abs_run (fun _ _ _ => trivial) hauth _ es trivial
  · exact (inv_run_all (agree_step z lower) _ es (agree_start orders hotels)).2

/-! ## Orders and accounts -/

/-- Every order of the payment pages is of an account. -/
def OfAccounts (s : Whole) : Prop :=
  ∀ p ∈ s.device.sessions,
    AllDocs (fun order => ∃ a ∈ s.auth.accounts, a.user.uid = order.userId) p.2

structure WholeInv (s : Whole) : Prop where
  agree : Agree s
  accounts : AccountsInv s.auth
  orders : OfAccounts s

section Orders

variable {z : Zone} {lower : String → String}

/-- A payment page is told of the user who is signed in at the tap. -/
theorem bookNow_sent {w : World} {i : Nat} {e : Event} {uid : String}
    (h : SessionEvent.bookNow (some uid) ∈ sent i w e) :
    ∃ u, w.currentUser = some u ∧ u.uid = uid := by
  unfold sent at h
  split at h
  · next k se hse =>
      split at h
      · obtain rfl := List.mem_singleton.mp h
        cases e with
        | bookNow =>
            obtain ⟨_, _, heq⟩ := Option.map_eq_some_iff.mp hse
            exact Option.map_eq_some_iff.mp (SessionEvent.bookNow.inj (Prod.mk.inj heq).2)
        | radio | back =>
            obtain ⟨_, _, heq⟩ := Option.map_eq_some_iff.mp hse
            cases heq
        | added j k id =>
            simp only [sessionEvent] at hse
            split at hse <;> cases hse
        | build =>
            simp only [sessionEvent] at hse
            split at hse <;> cases hse
        | _ => cases hse
      · exact absurd h List.not_mem_nil
  · exact absurd h List.not_mem_nil

/-- The documents of a page after what it is sent, if the signed-in user is all right. -/
theorem allDocs_sent {P : OrderDoc → Prop} {w : World} {i : Nat} {e : Event}
    (p : PaymentMethod × Session)
    (hnew : ∀ u v, w.currentUser = some u → P (p.1.orderDoc u.uid v)) (h : AllDocs P p.2) :
    AllDocs P (run (sessionStep p.1) p.2 (sent i w e)) := by
  cases hsent : sent i w e with
  | nil => exact h
  | cons se rest =>
      have hnil : rest = [] := by
        unfold sent at hsent
        split at hsent
        · split at hsent
          · exact (List.cons.inj hsent).2.symm
          · cases hsent
        · cases hsent
      rw [hnil]
      refine allDocs_step p.1 P p.2 se ?_ h
      rintro uid rfl _
      have hmem : SessionEvent.bookNow (some uid) ∈ sent i w e := by
        rw [hsent]
        exact List.mem_cons_self
      obtain ⟨u, hu, rfl⟩ := bookNow_sent hmem
      exact hnew u _ hu

theorem accounts_run (lower : String → String) {p : AuthPages} {a : Registration}
    (ha : a ∈ p.accounts) (es : List AuthEvent) : a ∈ (run (authStep lower) p es).accounts :=
  inv_run_all (I := fun p => a ∈ p.accounts) (fun p e h => accounts_step lower p e h) _ es ha

theorem ofAccounts_device {s : Whole} {e : Event} {auth : AuthPages} (h : WholeInv s)
    (hgrow : ∀ a ∈ s.auth.accounts, a ∈ auth.accounts) :
    OfAccounts ⟨step z s.device e, auth⟩ := by
  refine forall_stepped ?_ (allDocs_start _)
  intro i p hp
  have hold := h.orders p (List.mem_of_getElem? hp)
  refine allDocs_mono ?_ (allDocs_sent p ?_ hold)
  · rintro order ⟨a, ha, hu⟩
    exact ⟨a, hgrow a ha, hu⟩
  · intro u v hu
    have hcur : s.auth.registry.app.currentUser = some u := by
      show s.auth.app.currentUser = some u
      rw [h.agree.2]
      exact hu
    obtain ⟨a, ha, rfl⟩ := h.accounts.registry.current u hcur
    exact ⟨a, ha, rfl⟩

theorem ofAccounts_grow {s : Whole} {auth : AuthPages} (h : OfAccounts s)
    (hgrow : ∀ a ∈ s.auth.accounts, a ∈ auth.accounts) : OfAccounts ⟨s.device, auth⟩ := by
  intro p hp
  refine allDocs_mono ?_ (h p hp)
  rintro order ⟨a, ha, hu⟩
  exact ⟨a, hgrow a ha, hu⟩

theorem ofAccounts_step (z : Zone) (lower : String → String) (s : Whole) (e : WholeEvent)
    (h : WholeInv s) : OfAccounts (wholeStep z lower s e) := by
  rcases wholeStep_cases z lower s e with hstay | ⟨e, rfl, he, hstep⟩ | ⟨e, rfl, he, hstep⟩
  · rw [hstay]
    exact h.orders
  · rw [hstep]
    exact ofAccounts_device h fun a ha => accounts_run lower ha _
  · rw [hstep]
    have hgrow : ∀ a ∈ s.auth.accounts, a ∈ (authStep lower s.auth e).accounts :=
      fun a ha => accounts_step lower s.auth e ha
    unfold signIns
    split
    · exact ofAccounts_grow h.orders hgrow
    · rw [run_cons, run_nil]
      exact ofAccounts_device h hgrow

theorem wholeInv_step (z : Zone) (lower : String → String) (s : Whole) (e : WholeEvent)
    (h : WholeInv s) : WholeInv (wholeStep z lower s e) :=
  ⟨agree_step z lower s e h.agree, inv_run_all (accountsInv_step lower) _ _ h.accounts,
    ofAccounts_step z lower s e h⟩

end Orders

theorem wholeInv_start (orders : Collection OrderDoc) (hotels : List (String × Doc)) :
    WholeInv (Whole.start orders hotels) :=
  ⟨agree_start orders hotels, accountsInv_start, fun _ hp => absurd hp List.not_mem_nil⟩

/-- Buttons of the auth pages are tapped one at a time. -/
def TapsAlone (s : Whole) : WholeEvent → Prop
  | .device _ => True
  | .auth e => OneAtATime s.auth e

instance (s : Whole) : (e : WholeEvent) → Decidable (TapsAlone s e)
  | .device _ => isTrue trivial
  | .auth e => inferInstanceAs (Decidable (OneAtATime s.auth e))

structure UsersInv (s : Whole) : Prop where
  agree : Agree s
  alone : OneCall s.auth
  owned : Owned s.device

section Users

variable {z : Zone} {lower : String → String}

theorem oneCall_nav (lower : String → String) {p : AuthPages} (h : OneCall p)
    (l : List AppEvent) : OneCall (run (authStep lower) p (l.map .nav)) := by
  induction l generalizing p with
  | nil => exact h
  | cons a l ih => exact ih (oneCall_step lower p (.nav a) trivial h)

theorem signsInBare_of_not {w : World} {e : Event} (he : e.signsIn = false) : SignsInBare w e := by
  cases e with
  | user user =>
      cases user with
      | some u => cases he
      | none => trivial
  | _ => trivial

/-- A call that ends with a sign-in was waiting, so the stack was bare. -/
theorem owned_signIns {s : Whole} {e : AuthEvent} (he : isNav e = false) (h : UsersInv s) :
    Owned (run (step z) s.device (signIns lower s.auth e)) := by
  unfold signIns
  split
  · exact h.owned
  · next hne =>
      rcases auth_app lower s.auth he with hsame | ⟨hreq, u, hchange⟩
      · exact absurd hsame hne
      · rw [hchange]
        refine owned_step z s.device (.user (some u)) h.agree.1 ?_ h.owned
        show s.device.app.Bare
        rw [← h.agree.2]
        exact (h.alone.2 hreq).2

theorem usersInv_step (s : Whole) (e : WholeEvent) (hc : TapsAlone s e) (h : UsersInv s) :
    UsersInv (wholeStep z lower s e) := by
  have hagree := agree_step z lower s e h.agree
  rcases wholeStep_cases z lower s e with hstay | ⟨e, rfl, he, hstep⟩ | ⟨e, rfl, he, hstep⟩
  · rw [hstay]
    exact h
  · rw [hstep] at hagree ⊢
    exact ⟨hagree, oneCall_nav lower h.alone _,
      owned_step z s.device e h.agree.1 (signsInBare_of_not he) h.owned⟩
  · rw [hstep] at hagree ⊢
    exact ⟨hagree, oneCall_step lower s.auth e hc h.alone, owned_signIns he h⟩

end Users

/-- **Users who wait own their orders.** In every run of the whole app in which a button of the
    auth pages is tapped only with no call waiting and nobody signed in, whatever the backend
    refuses, whenever it ends a session and in whatever order everything else comes, in every
    state: the user signed in, if any, the `MainPage`, the writes pending of the payment page on
    the screen, the orders whose detail pages are open and the order of a confirmation on the
    screen are all of one user. -/
theorem orders_owned_by_users (z : Zone) (lower : String → String) (orders : Collection OrderDoc)
    (hotels : List (String × Doc)) (es : List WholeEvent)
    (hall : AllSteps (wholeStep z lower) TapsAlone (Whole.start orders hotels) es) :
    Always (wholeStep z lower) (fun s => Owned s.device) (Whole.start orders hotels) es :=
  always_of_inv usersInv_step (fun _ h => h.owned) _ es hall
    ⟨agree_start orders hotels, oneCall_start, owned_start none orders hotels⟩

/-- A sign-up whose handler goes on after the auth event and whose write is refused, a booking,
    and the end of the session on the confirmation. -/
def wholeRun : List WholeEvent :=
  [.device (.deliver 1), .auth .toggleScreens, .auth (.edit .fullName "Guest"),
    .auth (.edit .email "guest@mail.com"), .auth (.edit .password "secret"),
    .auth (.edit .confirmPassword "secret"), .auth .tap, .auth (.served 0 (.done "u3")),
    .device (.deliver 1), .auth (.resume 0 .refused), .device (.openHotel "h1"),
    .device (.snapshot "h1" (some 0)), .device (.bookHotel 0 0),
    .device (.edit .fullName "Guest"), .device (.edit .fullNameTamu "Guest"),
    .device (.edit .email "guest@mail.com"), .device (.edit .phoneNumber "0812"), .device .next,
    .device .bookNow, .device (.added 0 0 "o1"), .device (.user none)]

theorem wholeRun_owned :
    (run (wholeStep (Zone.fixed 0) asciiLower)
        (Whole.start ⟨[], List.nodup_nil⟩ [("h1", sampleDoc)]) wholeRun).device.ordered.map
        OrderDoc.userId = ["u3"] ∧
      Always (wholeStep (Zone.fixed 0) asciiLower) (fun s => Owned s.device)
        (Whole.start ⟨[], List.nodup_nil⟩ [("h1", sampleDoc)]) wholeRun :=
  ⟨by decide +kernel, orders_owned_by_users (Zone.fixed 0) asciiLower ⟨[], List.nodup_nil⟩
    [("h1", sampleDoc)] wholeRun (by decide +kernel)⟩

end Nginepyuk.Device
