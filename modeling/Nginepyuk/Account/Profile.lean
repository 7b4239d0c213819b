/-
  The Profile tab of `MainPage` and the document it reads (`lib/pages/home/profile_page.dart`).

  `ProfilePage` asks `users` for the email that its `MainPage` got from the auth service and
  takes `docs[0]`. The document carries the email as it stood in the form after the account
  was created, and it is written only then, when the `MainPage` may be up already.

  `PageFound` is about the page and its own user. It follows from `ProfileInvariant`, which is
  kept by every step that meets `DocsInOrder`: a document that is written has the reported email
  and the name of the tap, and the Profile tab is opened only by a user who has one. `MainSignedIn`
  says that the user of the page is the one signed in; `UserInOrder` keeps that: nobody else
  registers or signs in below a `MainPage`, and no session ends there but by the exit icon.
  `profile_found` puts the two together. `profile_missing` has a run for each part of `DocsInOrder`
  that breaks it.
-/
import Mathlib.Data.List.Nodup
import Nginepyuk.Account.Register

namespace Nginepyuk.Account

open Lib.Trace

/-- What `MainPage` shows under its bar. -/
inductive Body where
  | homePage
  | searchPage
  | orderPage (user : String)
  | profilePage (user : String)
deriving DecidableEq, Repr

/-- `_MainPageState.body`. -/
def MainState.body (m : MainState) : Body :=
  match m.currentIndex with
  | 0 => .homePage
  | 1 => .searchPage
  | 2 => .orderPage m.user.uid
  | 3 => .profilePage m.user.email
  | _ => .homePage

/-- The documents of the stream of `ProfilePage`. -/
def profileDocs (users : List UserDoc) (user : String) : List UserDoc :=
  users.filter fun d => d.email == user

/-- A `ProfilePage` below a `MainPage` at the root finds a document, and it is the one of the
    user who is signed in: it has the name and the uid of the registration. -/
def ProfileFound (w : Registry) : Prop :=
  ∀ m user, w.app.root.mainState = some m → m.body = .profilePage user →
    ∃ a ∈ w.accounts, w.app.currentUser = some a.user ∧
      ∃ d, (profileDocs w.users user)[0]? = some d ∧
        d.uid = a.user.uid ∧ d.fullName = a.fullName

/-- A `ProfilePage` below a `MainPage` at the root finds a document, and it is the one of the
    user of that `MainPage`. -/
def PageFound (w : Registry) : Prop :=
  ∀ m user, w.app.root.mainState = some m → m.body = .profilePage user →
    ∃ a ∈ w.accounts, a.user = m.user ∧
      ∃ d, (profileDocs w.users user)[0]? = some d ∧
        d.uid = a.user.uid ∧ d.fullName = a.fullName

/-- The user of the `MainPage` is signed in. -/
def MainSignedIn (w : Registry) : Prop :=
  ∀ m, w.app.root.mainState = some m → w.app.currentUser = some m.user

/-- The condition on the documents: one that is written has the texts of the tap, with the email
    that the service reports, and the Profile tab is opened by a user who has one. -/
def DocsInOrder (w : Registry) : RegistryEvent → Prop
  | .addDetails i form (.written _) => ∀ a ∈ w.pending[i]?,
      trim form.fullName = a.fullName ∧ trim form.email = a.user.email
  | .nav (.tab value) => value = 3 →
      ∀ m ∈ w.app.topMain, ∀ a ∈ w.undocumented, a.user ≠ m.user
  | _ => True

instance (w : Registry) : (e : RegistryEvent) → Decidable (DocsInOrder w e)
  | .addDetails _ _ (.written _) => inferInstanceAs (Decidable (∀ a ∈ _, _))
  | .nav (.tab _) => inferInstanceAs (Decidable (_ → ∀ m ∈ _, ∀ a ∈ _, _))
  | .signUp _ _ | .addDetails _ _ .refused | .addDetails _ _ .noUser | .signIn _ _
  | .nav (.change _) | .nav (.deliver _) | .nav .exit | .nav .push | .nav .pop | .nav .booked
  | .nav .home => isTrue trivial

/-- The condition on the user below a `MainPage`. -/
def UserInOrder (lower : String → String) (w : Registry) : RegistryEvent → Prop
  | .signUp form uid => Creates lower w form uid → w.app.root.mainState = none
  | .signIn email password => ∀ a ∈ signInAccount lower w email password,
      ∀ m ∈ w.app.root.mainState, a.user = m.user
  | .nav (.change none) => w.app.root.mainState = none
  | _ => True

instance (lower : String → String) (w : Registry) :
    (e : RegistryEvent) → Decidable (UserInOrder lower w e)
  | .signUp _ _ => inferInstanceAs (Decidable (_ → _))
  | .signIn _ _ => inferInstanceAs (Decidable (∀ a ∈ _, ∀ m ∈ _, _))
  | .nav (.change none) => inferInstanceAs (Decidable (_ = _))
  | .addDetails _ _ _ | .nav (.change (some _)) | .nav (.tab _) | .nav (.deliver _) | .nav .exit
  | .nav .push | .nav .pop | .nav .booked | .nav .home => isTrue trivial

/-- The condition on a step. As long as every write succeeds no account is half finished, and the
    Profile tab only has to wait for the handler of its user. -/
def InOrder (lower : String → String) (w : Registry) (e : RegistryEvent) : Prop :=
  DocsInOrder w e ∧ UserInOrder lower w e

instance (lower : String → String) (w : Registry) (e : RegistryEvent) :
    Decidable (InOrder lower w e) := inferInstanceAs (Decidable (_ ∧ _))

/-- The document of an account as `signUpHandler` means it. -/
def Registration.doc (a : Registration) : UserDoc :=
  addUserDetails a.user.uid a.fullName a.user.email

/-- One account for each email; every document is an account's, and every account has its
    document or none. The user signed in has an account, and so has the user of a `MainPage`,
    with a document if the Profile tab is open. -/
structure ProfileInvariant (w : Registry) : Prop where
  emails : (w.accounts.map fun a => a.user.email).Nodup
  undocumented : ∀ a ∈ w.undocumented, a ∈ w.accounts
  docs : ∀ d ∈ w.users, ∃ a ∈ w.accounts, d = a.doc
  written : ∀ a ∈ w.accounts, a ∈ w.undocumented ∨ a.doc ∈ w.users
  current : ∀ u, w.app.currentUser = some u → ∃ a ∈ w.accounts, a.user = u
  main : ∀ m, w.app.root.mainState = some m → ∃ a ∈ w.accounts, a.user = m.user
  profile : ∀ m, w.app.root.mainState = some m → m.currentIndex = 3 →
    ∀ a ∈ w.undocumented, a.user ≠ m.user

/-! ## From the invariant to the page -/

theorem body_profilePage {m : MainState} {user : String} (h : m.body = .profilePage user) :
    m.currentIndex = 3 ∧ user = m.user.email := by
  unfold MainState.body at h
  split at h
  · exact nomatch h
  · exact nomatch h
  · exact nomatch h
  · next hi => exact ⟨hi, (Body.profilePage.inj h).symm⟩
  · exact nomatch h

theorem account_unique {w : Registry} (h : ProfileInvariant w) {a b : Registration}
    (ha : a ∈ w.accounts) (hb : b ∈ w.accounts) (he : a.user.email = b.user.email) : a = b :=
  List.inj_on_of_nodup_map h.emails ha hb he

/-- The query of an account that has its document returns nothing else. -/
theorem profileDocs_head {w : Registry} (h : ProfileInvariant w) {a : Registration}
    (ha : a ∈ w.accounts) (hdoc : a.doc ∈ w.users) :
    (profileDocs w.users a.user.email)[0]? = some a.doc := by
  have hmem : a.doc ∈ profileDocs w.users a.user.email :=
    List.mem_filter.mpr ⟨hdoc, beq_iff_eq.mpr rfl⟩
  obtain ⟨d, rest, hd⟩ := List.exists_cons_of_ne_nil (List.ne_nil_of_mem hmem)
  have hin : d ∈ profileDocs w.users a.user.email := by
    rw [hd]; exact List.mem_cons_self
  obtain ⟨hu, he⟩ := List.mem_filter.mp hin
  obtain ⟨b, hb, rfl⟩ := h.docs d hu
  rw [hd, account_unique h hb ha (beq_iff_eq.mp he)]
  rfl

theorem pageFound_of_invariant (w : Registry) (h : ProfileInvariant w) : PageFound w := by
  intro m user hm hbody
  obtain ⟨hindex, rfl⟩ := body_profilePage hbody
  obtain ⟨a, ha, hau⟩ := h.main m hm
  have hdoc : a.doc ∈ w.users := by
    rcases h.written a ha with hp | hdoc
    · exact absurd hau (h.profile m hm hindex a hp)
    · exact hdoc
  refine ⟨a, ha, hau, a.doc, ?_, rfl, rfl⟩
  rw [← hau]
  exact profileDocs_head h ha hdoc

theorem profileFound_of_page {w : Registry} (h : PageFound w) (hin : MainSignedIn w) :
    ProfileFound w := by
  intro m user hm hbody
  obtain ⟨a, ha, hau, hdoc⟩ := h m user hm hbody
  refine ⟨a, ha, ?_, hdoc⟩
  rw [hau]
  exact hin m hm

/-- `docs[0]` of an empty list. -/
theorem not_profileFound_of_empty {w : Registry} {m : MainState} {user : String}
    (hm : w.app.root.mainState = some m) (hbody : m.body = .profilePage user)
    (hempty : profileDocs w.users user = []) : ¬ ProfileFound w := by
  intro h
  obtain ⟨_, _, _, d, hd, _⟩ := h m user hm hbody
  rw [hempty] at hd
  exact nomatch hd

/-! ## One step -/

section Step

variable {lower : String → String} {w : Registry}

theorem profileInvariant_start : ProfileInvariant Registry.start where
  emails := List.nodup_nil
  undocumented := fun _ ha => absurd ha List.not_mem_nil
  docs := fun _ hd => absurd hd List.not_mem_nil
  written := fun _ ha => absurd ha List.not_mem_nil
  current := fun _ hu => by cases hu
  main := fun _ hm => by cases hm
  profile := fun _ hm => by cases hm

theorem profileInvariant_signUp {form : RegisterForm} {uid : String}
    (hnew : Creates lower w form uid) (h : ProfileInvariant w) :
    ProfileInvariant (registryStep lower w (.signUp form uid)) := by
  simp only [registryStep, if_pos hnew]
  refine ⟨?_, ?_, ?_, ?_, ?_, ?_, ?_⟩
  · rw [List.map_cons, List.nodup_cons]
    refine ⟨?_, h.emails⟩
    intro hmem
    obtain ⟨a, ha, he⟩ := List.mem_map.mp hmem
    exact (hnew.2 a ha).1 he
  · intro a ha
    rcases List.mem_cons.mp ha with rfl | ha
    · exact List.mem_cons_self
    · exact List.mem_cons_of_mem _ (h.undocumented a ha)
  · intro d hd
    obtain ⟨a, ha, hda⟩ := h.docs d hd
    exact ⟨a, List.mem_cons_of_mem _ ha, hda⟩
  · intro a ha
    rcases List.mem_cons.mp ha with rfl | ha
    · exact Or.inl List.mem_cons_self
    · exact (h.written a ha).imp_left (List.mem_cons_of_mem _)
  · intro u hu
    exact ⟨_, List.mem_cons_self, Option.some.inj hu⟩
  · intro m hm
    obtain ⟨a, ha, hau⟩ := h.main m hm
    exact ⟨a, List.mem_cons_of_mem _ ha, hau⟩
  · intro m hm hindex a ha
    rcases List.mem_cons.mp ha with rfl | ha
    · -- The email is new, and the user of the `MainPage` has an account already.
      obtain ⟨b, hb, hbu⟩ := h.main m hm
      rw [← hbu]
      intro heq
      exact (hnew.2 b hb).1 (congrArg User.email heq).symm
    · exact h.profile m hm hindex a ha

theorem profileInvariant_written {i pos : Nat} {form : RegisterForm} {a : Registration}
    (hi : w.pending[i]? = some a)
    (hc : trim form.fullName = a.fullName ∧ trim form.email = a.user.email)
    (h : ProfileInvariant w) :
    ProfileInvariant (registryStep lower w (.addDetails i form (.written pos))) := by
  have hdoc : addUserDetails a.user.uid (trim form.fullName) (trim form.email) = a.doc := by
    rw [hc.1, hc.2]
    rfl
  have hperm := undocumented_perm hi
  have hopen : ∀ b ∈ w.pending.eraseIdx i ++ w.halfFinished, b ∈ w.undocumented :=
    fun b hb => hperm.mem_iff.mpr (List.mem_cons_of_mem _ hb)
  have ha : a ∈ w.accounts :=
    h.undocumented a (hperm.mem_iff.mpr List.mem_cons_self)
  simp only [registryStep, hi, Registry.goOn, hdoc]
  refine ⟨h.emails, ?_, ?_, ?_, h.current, h.main, ?_⟩
  · exact fun b hb => h.undocumented b (hopen b hb)
  · intro d hd
    rcases mem_addDoc.mp hd with rfl | hd
    · exact ⟨a, ha, rfl⟩
    · exact h.docs d hd
  · intro b hb
    rcases h.written b hb with hp | hd
    · rcases List.mem_cons.mp (hperm.mem_iff.mp hp) with rfl | hp
      · exact Or.inr (mem_addDoc.mpr (Or.inl rfl))
      · exact Or.inl hp
    · exact Or.inr (mem_addDoc.mpr (Or.inr hd))
  · exact fun m hm hindex b hb => h.profile m hm hindex b (hopen b hb)

/-- An account that is left without a document was without one before. -/
theorem profileInvariant_halfFinished {i : Nat} {a : Registration} (hi : w.pending[i]? = some a)
    (h : ProfileInvariant w) :
    ProfileInvariant { w with pending := w.pending.eraseIdx i
                              halfFinished := a :: w.halfFinished } := by
  have hsame : ∀ b, b ∈ w.pending.eraseIdx i ++ a :: w.halfFinished ↔ b ∈ w.undocumented :=
    fun b => (undocumented_halfFinished hi).mem_iff
  refine ⟨h.emails, ?_, h.docs, ?_, h.current, h.main, ?_⟩
  · exact fun b hb => h.undocumented b ((hsame b).mp hb)
  · exact fun b hb => (h.written b hb).imp_left (hsame b).mpr
  · exact fun m hm hindex b hb => h.profile m hm hindex b ((hsame b).mp hb)

theorem profileInvariant_addDetails {i : Nat} {form : RegisterForm} {details : Details}
    {a : Registration} (hi : w.pending[i]? = some a)
    (hc : DocsInOrder w (.addDetails i form details)) (h : ProfileInvariant w) :
    ProfileInvariant (registryStep lower w (.addDetails i form details)) := by
  cases details with
  | written pos => exact profileInvariant_written hi (hc a hi) h
  | refused | noUser =>
      simp only [registryStep, hi, Registry.goOn]
      exact profileInvariant_halfFinished hi h

theorem profileInvariant_signIn {email password : String} (h : ProfileInvariant w) :
    ProfileInvariant (registryStep lower w (.signIn email password)) := by
  simp only [registryStep]
  split
  · next a ha =>
      refine ⟨h.emails, h.undocumented, h.docs, h.written, ?_, h.main, h.profile⟩
      intro u hu
      exact ⟨a, List.mem_of_find?_eq_some ha, Option.some.inj hu⟩
  · exact h

theorem profileInvariant_nav {e : AppEvent} (he : ∀ u, e ≠ .change (some u))
    (hc : DocsInOrder w (.nav e)) (h : ProfileInvariant w) :
    ProfileInvariant { w with app := appStep w.app e } := by
  obtain ⟨hcur, hmain⟩ := appStep_from w.app e he
  refine ⟨h.emails, h.undocumented, h.docs, h.written, ?_, ?_, ?_⟩
  · intro u hu
    rcases hcur with hnone | hsame
    · cases hnone.symm.trans hu
    · exact h.current u (hsame.symm.trans hu)
  · intro m hm
    rcases hmain m hm with ⟨m₀, hm₀, huser, _⟩ | ⟨hnew, _⟩
    · rw [huser]
      exact h.main m₀ hm₀
    · exact h.current m.user hnew
  · intro m hm hindex a ha
    rcases hmain m hm with ⟨m₀, hm₀, huser, hkept | ⟨rfl, htop⟩⟩ | ⟨_, hzero⟩
    · rw [huser]
      exact h.profile m₀ hm₀ (hkept ▸ hindex) a ha
    · -- The tab opened just now.
      rw [huser]
      exact hc hindex m₀ htop a ha
    · cases hindex.symm.trans hzero

theorem profileInvariant_step (lower : String → String) (w : Registry) (e : RegistryEvent)
    (hc : DocsInOrder w e) (h : ProfileInvariant w) :
    ProfileInvariant (registryStep lower w e) := by
  cases e with
  | signUp form uid =>
      by_cases hnew : Creates lower w form uid
      · exact profileInvariant_signUp hnew h
      · rw [registryStep, if_neg hnew]
        exact h
  | addDetails i form details =>
      cases hi : w.pending[i]? with
      | some a => exact profileInvariant_addDetails hi hc h
      | none =>
          simp only [registryStep, hi]
          exact h
  | signIn email password => exact profileInvariant_signIn h
  | nav e =>
      rcases registryStep_nav lower w e with hstay | ⟨he, hstep⟩
      · rw [hstay]
        exact h
      · rw [hstep]
        exact profileInvariant_nav he hc h

theorem mainSignedIn_step (w : Registry) (e : RegistryEvent) (hc : UserInOrder lower w e)
    (h : MainSignedIn w) : MainSignedIn (registryStep lower w e) := by
  cases e with
  | signUp form uid =>
      by_cases hnew : Creates lower w form uid
      · rw [registryStep, if_pos hnew]
        intro m hm
        cases (hc hnew).symm.trans hm
      · rw [registryStep, if_neg hnew]
        exact h
  | addDetails i form details =>
      cases hi : w.pending[i]? with
      | some a =>
          simp only [registryStep, hi]
          cases details <;> exact h
      | none =>
          simp only [registryStep, hi]
          exact h
  | signIn email password =>
      simp only [registryStep]
      split
      · next a ha =>
          intro m hm
          rw [← hc a ha m hm]
          rfl
      · exact h
  | nav e =>
      rcases registryStep_nav lower w e with hstay | ⟨he, hstep⟩
      · rw [hstay]
        exact h
      · rw [hstep]
        by_cases hend : e = .change none
        · subst hend
          intro m hm
          cases Eq.trans (Eq.symm hc) hm
        · have hne : ∀ u, e ≠ .change u := by
            intro u
            cases u with
            | none => exact hend
            | some u => exact he u
          intro m hm
          rcases appStep_main w.app e hne with ⟨_, hroot⟩ | ⟨hcur, hroot⟩
          · cases hroot.symm.trans hm
          · refine hcur.trans ?_
            rcases hroot m hm with ⟨m₀, hm₀, huser, _⟩ | ⟨hnew, _⟩
            · rw [huser]
              exact h m₀ hm₀
            · exact hnew

end Step

/-- **The Profile tab finds its user.** In every run whose steps meet `InOrder`, a
    `ProfilePage` finds a document at every moment, and it has the name and the uid with which
    the user who is signed in registered. -/
theorem profile_found (lower : String → String) (es : List RegistryEvent)
    (hall : AllSteps (registryStep lower) (InOrder lower) Registry.start es) :
    Always (registryStep lower) ProfileFound Registry.start es :=
  always_of_inv (I := fun w => ProfileInvariant w ∧ MainSignedIn w)
    (fun w e hc h => ⟨profileInvariant_step lower w e hc.1 h.1, mainSignedIn_step w e hc.2 h.2⟩)
    (fun w h => profileFound_of_page (pageFound_of_invariant w h.1) h.2) _ es hall
    ⟨profileInvariant_start, fun _ hm => by cases hm⟩

/-! ## Concrete runs -/

/-- Lower case of the ASCII letters, letter by letter. -/
def asciiLower (s : String) : String := String.ofList (s.toList.map Char.toLower)

/-- A form filled in with the given email. -/
def sampleForm (email : String) : RegisterForm := ⟨" Guest One ", email, "secret", "secret"⟩

/-- Registered, the document written, then on the Profile tab, out, and in again with the
    email in capital letters. -/
theorem sample_profile_found :
    Always (registryStep asciiLower) ProfileFound Registry.start
      [.nav (.deliver 1), .signUp (sampleForm "guest@mail.com") "u", .nav (.deliver 1),
        .addDetails 0 (sampleForm "guest@mail.com ") (.written 0), .nav (.tab 3), .nav .exit,
        .nav (.deliver 1), .signIn "GUEST@mail.com" "secret", .nav (.deliver 1), .nav (.tab 3)] := by
  apply profile_found
  decide +kernel

/-- The email typed with a capital letter: the document is there and the query misses it. The
    Profile tab opened between the auth event and the write: there is no document yet. -/
theorem profile_missing :
    ¬ ProfileFound (run (registryStep asciiLower) Registry.start
        [.nav (.deliver 1), .signUp (sampleForm "Guest@mail.com") "u",
          .addDetails 0 (sampleForm "Guest@mail.com") (.written 0), .nav (.deliver 1), .nav (.tab 3)]) ∧
    ¬ Always (registryStep asciiLower) ProfileFound Registry.start
        [.nav (.deliver 1), .signUp (sampleForm "guest@mail.com") "u", .nav (.deliver 1),
          .nav (.tab 3), .addDetails 0 (sampleForm "guest@mail.com") (.written 0)] := by
  constructor
  · exact not_profileFound_of_empty (m := ⟨⟨"u", "guest@mail.com"⟩, 3⟩) (by decide +kernel) rfl
      (by decide +kernel)
  · intro h
    exact not_profileFound_of_empty (m := ⟨⟨"u", "guest@mail.com"⟩, 3⟩) (by decide +kernel) rfl
      (by decide +kernel) (h [.nav (.deliver 1), .signUp (sampleForm "guest@mail.com") "u",
        .nav (.deliver 1), .nav (.tab 3)] (by decide))

end Nginepyuk.Account
