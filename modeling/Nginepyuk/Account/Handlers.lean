/-
  What the handlers of the auth pages read when they go on.

  `signUpHandler` has the account created from the texts at the tap and writes the document from
  the texts that its page has later. `documents_match_iff`: the documents have the names and, up
  to case, the emails of the taps exactly in the runs in which each handler that writes one finds
  them again; it is enough that nobody edits the two fields of a page whose handler waits.

  `profile_found_by_users` states the condition of `Account.Profile` in terms of what the user
  does: an email as the service spells it, no edits meanwhile, and the Profile tab only when the
  document is written. With one call at a time (`OneCall`) the page is also that of the user who
  is signed in, if anybody is.
-/
import Mathlib.Data.List.Nodup
import Nginepyuk.Account.AuthPages
import Nginepyuk.Account.Documents
import Nginepyuk.Account.Profile

namespace Nginepyuk.Account

open Lib.Trace

/-- The page whose `signUpHandler` made the call. -/
def Request.signUpPage : Request → Option Nat
  | .signUp page _ => some page
  | .signIn _ _ => none

/-- The page whose `signUpHandler` has its account. -/
def Answer.createdPage : Answer → Option Nat
  | .created page _ => some page
  | _ => none

/-- A `signUpHandler` of the page waits. -/
def AuthPages.Waits (w : AuthPages) (page : Nat) : Prop :=
  (∃ r ∈ w.requests, r.signUpPage = some page) ∨ ∃ a ∈ w.answers, a.createdPage = some page

instance (w : AuthPages) (page : Nat) : Decidable (w.Waits page) :=
  inferInstanceAs (Decidable (_ ∨ _))

/-- The page has the name and the email of `form` in its fields. -/
def AuthPages.Shows (w : AuthPages) (page : Nat) (form : RegisterForm) : Prop :=
  page < w.pages.length ∧ (w.registerForm page).fullName = form.fullName ∧
    (w.registerForm page).email = form.email

/-- Nobody edits the name or the email of a page whose handler waits. -/
def NotEdited (w : AuthPages) : AuthEvent → Prop
  | .edit field _ => ∀ p ∈ w.current, field = .fullName ∨ field = .email → ¬ w.Waits p.1
  | _ => True

instance (w : AuthPages) : (e : AuthEvent) → Decidable (NotEdited w e)
  | .edit _ _ => inferInstanceAs (Decidable (∀ p ∈ _, _))
  | .toggleScreens | .tap | .served _ _ | .resume _ _ | .nav _ => isTrue trivial

/-- Every waiting handler was started with texts with `P`, and its page still shows them. -/
structure FormsKept (P : RegisterForm → Prop) (lower : String → String) (w : AuthPages) : Prop where
  requests : ∀ page form, Request.signUp page form ∈ w.requests → P form ∧ w.Shows page form
  answers : ∀ page a, Answer.created page a ∈ w.answers →
    ∃ form uid, a = newAccount lower form uid ∧ P form ∧ w.Shows page form

/-- The page on the screen is an `AuthPage` with nothing over it. -/
theorem current_eq_some {w : AuthPages} {p : Nat × AuthForm} (h : w.current = some p) :
    w.app.Bare ∧ w.shown = some p := by
  unfold AuthPages.current at h
  split at h
  · cases h
  · next hcov =>
      refine ⟨⟨Bool.eq_false_iff.mpr hcov, ?_⟩, h⟩
      unfold AuthPages.shown at h
      split at h
      · next hroot => exact Or.inl hroot
      · cases h

/-! ## The texts of a page -/

section Pages

variable {w w' : AuthPages} {page : Nat} {form : RegisterForm}

theorem shows_of_pages (hpages : w'.pages = w.pages) (h : w.Shows page form) :
    w'.Shows page form := by
  unfold AuthPages.Shows AuthPages.registerForm at h ⊢
  rw [hpages]
  exact h

/-- Later pages do not change a page. -/
theorem shows_append {l : List AuthForm} (hpages : w'.pages = w.pages ++ l)
    (h : w.Shows page form) : w'.Shows page form := by
  unfold AuthPages.Shows AuthPages.registerForm at h ⊢
  rw [hpages, List.getElem?_append_left h.1, List.length_append]
  exact ⟨Nat.lt_add_right _ h.1, h.2⟩

theorem shows_edit {k : Nat} {field : AuthField} {text : String}
    (hpages : w'.pages = w.pages.modify k (AuthForm.edit field text))
    (hk : page = k → field ≠ .fullName ∧ field ≠ .email) (h : w.Shows page form) :
    w'.Shows page form := by
  unfold AuthPages.Shows AuthPages.registerForm at h ⊢
  rw [hpages, List.length_modify]
  refine ⟨h.1, ?_⟩
  by_cases hpage : page = k
  · obtain ⟨hname, hemail⟩ := hk hpage
    have htexts := h.2
    rw [hpage, List.getElem?_modify_eq]
    rw [hpage] at htexts
    cases hget : w.pages[k]? with
    | none =>
        rw [hget] at htexts
        exact htexts
    | some old =>
        rw [hget] at htexts
        cases old with
        | login form' => cases field <;> exact htexts
        | register form' =>
            cases field with
            | fullName => exact absurd rfl hname
            | email => exact absurd rfl hemail
            | password => exact htexts
            | confirmPassword => exact htexts
  · rw [List.getElem?_modify_ne _ _ (Ne.symm hpage)]
    exact h.2

/-- The page on the screen shows what is in its fields. -/
theorem shows_current (h : w.current = some (page, .register form)) : w.Shows page form := by
  obtain ⟨_, h⟩ := current_eq_some h
  unfold AuthPages.shown at h
  split at h
  · obtain ⟨last, hlast, heq⟩ := Option.map_eq_some_iff.mp h
    obtain ⟨rfl, rfl⟩ := Prod.mk.inj heq
    rw [List.getLast?_eq_getElem?] at hlast
    refine ⟨(List.getElem?_eq_some_iff.mp hlast).1, ?_⟩
    rw [AuthPages.registerForm, hlast]
    exact ⟨rfl, rfl⟩
  · cases h

end Pages

/-! ## One step -/

section Step

variable {lower : String → String} {w : AuthPages}

/-- The answer that a step adds. -/
theorem mem_answers_step (lower : String → String) (w : AuthPages) (e : AuthEvent) {page : Nat}
    {a : Registration} (h : Answer.created page a ∈ (authStep lower w e).answers) :
    Answer.created page a ∈ w.answers ∨
      ∃ form uid, Request.signUp page form ∈ w.requests ∧ a = newAccount lower form uid := by
  have hm := authStep_move lower w e
  generalize authStep lower w e = w' at hm h
  cases hm with
  | refused k request failure hk =>
      rcases List.mem_cons.mp h with hnew | hold
      · cases hnew
      · exact Or.inl hold
  | created k page' form uid hk hnew =>
      rcases List.mem_cons.mp h with hnew | hold
      · obtain ⟨rfl, rfl⟩ := Answer.created.inj hnew
        exact Or.inr ⟨form, uid, List.mem_of_getElem? hk, rfl⟩
      · exact Or.inl hold
  | signedIn k page' form uid a' hk ha =>
      rcases List.mem_cons.mp h with hnew | hold
      · cases hnew
      · exact Or.inl hold
  | added | lost | ended => exact Or.inl (List.mem_of_mem_eraseIdx h)
  | _ => exact Or.inl h

/-- A page shows what it showed, unless it is the one that is edited. -/
theorem shows_step {e : AuthEvent} (hedit : NotEdited w e) {page : Nat} {form : RegisterForm}
    (hwaits : w.Waits page) (h : w.Shows page form) : (authStep lower w e).Shows page form := by
  have hm := authStep_move lower w e
  generalize authStep lower w e = w' at hm
  cases hm with
  | toggled page' form' hcur => exact shows_append rfl h
  | edited field text k form' hcur =>
      refine shows_edit rfl ?_ h
      rintro rfl
      have hno := hedit (page, form') hcur
      exact ⟨fun hf => hno (Or.inl hf) hwaits, fun hf => hno (Or.inr hf) hwaits⟩
  | nav e he =>
      by_cases hnew : (appStep w.app e).root = .splash .auth ∧ w.app.root ≠ .splash .auth
      · exact shows_append (if_pos hnew) h
      · exact shows_of_pages (if_neg hnew) h
  | _ => exact shows_of_pages rfl h

theorem formsKept_step {P : RegisterForm → Prop} {e : AuthEvent} (hedit : NotEdited w e)
    (htap : ∀ page form, e = .tap → w.current = some (page, .register form) → P form)
    (h : FormsKept P lower w) : FormsKept P lower (authStep lower w e) := by
  constructor
  · intro page form hmem
    rcases mem_requests_step lower w e hmem with hold | ⟨page', form', rfl, hcur, hnew⟩
    · obtain ⟨hp, hshows⟩ := h.requests page form hold
      exact ⟨hp, shows_step hedit (Or.inl ⟨_, hold, rfl⟩) hshows⟩
    · obtain ⟨rfl, rfl, _⟩ := onPressed_confirmed hnew
      have hshows := shows_current hcur
      refine ⟨htap page form rfl hcur, ?_⟩
      simp only [authStep, hcur]
      exact shows_of_pages rfl hshows
  · intro page a hmem
    rcases mem_answers_step lower w e hmem with hold | ⟨form, uid, hreq, rfl⟩
    · obtain ⟨form, uid, heq, hp, hshows⟩ := h.answers page a hold
      exact ⟨form, uid, heq, hp, shows_step hedit (Or.inr ⟨_, hold, rfl⟩) hshows⟩
    · obtain ⟨hp, hshows⟩ := h.requests page form hreq
      exact ⟨form, uid, rfl, hp, shows_step hedit (Or.inl ⟨_, hreq, rfl⟩) hshows⟩

end Step

theorem formsKept_start (P : RegisterForm → Prop) (lower : String → String) :
    FormsKept P lower AuthPages.start :=
  ⟨fun _ _ h => absurd h List.not_mem_nil, fun _ _ h => absurd h List.not_mem_nil⟩

/-! ## The documents -/

/-- Each document has the name and, up to case, the email that its account was asked for with. -/
def DocumentsMatch (lower : String → String) (w : AuthPages) : Prop :=
  ∀ d ∈ w.users, ∀ a ∈ w.accounts, a.user.uid = d.uid →
    d.fullName = a.fullName ∧ lower d.email = a.user.email

/-- A handler that writes a document finds the texts of its tap again. -/
def ReadsTapTexts (lower : String → String) (w : AuthPages) : AuthEvent → Prop
  | .resume k (.written _) => ∀ page a, w.answers[k]? = some (.created page a) →
      trim (w.registerForm page).fullName = a.fullName ∧
        lower (trim (w.registerForm page).email) = a.user.email
  | _ => True

/-- The invariant of the registry, and every answer is of an account that is there. -/
structure AccountsInv (w : AuthPages) : Prop where
  registry : RegistryInv w.registry
  confirmed : Confirmed w
  answers : ∀ page a, Answer.created page a ∈ w.answers → a ∈ w.accounts

section Documents

variable {lower : String → String} {w : AuthPages}

theorem accounts_step (lower : String → String) (w : AuthPages) (e : AuthEvent) {a : Registration}
    (ha : a ∈ w.accounts) : a ∈ (authStep lower w e).accounts := by
  have hm := authStep_move lower w e
  generalize authStep lower w e = w' at hm
  cases hm with
  | created => exact List.mem_cons_of_mem _ ha
  | _ => exact ha

theorem accountsInv_step (lower : String → String) (w : AuthPages) (e : AuthEvent)
    (h : AccountsInv w) : AccountsInv (authStep lower w e) := by
  refine ⟨?_, confirmed_step lower w e h.confirmed, ?_⟩
  · rw [follows_registry lower w e h.confirmed]
    exact inv_run_all (registryInv_step lower) _ _ h.registry
  · intro page a hmem
    have hm := authStep_move lower w e
    have hkept := accounts_step lower w e (a := a)
    generalize authStep lower w e = w' at hm hmem hkept
    cases hm with
    | created k page' form uid hk hnew =>
        rcases List.mem_cons.mp hmem with heq | hold
        · obtain ⟨_, rfl⟩ := Answer.created.inj heq
          exact List.mem_cons_self
        · exact hkept (h.answers page a hold)
    | refused | signedIn =>
        rcases List.mem_cons.mp hmem with heq | hold
        · cases heq
        · exact hkept (h.answers page a hold)
    | added | lost | ended => exact hkept (h.answers page a (List.mem_of_mem_eraseIdx hmem))
    | _ => exact hkept (h.answers page a hmem)

/-- The account of a document is the one with its uid. -/
theorem account_of_uid (h : AccountsInv w) {a b : Registration} (ha : a ∈ w.accounts)
    (hb : b ∈ w.accounts) (hu : a.user.uid = b.user.uid) : a = b :=
  List.inj_on_of_nodup_map h.registry.uids ha hb hu

/-- The documents are of accounts that are there. -/
theorem uid_of_document (h : AccountsInv w) {d : UserDoc} (hd : d ∈ w.users) :
    ∃ a ∈ w.accounts, a.user.uid = d.uid := by
  have hserved : d.uid ∈ w.registry.served := List.mem_append_right _ (List.mem_map_of_mem hd)
  exact List.mem_map.mp (h.registry.served.mem_iff.mp hserved)

theorem readsTapTexts_of {e : AuthEvent}
    (h : ∀ k pos page a, e = .resume k (.written pos) → w.answers[k]? = some (.created page a) →
      trim (w.registerForm page).fullName = a.fullName ∧
        lower (trim (w.registerForm page).email) = a.user.email) :
    ReadsTapTexts lower w e := by
  cases e with
  | resume k details =>
      cases details with
      | written pos => exact fun page a hk => h k pos page a rfl hk
      | refused | noUser => trivial
  | _ => trivial

theorem documentsMatch_step_iff (w : AuthPages) (e : AuthEvent) (h : AccountsInv w)
    (hd : DocumentsMatch lower w) :
    DocumentsMatch lower (authStep lower w e) ↔ ReadsTapTexts lower w e := by
  have hm := authStep_move lower w e
  generalize authStep lower w e = w' at hm
  cases hm with
  | added k pos page a hk =>
      have ha := h.answers page a (List.mem_of_getElem? hk)
      constructor
      · intro hnew page' a' hk'
        obtain ⟨rfl, rfl⟩ := Answer.created.inj (Option.some.inj (hk.symm.trans hk'))
        exact hnew _ (mem_addDoc.mpr (Or.inl rfl)) a ha rfl
      · intro hreads d hmem b hb hu
        rcases mem_addDoc.mp hmem with rfl | hold
        · obtain rfl := account_of_uid h ha hb hu.symm
          exact hreads page a hk
        · exact hd d hold b hb hu
  | lost k page details a uncaught hk hlost =>
      refine iff_of_true hd (readsTapTexts_of ?_)
      intro k' pos page' a' he
      exact absurd (AuthEvent.resume.inj he).2 (hlost pos)
  | ended k details answer messages uncaught hk hno =>
      refine iff_of_true hd (readsTapTexts_of ?_)
      intro k' pos page a he hk'
      obtain ⟨rfl, _⟩ := AuthEvent.resume.inj he
      obtain rfl := Option.some.inj (hk.symm.trans hk')
      cases hno
  | created k page form uid hk hnew =>
      refine iff_of_true ?_ trivial
      intro d hmem a ha hu
      rcases List.mem_cons.mp ha with rfl | hold
      · -- The uid is new, so no document has it.
        obtain ⟨b, hb, hbu⟩ := uid_of_document h hmem
        exact absurd (hbu.trans hu.symm) (hnew b hb).2
      · exact hd d hmem a hold hu
  | stay e hno =>
      refine iff_of_true hd (readsTapTexts_of ?_)
      intro k pos page a he hk
      cases (hno k _ he).symm.trans hk
  | _ => exact iff_of_true hd trivial

/-- Texts that are kept are found again. -/
theorem readsTapTexts_of_kept {P : RegisterForm → Prop} (h : FormsKept P lower w) (e : AuthEvent) :
    ReadsTapTexts lower w e := by
  refine readsTapTexts_of ?_
  intro k pos page a _ hk
  obtain ⟨form, uid, rfl, _, _, hname, hemail⟩ := h.answers page a (List.mem_of_getElem? hk)
  rw [hname, hemail]
  exact ⟨rfl, rfl⟩

end Documents

theorem accountsInv_start : AccountsInv AuthPages.start :=
  ⟨registryInv_start, confirmed_start, fun _ _ h => absurd h List.not_mem_nil⟩

/-- **The documents match.** In every state of a run of the auth pages each document has the name
    and, up to case, the email that its account was asked for with, if and only if each handler
    of the run that writes a document finds them in the fields again. In particular this holds in
    every run where nobody edits these two fields of a page whose handler waits, however many
    handlers wait and whatever pages are shown meanwhile. -/
theorem documents_match_iff (lower : String → String) (es : List AuthEvent) :
    (Always (authStep lower) (DocumentsMatch lower) AuthPages.start es ↔
      AllSteps (authStep lower) (ReadsTapTexts lower) AuthPages.start es) ∧
    (AllSteps (authStep lower) NotEdited AuthPages.start es →
      Always (authStep lower) (DocumentsMatch lower) AuthPages.start es) := by
  have hnone : DocumentsMatch lower AuthPages.start := fun _ h => absurd h List.not_mem_nil
  constructor
  · exact always_iff_allSteps (accountsInv_step lower) (documentsMatch_step_iff) _ es
      accountsInv_start hnone
  · intro hall
    refine always_of_inv
      (I := fun w => FormsKept (fun _ => True) lower w ∧ AccountsInv w ∧ DocumentsMatch lower w)
      ?_ (fun w h => h.2.2) _ es hall ⟨formsKept_start _ lower, accountsInv_start, hnone⟩
    intro w e hedit h
    obtain ⟨hkept, hinv, hmatch⟩ := h
    have hreads := readsTapTexts_of_kept hkept e
    exact ⟨formsKept_step hedit (fun _ _ _ _ => trivial) hkept, accountsInv_step lower w e hinv,
      (documentsMatch_step_iff w e hinv hmatch).mpr hreads⟩

/-! ## One call at a time -/

/-- A button is tapped only with no call waiting and nobody signed in. -/
def OneAtATime (w : AuthPages) : AuthEvent → Prop
  | .tap => w.requests = [] ∧ w.app.currentUser = none
  | _ => True

instance (w : AuthPages) : (e : AuthEvent) → Decidable (OneAtATime w e)
  | .tap => inferInstanceAs (Decidable (_ ∧ _))
  | .toggleScreens | .edit _ _ | .served _ _ | .resume _ _ | .nav _ => isTrue trivial

/-- At most one call waits, and as long as it does nobody is signed in and the stack is bare. -/
def OneCall (w : AuthPages) : Prop :=
  w.requests.length ≤ 1 ∧ (w.requests ≠ [] → w.app.currentUser = none ∧ w.app.Bare)

/-- The user of the `MainPage` is the one who is signed in, if anybody is. -/
def MainOfUser (a : App) : Prop :=
  ∀ m, a.root.mainState = some m → a.currentUser = none ∨ a.currentUser = some m.user

section Alone

variable {lower : String → String} {w : AuthPages}

theorem oneCall_start : OneCall AuthPages.start :=
  ⟨Nat.zero_le 1, fun hne => absurd rfl hne⟩

/-- The only call is served. -/
theorem oneCall_served {w' : AuthPages} {k : Nat} {request : Request}
    (hk : w.requests[k]? = some request) (hreq : w'.requests = w.requests.eraseIdx k)
    (h : OneCall w) : OneCall w' := by
  have hlt : k < w.requests.length := (List.getElem?_eq_some_iff.mp hk).1
  have hnil : w'.requests = [] := by
    rw [hreq, ← List.length_eq_zero_iff, List.length_eraseIdx_of_lt hlt]
    have hone := h.1
    omega
  rw [OneCall, hnil]
  exact ⟨Nat.zero_le 1, fun hne => absurd rfl hne⟩

theorem oneCall_step (lower : String → String) (w : AuthPages) (e : AuthEvent)
    (hc : OneAtATime w e) (h : OneCall w) : OneCall (authStep lower w e) := by
  have hm := authStep_move lower w e
  generalize authStep lower w e = w' at hm
  cases hm with
  | tapped page form hcur =>
      obtain ⟨hnil, huser⟩ := hc
      refine ⟨?_, fun _ => ⟨huser, (current_eq_some hcur).1⟩⟩
      show (w.requests ++ form.onPressed page).length ≤ 1
      rw [hnil, List.nil_append]
      cases form with
      | login form => exact Nat.le_refl 1
      | register form =>
          rw [AuthForm.onPressed]
          split
          · exact Nat.le_refl 1
          · exact Nat.zero_le 1
  | refused k request failure hk => exact oneCall_served hk rfl h
  | created k page form uid hk hnew => exact oneCall_served hk rfl h
  | signedIn k page form uid a hk ha => exact oneCall_served hk rfl h
  | nav e he =>
      refine ⟨h.1, fun hne => ?_⟩
      obtain ⟨hcur, hbare⟩ := h.2 hne
      refine ⟨?_, bare_step he hbare hcur⟩
      rcases (appStep_from w.app e he).1 with hnone | hsame
      · exact hnone
      · exact hsame.trans hcur
  | _ => exact h

/-- A sign-in takes place over a bare stack, and nothing else changes the user to another one. -/
theorem mainOfUser_step (lower : String → String) (w : AuthPages) (e : AuthEvent)
    (hone : OneCall w) (h : MainOfUser w.app) : MainOfUser (authStep lower w e).app := by
  have hm := authStep_move lower w e
  generalize authStep lower w e = w' at hm
  have hwaits : ∀ {k : Nat} {request : Request}, w.requests[k]? = some request →
      w.app.root.mainState = none :=
    fun hk => bare_mainState (hone.2 (List.ne_nil_of_mem (List.mem_of_getElem? hk))).2
  cases hm with
  | created k page form uid hk hnew =>
      intro m hm
      cases (hwaits hk).symm.trans hm
  | signedIn k page form uid a hk ha =>
      intro m hm
      cases (hwaits hk).symm.trans hm
  | nav e he =>
      obtain ⟨hcur, hmain⟩ := appStep_from w.app e he
      intro m hm
      rcases hcur with hnone | hsame
      · exact Or.inl hnone
      · show (appStep w.app e).currentUser = none ∨ (appStep w.app e).currentUser = some m.user
        rw [hsame]
        rcases hmain m hm with ⟨m₀, hm₀, huser, _⟩ | ⟨hnew, _⟩
        · rw [huser]
          exact h m₀ hm₀
        · exact Or.inr hnew
  | _ => exact h

end Alone

/-! ## The Profile tab -/

/-- The email is typed as the service spells it. -/
def AuthForm.Spelled (lower : String → String) : AuthForm → Prop
  | .login _ => True
  | .register form => lower (trim form.email) = trim form.email

instance (lower : String → String) : (form : AuthForm) → Decidable (form.Spelled lower)
  | .login _ => isTrue trivial
  | .register _ => inferInstanceAs (Decidable (_ = _))

/-- What the user takes care of: an email as the service spells it; no edits of what a waiting
    handler reads; and the Profile tab only when the own document is written. -/
def Careful (lower : String → String) (w : AuthPages) : AuthEvent → Prop
  | .tap => ∀ p ∈ w.current, p.2.Spelled lower
  | .edit field text => NotEdited w (.edit field text)
  | .nav (.tab value) => DocsInOrder w.registry (.nav (.tab value))
  | _ => True

instance (lower : String → String) (w : AuthPages) :
    (e : AuthEvent) → Decidable (Careful lower w e)
  | .tap => inferInstanceAs (Decidable (∀ p ∈ _, _))
  | .edit field text => inferInstanceAs (Decidable (NotEdited w (.edit field text)))
  | .nav (.tab value) => inferInstanceAs (Decidable (DocsInOrder w.registry (.nav (.tab value))))
  | .toggleScreens | .served _ _ | .resume _ _ | .nav (.change _) | .nav (.deliver _) | .nav .exit
  | .nav .push | .nav .pop | .nav .booked | .nav .home => isTrue trivial

structure CarefulInv (lower : String → String) (w : AuthPages) : Prop where
  profile : ProfileInvariant w.registry
  confirmed : Confirmed w
  kept : FormsKept (fun form => lower (trim form.email) = trim form.email) lower w

section Careful

variable {lower : String → String} {w : AuthPages}

theorem notEdited_of_careful {e : AuthEvent} (hc : Careful lower w e) : NotEdited w e := by
  cases e with
  | edit field text => exact hc
  | _ => trivial

/-- Care in the auth pages is order in the registry. -/
theorem docsInOrder_of_careful {e : AuthEvent} (hc : Careful lower w e)
    (h : CarefulInv lower w) :
    AllSteps (registryStep lower) DocsInOrder w.registry (w.registryEvents e) := by
  cases e with
  | toggleScreens | edit | tap => trivial
  | served k outcome =>
      cases outcome with
      | failed failure => trivial
      | done uid =>
          simp only [AuthPages.registryEvents]
          split
          · exact ⟨trivial, trivial⟩
          · exact ⟨trivial, trivial⟩
          · trivial
  | resume k details =>
      simp only [AuthPages.registryEvents]
      split
      · next page a hk =>
          refine ⟨?_, trivial⟩
          cases details with
          | written pos =>
              intro b hb
              have hget : w.registry.pending[((w.answers.take k).filterMap
                Answer.account?).length]? = some a :=
                (filterMap_eraseIdx_some (f := Answer.account?) hk rfl).1
              obtain rfl := Option.some.inj (hget.symm.trans hb)
              obtain ⟨form, uid, rfl, hspelled, _, hname, hemail⟩ :=
                h.kept.answers page a (List.mem_of_getElem? hk)
              rw [hname, hemail]
              exact ⟨rfl, hspelled.symm⟩
          | refused | noUser => trivial
      · trivial
  | nav e =>
      refine ⟨?_, trivial⟩
      cases e with
      | tab value => exact hc
      | _ => trivial

theorem carefulInv_step (w : AuthPages) (e : AuthEvent) (hc : Careful lower w e)
    (h : CarefulInv lower w) : CarefulInv lower (authStep lower w e) := by
  refine ⟨?_, confirmed_step lower w e h.confirmed, ?_⟩
  · rw [follows_registry lower w e h.confirmed]
    exact inv_run (profileInvariant_step lower) _ _ (docsInOrder_of_careful hc h) h.profile
  · refine formsKept_step (notEdited_of_careful hc) ?_ h.kept
    rintro page form rfl hcur
    exact hc _ hcur

end Careful

/-- Refused once, registered without a document, and again with another email, the handler gone
    on after the auth event; then on to the Profile tab, where the session is ended. -/
def carefulRun : List AuthEvent :=
  [.nav (.deliver 1), .toggleScreens, .edit .fullName " Guest Two ",
    .edit .email "guest@mail.com ", .edit .password "12", .edit .confirmPassword "12", .tap,
    .served 0 (.failed (.authException "weak-password")), .resume 0 .noUser,
    .edit .password "secret", .edit .confirmPassword "secret", .tap, .served 0 (.done "u"),
    .resume 0 .refused, .nav (.change none), .edit .email "two@mail.com", .tap,
    .served 0 (.done "v"), .nav (.deliver 3), .resume 0 (.written 0), .nav (.tab 3),
    .nav (.change none)]

end Nginepyuk.Account
