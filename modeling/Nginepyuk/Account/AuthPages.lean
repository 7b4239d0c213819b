/-
  `lib/pages/auth/auth_page.dart` with the two pages it shows: their fields, their handlers and
  the calls of the auth service that have not come back.

  `AuthPage` shows a `LoginPage` or a `RegisterPage`; switching disposes of the one and makes the
  other with empty fields. A tap on the button starts a handler with the texts in the fields, and
  nothing keeps the user from a second tap or from leaving while the handler waits. The service
  answers the calls in any order; the handler goes on some time after that. One that was refused
  shows its message in the context of its page, and fails if that page is gone. One that created
  an account reads the fields again, those of its own page, which keep their last texts after
  `dispose`, and ends as `Details` says: nobody awaits the write, so nobody catches its refusal.
  The backend may end a session at any time.

  `Account.Register` has the accounts and the documents only. Seen so, every run of the auth pages
  is a run there (`auth_pages_refine`).
-/
import Nginepyuk.Lib.Simulation
import Nginepyuk.Account.SignUp

namespace Nginepyuk.Account

open Lib.Trace

/-- The texts in the fields of `LoginPage`. -/
structure LoginForm where
  email : String
  password : String
deriving DecidableEq, Repr

/-- What `_AuthPageState.build` returns, with the texts in the fields of the page. -/
inductive AuthForm where
  | login (form : LoginForm)
  | register (form : RegisterForm)
deriving DecidableEq, Repr

/-- A new `AuthPage` starts with `showLoginPage = true`. -/
def AuthForm.start : AuthForm := .login ⟨"", ""⟩

/-- `_AuthPageState.toggleScreens`: the page that comes in place of the one shown. -/
def AuthForm.toggleScreens : AuthForm → AuthForm
  | .login _ => .register ⟨"", "", "", ""⟩
  | .register _ => .login ⟨"", ""⟩

inductive AuthField where
  | fullName
  | email
  | password
  | confirmPassword
deriving DecidableEq, Repr

/-- The user types; `LoginPage` has two of the fields. -/
def AuthForm.edit (field : AuthField) (text : String) : AuthForm → AuthForm
  | .login form =>
      match field with
      | .email => .login { form with email := text }
      | .password => .login { form with password := text }
      | _ => .login form
  | .register form =>
      match field with
      | .fullName => .register { form with fullName := text }
      | .email => .register { form with email := text }
      | .password => .register { form with password := text }
      | .confirmPassword => .register { form with confirmPassword := text }

/-- A call of the service that has not come back: the page of its handler, by its number, and
    the texts at the tap. -/
inductive Request where
  | signUp (page : Nat) (form : RegisterForm)
  | signIn (page : Nat) (form : LoginForm)
deriving DecidableEq, Repr

def Request.page : Request → Nat
  | .signUp page _ => page
  | .signIn page _ => page

/-- An exception of the service; `text` is its `toString()`. -/
inductive Failure where
  | authException (code : String)
  | otherException (text : String)
deriving DecidableEq, Repr

/-- What the handler of a call goes on with. -/
inductive Answer where
  | created (page : Nat) (account : Registration)
  | signedIn (page : Nat)
  | failed (request : Request) (failure : Failure)
deriving DecidableEq, Repr

def Answer.page : Answer → Nat
  | .created page _ => page
  | .signedIn page => page
  | .failed request _ => request.page

def Answer.account? : Answer → Option Registration
  | .created _ account => some account
  | _ => none

/-- `on FirebaseAuthException catch` of `signInHandler`. -/
def signInMessages (code : String) : List String :=
  if code = "user-not-found" then ["No user found for that email."]
  else if code = "wrong-password" then ["Wrong password provided for that user."]
  else []

/-- The messages of the two `catch` clauses of the handler of the call. -/
def catchMessages : Request → Failure → List String
  | .signUp _ _, .authException code => authMessages code
  | .signUp _ _, .otherException _ => ["Gagal Register"]
  | .signIn _ _, .authException code => signInMessages code
  | .signIn _ _, .otherException text => [text]

/-- The app, the backend, and the pages that `AuthPage` ever showed, in order. Only the last of
    them can be on the screen. `messages` are the snack bars shown, `uncaught` counts the
    handlers that had a message and no page to show it on, and the writes that were refused. -/
structure AuthPages where
  app : App
  accounts : List Registration
  halfFinished : List Registration
  users : List UserDoc
  pages : List AuthForm
  requests : List Request
  answers : List Answer
  messages : List String
  uncaught : Nat
deriving DecidableEq, Repr

def AuthPages.start : AuthPages where
  app := App.start none
  accounts := []
  halfFinished := []
  users := []
  pages := [.start]
  requests := []
  answers := []
  messages := []
  uncaught := 0

/-- The page that `AuthPage` shows: its number, and the texts in its fields. -/
def AuthPages.shown (w : AuthPages) : Option (Nat × AuthForm) :=
  if w.app.root = .splash .auth then
    w.pages.getLast?.map fun form => (w.pages.length - 1, form)
  else none

/-- The page on the screen: no other page lies over it. -/
def AuthPages.current (w : AuthPages) : Option (Nat × AuthForm) :=
  if w.app.covered then none else w.shown

/-- The texts of a `RegisterPage`, disposed of or not. -/
def AuthPages.registerForm (w : AuthPages) (page : Nat) : RegisterForm :=
  match w.pages[page]? with
  | some (.register form) => form
  | _ => ⟨"", "", "", ""⟩

/-- How the service ends a call. -/
inductive Outcome where
  | done (uid : String)
  | failed (failure : Failure)
deriving DecidableEq, Repr

/-- `served k outcome`: the service ends the `k`-th waiting call, with the uid `uid` for a new
    account. `resume k details`: the handler of the `k`-th answer goes on, and ends with `details`
    if it has an account. `nav` is any other step of the app. -/
inductive AuthEvent where
  | toggleScreens
  | edit (field : AuthField) (text : String)
  | tap
  | served (k : Nat) (outcome : Outcome)
  | resume (k : Nat) (details : Details)
  | nav (e : AppEvent)
deriving DecidableEq, Repr

/-- `onPressed` of the button: `signInHandler` or `signUpHandler` up to its `await`. -/
def AuthForm.onPressed (page : Nat) : AuthForm → List Request
  | .login form => [.signIn page form]
  | .register form => if form.passwordConfirmed then [.signUp page form] else []

/-- The step of the app, with a new `AuthPage` if one comes up. -/
def AuthPages.nav (w : AuthPages) (e : AppEvent) : AuthPages :=
  { w with app := appStep w.app e
           pages :=
            if (appStep w.app e).root = .splash .auth ∧ w.app.root ≠ .splash .auth then
              w.pages ++ [.start]
            else w.pages }

/-- What `Account.Register` knows: an account is pending as long as its handler waits. -/
def AuthPages.registry (w : AuthPages) : Registry where
  app := w.app
  accounts := w.accounts
  pending := w.answers.filterMap Answer.account?
  halfFinished := w.halfFinished
  users := w.users

section Backend

variable (lower : String → String)

/-- The service ends a call; `w` is without it. -/
def AuthPages.serve (w : AuthPages) : Request → Outcome → AuthPages
  | request, .failed failure => { w with answers := .failed request failure :: w.answers }
  | .signUp page form, .done uid =>
      { w with app := w.app.change (some (newAccount lower form uid).user)
               accounts := newAccount lower form uid :: w.accounts
               answers := .created page (newAccount lower form uid) :: w.answers }
  | .signIn page form, .done _ =>
      match signInAccount lower w.registry form.email form.password with
      | some a =>
          { w with app := w.app.change (some a.user), answers := .signedIn page :: w.answers }
      | none => w

/-- The call can end so: an account is created for a new email only, and a sign-in succeeds only
    if there is an account with the email and the password. -/
def AuthPages.CanServe (w : AuthPages) : Request → Outcome → Prop
  | _, .failed _ => True
  | .signUp _ form, .done uid =>
      ∀ a ∈ w.accounts, a.user.email ≠ lower (trim form.email) ∧ a.user.uid ≠ uid
  | .signIn _ form, .done _ => (signInAccount lower w.registry form.email form.password).isSome

instance (w : AuthPages) : (r : Request) → (o : Outcome) → Decidable (w.CanServe lower r o)
  | .signUp _ _, .failed _ | .signIn _ _, .failed _ => isTrue trivial
  | .signUp _ _, .done _ => inferInstanceAs (Decidable (∀ a ∈ _, _))
  | .signIn _ _, .done _ => inferInstanceAs (Decidable (_ = true))

/-- The rest of the handler after its `await`; `w` is without the answer. -/
def AuthPages.goOn (w : AuthPages) (details : Details) : Answer → AuthPages
  | .created page a =>
      match details with
      | .written pos =>
          { w with users := addDoc w.users pos (addUserDetails a.user.uid
                      (trim (w.registerForm page).fullName) (trim (w.registerForm page).email)) }
      | .refused =>
          { w with halfFinished := a :: w.halfFinished, uncaught := w.uncaught + 1 }
      | .noUser => { w with halfFinished := a :: w.halfFinished }
  | .signedIn _ => w
  | .failed request failure =>
      if catchMessages request failure = [] then w
      else if w.shown.map Prod.fst = some request.page then
        { w with messages := w.messages ++ catchMessages request failure }
      else { w with uncaught := w.uncaught + 1 }

def authStep (w : AuthPages) : AuthEvent → AuthPages
  | .toggleScreens =>
      match w.current with
      | some (_, form) => { w with pages := w.pages ++ [form.toggleScreens] }
      | none => w
  | .edit field text =>
      match w.current with
      | some (page, _) => { w with pages := w.pages.modify page (AuthForm.edit field text) }
      | none => w
  | .tap =>
      match w.current with
      | some (page, form) => { w with requests := w.requests ++ form.onPressed page }
      | none => w
  | .served k outcome =>
      match w.requests[k]? with
      | some request =>
          if w.CanServe lower request outcome then
            { w with requests := w.requests.eraseIdx k }.serve lower request outcome
          else w
      | none => w
  | .resume k details =>
      match w.answers[k]? with
      | some answer => { w with answers := w.answers.eraseIdx k }.goOn details answer
      | none => w
  -- A user is signed in by the two handlers only; the backend can end a session.
  | .nav (.change (some _)) => w
  | .nav e => w.nav e

/-- What a step is for the registry. -/
def AuthPages.registryEvents (w : AuthPages) : AuthEvent → List RegistryEvent
  | .served k (.done uid) =>
      match w.requests[k]? with
      | some (.signUp _ form) => [.signUp form uid]
      | some (.signIn _ form) => [.signIn form.email form.password]
      | none => []
  | .resume k details =>
      match w.answers[k]? with
      | some (.created page _) =>
          [.addDetails ((w.answers.take k).filterMap Answer.account?).length
            (w.registerForm page) details]
      | _ => []
  | .nav e => [.nav e]
  | _ => []

end Backend

/-! ## What an event can do -/

/-- The effect of one event, by cases. `added` and `lost` are the ends of a handler that has its
    account, `ended` is the end of any other. -/
inductive AuthMove (lower : String → String) (w : AuthPages) : AuthEvent → AuthPages → Prop where
  | stay (e : AuthEvent) (hno : ∀ k details, e = .resume k details → w.answers[k]? = none) :
      AuthMove lower w e w
  | toggled (page : Nat) (form : AuthForm) (hcur : w.current = some (page, form)) :
      AuthMove lower w .toggleScreens { w with pages := w.pages ++ [form.toggleScreens] }
  | edited (field : AuthField) (text : String) (page : Nat) (form : AuthForm)
      (hcur : w.current = some (page, form)) :
      AuthMove lower w (.edit field text)
        { w with pages := w.pages.modify page (AuthForm.edit field text) }
  | tapped (page : Nat) (form : AuthForm) (hcur : w.current = some (page, form)) :
      AuthMove lower w .tap { w with requests := w.requests ++ form.onPressed page }
  | refused (k : Nat) (request : Request) (failure : Failure)
      (hk : w.requests[k]? = some request) :
      AuthMove lower w (.served k (.failed failure))
        { w with requests := w.requests.eraseIdx k
                 answers := .failed request failure :: w.answers }
  | created (k page : Nat) (form : RegisterForm) (uid : String)
      (hk : w.requests[k]? = some (.signUp page form))
      (hnew : ∀ a ∈ w.accounts, a.user.email ≠ lower (trim form.email) ∧ a.user.uid ≠ uid) :
      AuthMove lower w (.served k (.done uid))
        { w with app := w.app.change (some (newAccount lower form uid).user)
                 accounts := newAccount lower form uid :: w.accounts
                 requests := w.requests.eraseIdx k
                 answers := .created page (newAccount lower form uid) :: w.answers }
  | signedIn (k page : Nat) (form : LoginForm) (uid : String) (a : Registration)
      (hk : w.requests[k]? = some (.signIn page form))
      (ha : signInAccount lower w.registry form.email form.password = some a) :
      AuthMove lower w (.served k (.done uid))
        { w with app := w.app.change (some a.user)
                 requests := w.requests.eraseIdx k
                 answers := .signedIn page :: w.answers }
  | added (k pos page : Nat) (a : Registration) (hk : w.answers[k]? = some (.created page a)) :
      AuthMove lower w (.resume k (.written pos))
        { w with answers := w.answers.eraseIdx k
                 users := addDoc w.users pos (addUserDetails a.user.uid
                  (trim (w.registerForm page).fullName) (trim (w.registerForm page).email)) }
  | lost (k page : Nat) (details : Details) (a : Registration) (uncaught : Nat)
      (hk : w.answers[k]? = some (.created page a)) (hlost : ∀ pos, details ≠ .written pos) :
      AuthMove lower w (.resume k details)
        { w with answers := w.answers.eraseIdx k
                 halfFinished := a :: w.halfFinished
                 uncaught := uncaught }
  | ended (k : Nat) (details : Details) (answer : Answer) (messages : List String)
      (uncaught : Nat) (hk : w.answers[k]? = some answer) (hno : answer.account? = none) :
      AuthMove lower w (.resume k details)
        { w with answers := w.answers.eraseIdx k, messages := messages, uncaught := uncaught }
  | nav (e : AppEvent) (he : ∀ user, e ≠ .change (some user)) :
      AuthMove lower w (.nav e) (w.nav e)

theorem serve_move (lower : String → String) {w : AuthPages} {k : Nat} {request : Request}
    (hk : w.requests[k]? = some request) {outcome : Outcome}
    (h : w.CanServe lower request outcome) :
    AuthMove lower w (.served k outcome)
      ({ w with requests := w.requests.eraseIdx k }.serve lower request outcome) := by
  match request, outcome with
  | .signUp page form, .failed failure => exact .refused k _ failure hk
  | .signIn page form, .failed failure => exact .refused k _ failure hk
  | .signUp page form, .done uid => exact .created k page form uid hk h
  | .signIn page form, .done uid =>
      obtain ⟨a, ha⟩ := Option.isSome_iff_exists.mp h
      have ha' : signInAccount lower { w with requests := w.requests.eraseIdx k }.registry
          form.email form.password = some a := ha
      simp only [AuthPages.serve, ha']
      exact .signedIn k page form uid a hk ha

theorem goOn_move (lower : String → String) {w : AuthPages} {k : Nat} (details : Details)
    {answer : Answer} (hk : w.answers[k]? = some answer) :
    AuthMove lower w (.resume k details)
      ({ w with answers := w.answers.eraseIdx k }.goOn details answer) := by
  cases answer with
  | created page a =>
      cases details with
      | written pos => exact .added k pos page a hk
      | refused => exact .lost k page _ a _ hk (fun _ he => by cases he)
      | noUser => exact .lost k page _ a w.uncaught hk (fun _ he => by cases he)
  | signedIn page => exact .ended k details _ w.messages w.uncaught hk rfl
  | failed request failure =>
      simp only [AuthPages.goOn]
      split
      · exact .ended k details _ w.messages w.uncaught hk rfl
      · split
        · exact .ended k details _ _ w.uncaught hk rfl
        · exact .ended k details _ w.messages _ hk rfl

theorem authStep_move (lower : String → String) (w : AuthPages) (e : AuthEvent) :
    AuthMove lower w e (authStep lower w e) := by
  cases e with
  | toggleScreens =>
      simp only [authStep]
      split
      · next page form hcur => exact .toggled page form hcur
      · exact .stay _ (fun _ _ he => by cases he)
  | edit field text =>
      simp only [authStep]
      split
      · next page form hcur => exact .edited field text page form hcur
      · exact .stay _ (fun _ _ he => by cases he)
  | tap =>
      simp only [authStep]
      split
      · next page form hcur => exact .tapped page form hcur
      · exact .stay _ (fun _ _ he => by cases he)
  | served k outcome =>
      simp only [authStep]
      split
      · next request hk =>
          split
          · next h => exact serve_move lower hk h
          · exact .stay _ (fun _ _ he => by cases he)
      · exact .stay _ (fun _ _ he => by cases he)
  | resume k details =>
      simp only [authStep]
      split
      · next answer hk => exact goOn_move lower details hk
      · next hk =>
          refine .stay _ ?_
          intro k' details' he
          obtain ⟨rfl, rfl⟩ := AuthEvent.resume.inj he
          exact hk
  | nav e =>
      cases e with
      | change user =>
          cases user with
          | none => exact .nav _ (fun _ he => by cases he)
          | some user => exact .stay _ (fun _ _ he => by cases he)
      | _ => exact .nav _ (fun _ he => by cases he)

/-! ## One step -/

section Lists

variable {α β : Type} {f : α → Option β} {l : List α} {k : Nat} {a : α}

theorem filterMap_eraseIdx_none (hk : l[k]? = some a) (ha : f a = none) :
    (l.eraseIdx k).filterMap f = l.filterMap f := by
  induction l generalizing k with
  | nil => cases hk
  | cons b l ih =>
      cases k with
      | zero =>
          obtain rfl := Option.some.inj hk
          rw [List.eraseIdx_cons_zero, List.filterMap_cons_none ha]
      | succ k =>
          rw [List.eraseIdx_cons_succ, List.filterMap_cons, List.filterMap_cons, ih hk]

theorem filterMap_eraseIdx_some {b : β} (hk : l[k]? = some a) (ha : f a = some b) :
    (l.filterMap f)[((l.take k).filterMap f).length]? = some b ∧
      (l.eraseIdx k).filterMap f =
        (l.filterMap f).eraseIdx ((l.take k).filterMap f).length := by
  obtain ⟨hlt, hget⟩ := List.getElem?_eq_some_iff.mp hk
  have hsplit : l.filterMap f =
      (l.take k).filterMap f ++ b :: (l.drop (k + 1)).filterMap f := by
    rw [← List.filterMap_cons_some ha, ← List.filterMap_append, ← hget,
      List.getElem_cons_drop, List.take_append_drop]
  rw [hsplit, List.eraseIdx_eq_take_drop_succ, List.filterMap_append]
  constructor
  · rw [List.getElem?_append_right (Nat.le_refl _), Nat.sub_self]
    rfl
  · rw [List.eraseIdx_append_of_length_le (Nat.le_refl _), Nat.sub_self]
    rfl

end Lists

/-- The waiting calls that create an account were made with the passwords confirmed. -/
def Confirmed (w : AuthPages) : Prop :=
  ∀ page form, Request.signUp page form ∈ w.requests → form.passwordConfirmed = true

theorem onPressed_confirmed {page page' : Nat} {form : AuthForm} {form' : RegisterForm}
    (h : Request.signUp page' form' ∈ form.onPressed page) :
    page' = page ∧ form = .register form' ∧ form'.passwordConfirmed = true := by
  match form, h with
  | .login form, h =>
      rw [AuthForm.onPressed, List.mem_singleton] at h
      cases h
  | .register form, h =>
      rw [AuthForm.onPressed] at h
      split at h
      · next hc =>
          obtain ⟨rfl, rfl⟩ := Request.signUp.inj (List.mem_singleton.mp h)
          exact ⟨rfl, rfl, hc⟩
      · exact absurd h List.not_mem_nil

section Step

variable {lower : String → String} {w : AuthPages}

/-- What a step leaves of the waiting calls, and what it adds. -/
theorem mem_requests_step (lower : String → String) (w : AuthPages) (e : AuthEvent)
    {request : Request} (h : request ∈ (authStep lower w e).requests) :
    request ∈ w.requests ∨
      ∃ page form, e = .tap ∧ w.current = some (page, form) ∧ request ∈ form.onPressed page := by
  have hm := authStep_move lower w e
  generalize authStep lower w e = w' at hm h
  cases hm with
  | tapped page form hcur =>
      exact (List.mem_append.mp h).imp_right fun hnew => ⟨page, form, rfl, hcur, hnew⟩
  | refused | created | signedIn => exact Or.inl (List.mem_of_mem_eraseIdx h)
  | _ => exact Or.inl h

theorem confirmed_step (lower : String → String) (w : AuthPages) (e : AuthEvent)
    (h : Confirmed w) : Confirmed (authStep lower w e) := by
  intro page form hmem
  rcases mem_requests_step lower w e hmem with hold | ⟨_, _, _, _, hnew⟩
  · exact h page form hold
  · exact (onPressed_confirmed hnew).2.2

theorem registry_served (h : Confirmed w) (k : Nat) (outcome : Outcome) :
    (authStep lower w (.served k outcome)).registry =
      run (registryStep lower) w.registry (w.registryEvents (.served k outcome)) := by
  cases hk : w.requests[k]? with
  | none => cases outcome <;> simp only [authStep, AuthPages.registryEvents, hk] <;> rfl
  | some request =>
      cases outcome with
      | failed failure =>
          simp only [authStep, AuthPages.registryEvents, hk]
          cases request <;> rfl
      | done uid =>
          cases request with
          | signUp page form =>
              have hconf := h page form (List.mem_of_getElem? hk)
              simp only [authStep, AuthPages.registryEvents, hk, run_cons, run_nil, registryStep]
              by_cases hnew : w.CanServe lower (.signUp page form) (.done uid)
              · have hcreates : Creates lower w.registry form uid := ⟨hconf, hnew⟩
                rw [if_pos hnew, if_pos hcreates]
                rfl
              · have hno : ¬ Creates lower w.registry form uid := fun hc => hnew hc.2
                rw [if_neg hnew, if_neg hno]
          | signIn page form =>
              simp only [authStep, AuthPages.registryEvents, hk, run_cons, run_nil, registryStep]
              by_cases hin : w.CanServe lower (.signIn page form) (.done uid)
              · obtain ⟨a, ha⟩ := Option.isSome_iff_exists.mp hin
                have ha' : signInAccount lower
                    { w with requests := w.requests.eraseIdx k }.registry form.email
                      form.password = some a := ha
                rw [if_pos hin]
                simp only [AuthPages.serve, ha, ha']
                rfl
              · have ha : signInAccount lower w.registry form.email form.password = none :=
                  Option.not_isSome_iff_eq_none.mp hin
                rw [if_neg hin, ha]

theorem registry_resume (k : Nat) (details : Details) :
    (authStep lower w (.resume k details)).registry =
      run (registryStep lower) w.registry (w.registryEvents (.resume k details)) := by
  cases hk : w.answers[k]? with
  | none => simp only [authStep, AuthPages.registryEvents, hk, run_nil]
  | some answer =>
      simp only [authStep, AuthPages.registryEvents, hk]
      cases answer with
      | created page a =>
          obtain ⟨hget, herase⟩ := filterMap_eraseIdx_some hk (f := Answer.account?) rfl
          have hpending : w.registry.pending[((w.answers.take k).filterMap
            Answer.account?).length]? = some a := hget
          simp only [run_cons, run_nil, registryStep, hpending]
          cases details with
          | written pos =>
              simp only [AuthPages.goOn, AuthPages.registry, Registry.goOn, herase]
              rfl
          | refused | noUser =>
              simp only [AuthPages.goOn, AuthPages.registry, Registry.goOn, herase]
      | signedIn page =>
          have herase := filterMap_eraseIdx_none hk (f := Answer.account?) rfl
          simp only [run_nil, AuthPages.goOn, AuthPages.registry, herase]
      | failed request failure =>
          have herase := filterMap_eraseIdx_none hk (f := Answer.account?) rfl
          simp only [run_nil, AuthPages.goOn]
          split
          · simp only [AuthPages.registry, herase]
          · split <;> simp only [AuthPages.registry, herase]

theorem registry_nav (e : AppEvent) :
    (authStep lower w (.nav e)).registry = registryStep lower w.registry (.nav e) := by
  cases e with
  | change user => cases user <;> rfl
  | _ => rfl

theorem follows_registry (lower : String → String) :
    Follows (authStep lower) (registryStep lower) AuthPages.registry AuthPages.registryEvents
      Confirmed := by
  intro w e h
  cases e with
  | toggleScreens | edit | tap =>
      simp only [authStep]
      split <;> rfl
  | served k outcome => exact registry_served h k outcome
  | resume k details => exact registry_resume k details
  | nav e => exact registry_nav e

end Step

theorem confirmed_start : Confirmed AuthPages.start := fun _ _ h => absurd h List.not_mem_nil

/-- **The auth pages refine the registry.** Whatever the user types, taps and switches while
    handlers wait, in whatever order the service answers and the handlers go on, and whatever is
    refused or ended by the backend: the accounts, those that wait or are half finished, the
    documents and the app are after every run those of the registry after the run that it amounts
    to there. -/
theorem auth_pages_refine (lower : String → String) (es : List AuthEvent) :
    (run (authStep lower) AuthPages.start es).registry =
      run (registryStep lower) Registry.start
        (emitted (authStep lower) AuthPages.registryEvents AuthPages.start es) :=
  abs_run (confirmed_step lower) (follows_registry lower) _ es confirmed_start

end Nginepyuk.Account
