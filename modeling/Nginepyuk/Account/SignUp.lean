/-
  One run of `signUpHandler` (`lib/pages/register_page.dart`), for every outcome of its
  backend calls.

  The handler does nothing when the two passwords differ. Its first `catch` shows a message
  for two codes of a `FirebaseAuthException` and none for any other code; its second one shows
  a message for every other exception. The write of the user's document is started without
  `await`, so neither of them sees it fail.

  `sign_up_settled_iff`: the run ends with the account and its document and no message, or with
  a message and neither of the two, exactly when the passwords agree and the backend succeeds
  throughout or refuses in a way that the handler reports. Every other run is silent
  (`silent_iff`) or leaves an account without a document (`half_finished_iff`).
-/
import Nginepyuk.Account.Register

namespace Nginepyuk.Account

open Lib.Trace

/-- How `createUserWithEmailAndPassword` ends. The user of its credential may be null. -/
inductive CreateOutcome where
  | created (user : Option User)
  | authException (code : String)
  | otherException
deriving DecidableEq, Repr

/-- The account that the service created, and the user that it reported for it. -/
structure CreatedAccount where
  email : String
  password : String
  user : Option User
deriving DecidableEq, Repr

/-- What a run leaves, the future that it started included: the account, the document of the
    user, and the texts of the snack bars. `uncaught` says that the future failed, which
    nobody catches. -/
structure SignUpRun where
  account : Option CreatedAccount
  userDoc : Option UserDoc
  messages : List String
  uncaught : Bool
deriving DecidableEq, Repr

/-- `on FirebaseAuthException catch`. -/
def authMessages (code : String) : List String :=
  if code = "weak-password" then ["Password is too weak"]
  else if code = "email-already-in-use" then ["Email already in use"]
  else []

/-- `signUpHandler`, with the texts `form` at the tap and `later` when the account is there.
    `written` says that the write to `users` succeeds. -/
def signUpHandler (form later : RegisterForm) (create : CreateOutcome) (written : Bool) :
    SignUpRun :=
  if form.passwordConfirmed then
    match create with
    | .created (some user) =>
        { account := some ⟨trim form.email, trim form.password, some user⟩
          userDoc :=
            if written then
              some (addUserDetails user.uid (trim later.fullName) (trim later.email))
            else none
          messages := []
          uncaught := !written }
    | .created none => ⟨some ⟨trim form.email, trim form.password, none⟩, none, [], false⟩
    | .authException code => ⟨none, none, authMessages code, false⟩
    | .otherException => ⟨none, none, ["Gagal Register"], false⟩
  else ⟨none, none, [], false⟩

/-- The account and its document exist and nothing was reported, or neither exists and
    something was. -/
def AllOrNothing (r : SignUpRun) : Prop :=
  (∃ a d, r.account = some a ∧ r.userDoc = some d ∧ a.user.map User.uid = some d.uid ∧
    r.messages = []) ∨
  (r.account = none ∧ r.userDoc = none ∧ r.messages ≠ [])

/-- Nothing was created and nothing reported. -/
def Silent (r : SignUpRun) : Prop := r.account = none ∧ r.messages = []

/-- There is an account without a document. -/
def HalfFinished (r : SignUpRun) : Prop := r.account ≠ none ∧ r.userDoc = none

instance (r : SignUpRun) : Decidable (Silent r) := inferInstanceAs (Decidable (_ ∧ _))

instance (r : SignUpRun) : Decidable (HalfFinished r) := inferInstanceAs (Decidable (_ ∧ _))

/-- The codes that the handler has a message for. -/
def handledCodes : List String := ["weak-password", "email-already-in-use"]

/-- The passwords agree, and the backend succeeds throughout or fails with an exception that
    the handler has a message for. -/
def Reported (form : RegisterForm) (create : CreateOutcome) (written : Bool) : Prop :=
  form.passwordConfirmed = true ∧
    match create with
    | .created user => user ≠ none ∧ written = true
    | .authException code => code ∈ handledCodes
    | .otherException => True

/-! ## The runs that go wrong -/

theorem authMessages_eq_nil_iff (code : String) :
    authMessages code = [] ↔ code ∉ handledCodes := by
  unfold authMessages handledCodes
  rw [List.mem_pair]
  split
  · next h => exact iff_of_false (List.cons_ne_nil _ _) (not_not.mpr (Or.inl h))
  · next h1 =>
      split
      · next h => exact iff_of_false (List.cons_ne_nil _ _) (not_not.mpr (Or.inr h))
      · next h2 => exact iff_of_true rfl (not_or.mpr ⟨h1, h2⟩)

section Runs

variable (form later : RegisterForm) (create : CreateOutcome) (written : Bool)

theorem silent_iff :
    Silent (signUpHandler form later create written) ↔
      form.passwordConfirmed = false ∨
        ∃ code, create = .authException code ∧ code ∉ handledCodes := by
  unfold signUpHandler
  split
  · next hp =>
      rw [hp]
      match create with
      | .created (some _) => simp [Silent]
      | .created none => simp [Silent]
      | .authException code => simp [Silent, authMessages_eq_nil_iff]
      | .otherException => simp [Silent]
  · next hp => exact iff_of_true ⟨rfl, rfl⟩ (Or.inl (Bool.eq_false_iff.mpr hp))

theorem half_finished_iff :
    HalfFinished (signUpHandler form later create written) ↔
      form.passwordConfirmed = true ∧
        ∃ user, create = .created user ∧ (user = none ∨ written = false) := by
  unfold signUpHandler
  split
  · next hp =>
      rw [hp]
      match create with
      | .created (some _) => cases written <;> simp [HalfFinished]
      | .created none => simp [HalfFinished]
      | .authException code => simp [HalfFinished]
      | .otherException => simp [HalfFinished]
  · next hp => simp [HalfFinished, hp]

/-- A message is shown only without an account, and a document is that of the account. -/
theorem signUpHandler_account :
    ((signUpHandler form later create written).account ≠ none →
      (signUpHandler form later create written).messages = []) ∧
    ∀ d, (signUpHandler form later create written).userDoc = some d →
      ∃ a, (signUpHandler form later create written).account = some a ∧
        a.user.map User.uid = some d.uid := by
  unfold signUpHandler
  split
  · match create with
    | .created (some user) =>
        refine ⟨fun _ => rfl, ?_⟩
        intro d hd
        refine ⟨_, rfl, ?_⟩
        cases written with
        | true =>
            obtain rfl := Option.some.inj hd
            rfl
        | false => exact nomatch hd
    | .created none => exact ⟨fun _ => rfl, fun _ hd => nomatch hd⟩
    | .authException code => exact ⟨fun ha => absurd rfl ha, fun _ hd => nomatch hd⟩
    | .otherException => exact ⟨fun ha => absurd rfl ha, fun _ hd => nomatch hd⟩
  · exact ⟨fun ha => absurd rfl ha, fun _ hd => nomatch hd⟩

/-- A run that is not all or nothing is silent or half finished. -/
theorem allOrNothing_iff_not :
    AllOrNothing (signUpHandler form later create written) ↔
      ¬ Silent (signUpHandler form later create written) ∧
        ¬ HalfFinished (signUpHandler form later create written) := by
  obtain ⟨hquiet, howned⟩ := signUpHandler_account form later create written
  generalize signUpHandler form later create written = r at hquiet howned ⊢
  constructor
  · rintro (⟨a, d, ha, hd, _, _⟩ | ⟨ha, _, hm⟩)
    · refine ⟨fun h => ?_, fun h => ?_⟩
      · exact nomatch ha.symm.trans h.1
      · exact nomatch hd.symm.trans h.2
    · exact ⟨fun h => hm h.2, fun h => h.1 ha⟩
  · rintro ⟨hsilent, hhalf⟩
    cases ha : r.account with
    | none =>
        refine Or.inr ⟨ha, ?_, fun hm => hsilent ⟨ha, hm⟩⟩
        cases hd : r.userDoc with
        | none => rfl
        | some d =>
            obtain ⟨a, ha', _⟩ := howned d hd
            rw [ha] at ha'
            exact nomatch ha'
    | some a =>
        have hne : r.account ≠ none := by
          rw [ha]
          exact Option.some_ne_none a
        obtain ⟨d, hd⟩ := Option.ne_none_iff_exists'.mp fun hd => hhalf ⟨hne, hd⟩
        obtain ⟨a', ha', huid⟩ := howned d hd
        rw [ha] at ha'
        obtain rfl := Option.some.inj ha'
        exact Or.inl ⟨a, d, ha, hd, huid, hquiet hne⟩

/-- **Sign-up is all or nothing and never silent** exactly when the passwords agree and the
    backend succeeds throughout or fails with an exception that the handler has a message for. -/
theorem sign_up_settled_iff :
    AllOrNothing (signUpHandler form later create written) ↔ Reported form create written := by
  rw [allOrNothing_iff_not, silent_iff, half_finished_iff]
  unfold Reported
  cases form.passwordConfirmed with
  | false => simp
  | true =>
      cases create with
      | created user => cases written <;> simp
      | authException code => simp
      | otherException => simp

end Runs

/-- How the registry sees the end of a run whose account was created. -/
def detailsOf (user : Option User) (written : Bool) (pos : Nat) : Details :=
  match user with
  | none => .noUser
  | some _ => if written then .written pos else .refused

/-- A run whose account was created makes the two steps of the registry, with the same document;
    without one the account is half finished there. -/
theorem registry_of_signUpHandler (lower : String → String) (w : Registry)
    (form later : RegisterForm) (uid : String) (pos : Nat) (user : Option User) (written : Bool)
    (hnew : Creates lower w form uid) (huser : ∀ u ∈ user, u = (newAccount lower form uid).user) :
    run (registryStep lower) w [.signUp form uid, .addDetails 0 later (detailsOf user written pos)] =
      { app := w.app.change (some (newAccount lower form uid).user)
        accounts := newAccount lower form uid :: w.accounts
        pending := w.pending
        halfFinished := (signUpHandler form later (.created user) written).userDoc.elim
          (newAccount lower form uid :: w.halfFinished) fun _ => w.halfFinished
        users := (signUpHandler form later (.created user) written).userDoc.elim
          w.users (addDoc w.users pos) } := by
  rw [run_cons, run_cons, run_nil, registryStep, if_pos hnew]
  unfold signUpHandler
  rw [if_pos hnew.1]
  cases user with
  | none => rfl
  | some u =>
      obtain rfl := huser u rfl
      cases written <;> rfl

/-- A form filled in, with the given confirmation of the password. -/
def filledForm (confirmPassword : String) : RegisterForm :=
  ⟨"Guest", "guest@mail.com", "secret", confirmPassword⟩

/-- The four kinds of runs that go wrong: the passwords differ, the code has no message, the
    credential has no user, and the write fails. -/
theorem sign_up_silent_or_half_finished :
    ¬ AllOrNothing (signUpHandler (filledForm "other") (filledForm "other")
        (.created (some ⟨"u", "guest@mail.com"⟩)) true) ∧
    ¬ AllOrNothing (signUpHandler (filledForm "secret") (filledForm "secret")
        (.authException "network-request-failed") true) ∧
    ¬ AllOrNothing (signUpHandler (filledForm "secret") (filledForm "secret")
        (.created none) true) ∧
    ¬ AllOrNothing (signUpHandler (filledForm "secret") (filledForm "secret")
        (.created (some ⟨"u", "guest@mail.com"⟩)) false) := by
  simp only [allOrNothing_iff_not]
  decide +kernel

end Nginepyuk.Account
