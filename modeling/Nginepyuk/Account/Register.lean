/-
  `lib/pages/register_page.dart` and `lib/pages/login_page.dart`: the texts of the forms and
  what the backend does for the handlers.

  The auth service keeps one account for each email up to letter case and reports the email
  in lower case; `lower` stands for that. `signUpHandler` has the account created from the
  texts at the tap. The service then signs the new user in and queues the auth event; the
  handler goes on later, reads the name and the email from the form again, and has the
  document of the user written to the collection `users`. That can end in three ways
  (`Details`): the credential may have no user, and the write may be refused.
-/
import Mathlib.Data.List.DropRight
import Mathlib.Data.List.Perm.Basic
import Nginepyuk.Account.Navigation

namespace Nginepyuk.Account

open Lib.Trace

/-- The characters that Dart's `trim` removes: white space as Unicode has it, and the byte
    order mark. -/
def isWhiteSpace (c : Char) : Bool :=
  let n := c.toNat
  (0x9 ≤ n && n ≤ 0xD) || n == 0x20 || n == 0x85 || n == 0xA0 || n == 0x1680 ||
    (0x2000 ≤ n && n ≤ 0x200A) || n == 0x2028 || n == 0x2029 || n == 0x202F || n == 0x205F ||
    n == 0x3000 || n == 0xFEFF

/-- `String.trim`. -/
def trim (s : String) : String :=
  String.ofList ((s.toList.dropWhile isWhiteSpace).rdropWhile isWhiteSpace)

/-- The texts in the fields of `RegisterPage`. -/
structure RegisterForm where
  fullName : String
  email : String
  password : String
  confirmPassword : String
deriving DecidableEq, Repr

def RegisterForm.passwordConfirmed (f : RegisterForm) : Bool :=
  trim f.password == trim f.confirmPassword

/-- A document of the collection `users`. -/
structure UserDoc where
  uid : String
  fullName : String
  email : String
deriving DecidableEq, Repr

def addUserDetails (uid fullName email : String) : UserDoc := ⟨uid, fullName, email⟩

/-- An account of the auth service: the user it reports and the password. `fullName` is the
    name in the form at the tap that asked for the account. -/
structure Registration where
  user : User
  password : String
  fullName : String
deriving DecidableEq, Repr

/-- How `signUpHandler` ends once its account is there: the document is written, with an id
    that puts it at `pos`; the write is refused; or the credential has no user, so that no write
    is asked for. -/
inductive Details where
  | written (pos : Nat)
  | refused
  | noUser
deriving DecidableEq, Repr

/-- The app with the backend. `pending` are the accounts whose `signUpHandler` still waits for
    its `createUserWithEmailAndPassword`, `halfFinished` those whose handler ended without a
    document; `users` is the collection, in the order of the document ids. -/
structure Registry where
  app : App
  accounts : List Registration
  pending : List Registration
  halfFinished : List Registration
  users : List UserDoc
deriving DecidableEq, Repr

/-- Nobody registered, nobody signed in. -/
def Registry.start : Registry := ⟨App.start none, [], [], [], []⟩

/-- The accounts without a document. -/
def Registry.undocumented (w : Registry) : List Registration := w.pending ++ w.halfFinished

/-- The steps. `signUp form uid`: the account that `signUpHandler` asked for with the texts
    `form` is created, with the uid `uid`. `addDetails i form details`: the handler of the `i`-th
    pending account goes on, with the texts `form` in the fields by then, and ends with
    `details`. `nav` is any other step of the app. -/
inductive RegistryEvent where
  | signUp (form : RegisterForm) (uid : String)
  | addDetails (i : Nat) (form : RegisterForm) (details : Details)
  | signIn (email password : String)
  | nav (e : AppEvent)
deriving DecidableEq, Repr

section Backend

variable (lower : String → String)

/-- The account that the texts `form` give. -/
def newAccount (form : RegisterForm) (uid : String) : Registration where
  user := ⟨uid, lower (trim form.email)⟩
  password := trim form.password
  fullName := trim form.fullName

/-- The account is created: the passwords agree, and the email and the uid are new. -/
def Creates (w : Registry) (form : RegisterForm) (uid : String) : Prop :=
  form.passwordConfirmed = true ∧
    ∀ a ∈ w.accounts, a.user.email ≠ lower (trim form.email) ∧ a.user.uid ≠ uid

instance (w : Registry) (form : RegisterForm) (uid : String) :
    Decidable (Creates lower w form uid) :=
  inferInstanceAs (Decidable (_ ∧ ∀ a ∈ _, _))

/-- The account that `signInHandler` signs in. -/
def signInAccount (w : Registry) (email password : String) : Option Registration :=
  w.accounts.find? fun a => a.user.email == lower (trim email) && a.password == trim password

/-- A new document takes its place in the order of the ids. -/
def addDoc (users : List UserDoc) (pos : Nat) (d : UserDoc) : List UserDoc :=
  users.take pos ++ d :: users.drop pos

/-- The rest of the handler of the account `a`; `w` is without it. -/
def Registry.goOn (w : Registry) (a : Registration) (form : RegisterForm) : Details → Registry
  | .written pos =>
      { w with users := addDoc w.users pos
                (addUserDetails a.user.uid (trim form.fullName) (trim form.email)) }
  | .refused | .noUser => { w with halfFinished := a :: w.halfFinished }

def registryStep (w : Registry) : RegistryEvent → Registry
  | .signUp form uid =>
      if Creates lower w form uid then
        { w with app := w.app.change (some (newAccount lower form uid).user)
                 accounts := newAccount lower form uid :: w.accounts
                 pending := newAccount lower form uid :: w.pending }
      else w
  | .addDetails i form details =>
      match w.pending[i]? with
      | some a => { w with pending := w.pending.eraseIdx i }.goOn a form details
      | none => w
  | .signIn email password =>
      match signInAccount lower w email password with
      | some a => { w with app := w.app.change (some a.user) }
      | none => w
  -- A user is signed in by the two handlers only; the backend can end a session.
  | .nav (.change (some _)) => w
  | .nav e => { w with app := appStep w.app e }

end Backend

/-! ## What the handlers and the collection give -/

/-- Any other step of the app is one, unless it would sign a user in. -/
theorem registryStep_nav (lower : String → String) (w : Registry) (e : AppEvent) :
    registryStep lower w (.nav e) = w ∨ (∀ u, e ≠ .change (some u)) ∧
      registryStep lower w (.nav e) = { w with app := appStep w.app e } := by
  cases e with
  | change user =>
      cases user with
      | none => exact Or.inr ⟨(fun _ he => by cases he), rfl⟩
      | some u => exact Or.inl rfl
  | _ => exact Or.inr ⟨(fun _ he => by cases he), rfl⟩

theorem mem_addDoc {users : List UserDoc} {pos : Nat} {d x : UserDoc} :
    x ∈ addDoc users pos d ↔ x = d ∨ x ∈ users := by
  have hsplit : x ∈ users ↔ x ∈ users.take pos ∨ x ∈ users.drop pos := by
    rw [← List.mem_append, List.take_append_drop]
  rw [addDoc, List.mem_append, List.mem_cons, hsplit]
  tauto

/-- The handler of the account `a` no longer waits. -/
theorem undocumented_perm {w : Registry} {i : Nat} {a : Registration}
    (hi : w.pending[i]? = some a) :
    w.undocumented.Perm (a :: (w.pending.eraseIdx i ++ w.halfFinished)) := by
  obtain ⟨hlt, hget⟩ := List.getElem?_eq_some_iff.mp hi
  have hpending := List.getElem_cons_eraseIdx_perm hlt
  rw [hget] at hpending
  exact (hpending.append_right w.halfFinished).symm

/-- It ends without a document. -/
theorem undocumented_halfFinished {w : Registry} {i : Nat} {a : Registration}
    (hi : w.pending[i]? = some a) :
    (w.pending.eraseIdx i ++ a :: w.halfFinished).Perm w.undocumented :=
  List.perm_middle.trans (undocumented_perm hi).symm

end Nginepyuk.Account
