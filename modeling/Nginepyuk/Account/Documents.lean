/-
  The collection `users` against the accounts of the auth service, over every run.

  `signUpHandler` has an account created and, later, a document written. In between the user can
  do anything, another account may be created, and the texts may change, so the documents can
  have other names and emails than the accounts (`Account.Profile`). What no order of steps can
  break is the count: each account has one handler that is still waiting, or one document, or a
  handler that ended without one, never two of these (`one_document_each`). Whoever is signed in,
  has a `MainPage` or is named by a queued auth event has an account.
-/
import Mathlib.Data.List.Nodup
import Mathlib.Data.List.Perm.Basic
import Nginepyuk.Account.Register

namespace Nginepyuk.Account

open Lib.Trace

/-- The uids of the accounts. -/
def Registry.uids (w : Registry) : List String := w.accounts.map fun a => a.user.uid

/-- The uids of the accounts without a document and of the documents. -/
def Registry.served (w : Registry) : List String :=
  (w.undocumented.map fun a => a.user.uid) ++ w.users.map UserDoc.uid

/-- The user has an account. -/
def Registered (w : Registry) (u : User) : Prop := ∃ a ∈ w.accounts, a.user = u

structure RegistryInv (w : Registry) : Prop where
  uids : w.uids.Nodup
  emails : (w.accounts.map fun a => a.user.email).Nodup
  served : w.served.Perm w.uids
  current : ∀ u, w.app.currentUser = some u → Registered w u
  queued : ∀ u, some u ∈ w.app.events → Registered w u
  main : ∀ m, w.app.root.mainState = some m → Registered w m.user

/-! ## The handlers -/

theorem addDoc_perm (users : List UserDoc) (pos : Nat) (d : UserDoc) :
    (addDoc users pos d).Perm (d :: users) := by
  have h : (users.take pos ++ d :: users.drop pos).Perm
      (d :: (users.take pos ++ users.drop pos)) := List.perm_middle
  rw [List.take_append_drop] at h
  exact h

section Step

variable {lower : String → String} {w : Registry}

theorem registered_signUp {form : RegisterForm} {uid : String} {u : User} (h : Registered w u)
    (app : App) (pending : List Registration) :
    Registered { w with app := app, accounts := newAccount lower form uid :: w.accounts,
                        pending := pending } u := by
  obtain ⟨a, ha, hu⟩ := h
  exact ⟨a, List.mem_cons_of_mem _ ha, hu⟩

theorem registryInv_signUp {form : RegisterForm} {uid : String}
    (hnew : Creates lower w form uid) (h : RegistryInv w) :
    RegistryInv (registryStep lower w (.signUp form uid)) := by
  simp only [registryStep, if_pos hnew]
  refine ⟨?_, ?_, ?_, ?_, ?_, ?_⟩
  · refine List.nodup_cons.mpr ⟨?_, h.uids⟩
    intro hmem
    obtain ⟨a, ha, hu⟩ := List.mem_map.mp hmem
    exact (hnew.2 a ha).2 hu
  · refine List.nodup_cons.mpr ⟨?_, h.emails⟩
    intro hmem
    obtain ⟨a, ha, he⟩ := List.mem_map.mp hmem
    exact (hnew.2 a ha).1 he
  · exact h.served.cons _
  · intro u hu
    exact ⟨_, List.mem_cons_self, Option.some.inj hu⟩
  · intro u hu
    rcases List.mem_append.mp hu with hu | hu
    · exact registered_signUp (h.queued u hu) _ _
    · exact ⟨_, List.mem_cons_self, (Option.some.inj (List.mem_singleton.mp hu)).symm⟩
  · intro m hm
    exact registered_signUp (h.main m hm) _ _

/-- The document takes the place of the handler, or the account is left without one. -/
theorem served_goOn {i : Nat} {a : Registration} (hi : w.pending[i]? = some a)
    (form : RegisterForm) (details : Details) :
    ({ w with pending := w.pending.eraseIdx i }.goOn a form details).served.Perm w.served := by
  cases details with
  | written pos =>
      have hdocs := (addDoc_perm w.users pos
        (addUserDetails a.user.uid (trim form.fullName) (trim form.email))).map UserDoc.uid
      have haccounts := (undocumented_perm hi).map fun a => a.user.uid
      refine (List.Perm.append_left _ hdocs).trans ?_
      exact List.perm_middle.trans (haccounts.append_right (w.users.map UserDoc.uid)).symm
  | refused | noUser =>
      have haccounts := (undocumented_halfFinished hi).map fun a => a.user.uid
      exact haccounts.append_right (w.users.map UserDoc.uid)

theorem registryInv_addDetails {i : Nat} {form : RegisterForm} {details : Details}
    {a : Registration} (hi : w.pending[i]? = some a) (h : RegistryInv w) :
    RegistryInv (registryStep lower w (.addDetails i form details)) := by
  simp only [registryStep, hi]
  have hserved := (served_goOn hi form details).trans h.served
  cases details with
  | written | refused | noUser =>
      exact ⟨h.uids, h.emails, hserved, h.current, h.queued, h.main⟩

theorem registryInv_signIn {email password : String} (h : RegistryInv w) :
    RegistryInv (registryStep lower w (.signIn email password)) := by
  simp only [registryStep]
  split
  · next a ha =>
      have hreg : Registered w a.user := ⟨a, List.mem_of_find?_eq_some ha, rfl⟩
      refine ⟨h.uids, h.emails, h.served, ?_, ?_, h.main⟩
      · intro u hu
        obtain rfl := Option.some.inj hu
        exact hreg
      · intro u hu
        rcases List.mem_append.mp hu with hu | hu
        · exact h.queued u hu
        · obtain rfl := Option.some.inj (List.mem_singleton.mp hu)
          exact hreg
  · exact h

/-- Only the handlers of the auth pages queue an event with a user. -/
theorem queued_of_appStep {a : App} {e : AppEvent} (he : ∀ u, e ≠ .change (some u)) {u : User}
    (h : some u ∈ (appStep a e).events) : some u ∈ a.events := by
  have hend : some u ∈ a.events ++ [none] → some u ∈ a.events := by
    intro hmem
    rcases List.mem_append.mp hmem with hold | hnew
    · exact hold
    · cases List.mem_singleton.mp hnew
  cases e with
  | change user =>
      cases user with
      | none => exact hend h
      | some user => exact absurd rfl (he user)
  | deliver n =>
      rw [appStep, deliver_events] at h
      exact List.mem_of_mem_drop h
  | exit =>
      simp only [appStep] at h
      split at h
      · exact hend h
      · exact h
  | tab value =>
      simp only [appStep] at h
      split at h <;> exact h
  | push =>
      simp only [appStep] at h
      split at h <;> exact h
  | pop => exact h
  | booked =>
      simp only [appStep] at h
      split at h <;> exact h
  | home =>
      simp only [appStep] at h
      split at h <;> exact h

theorem registryInv_nav {e : AppEvent} (he : ∀ u, e ≠ .change (some u)) (h : RegistryInv w) :
    RegistryInv { w with app := appStep w.app e } := by
  obtain ⟨hcur, hmain⟩ := appStep_from w.app e he
  refine ⟨h.uids, h.emails, h.served, ?_, fun u hu => h.queued u (queued_of_appStep he hu), ?_⟩
  · intro u hu
    rcases hcur with hnone | hsame
    · cases hnone.symm.trans hu
    · exact h.current u (hsame.symm.trans hu)
  · intro m hm
    rcases hmain m hm with ⟨m₀, hm₀, huser, _⟩ | ⟨hnew, _⟩
    · rw [huser]
      exact h.main m₀ hm₀
    · exact h.current m.user hnew

theorem registryInv_step (lower : String → String) (w : Registry) (e : RegistryEvent)
    (h : RegistryInv w) : RegistryInv (registryStep lower w e) := by
  cases e with
  | signUp form uid =>
      by_cases hnew : Creates lower w form uid
      · exact registryInv_signUp hnew h
      · rw [registryStep, if_neg hnew]
        exact h
  | addDetails i form details =>
      cases hi : w.pending[i]? with
      | some a => exact registryInv_addDetails hi h
      | none =>
          simp only [registryStep, hi]
          exact h
  | signIn email password => exact registryInv_signIn h
  | nav e =>
      rcases registryStep_nav lower w e with hstay | ⟨he, hstep⟩
      · rw [hstay]
        exact h
      · rw [hstep]
        exact registryInv_nav he h

end Step

theorem registryInv_start : RegistryInv Registry.start where
  uids := List.nodup_nil
  emails := List.nodup_nil
  served := List.Perm.refl _
  current := fun _ hu => nomatch hu
  queued := by
    intro u hu
    exact nomatch List.mem_singleton.mp hu
  main := fun _ hm => nomatch hm

/-- A document for each account whose handler wrote one, and no other. -/
def OneDocumentEach (w : Registry) : Prop :=
  (∀ d ∈ w.users, ∃ a ∈ w.accounts, a.user.uid = d.uid) ∧
    ∀ a ∈ w.accounts, (w.users.filter fun d => d.uid == a.user.uid).length =
      if a.user.uid ∈ w.undocumented.map fun b => b.user.uid then 0 else 1

theorem oneDocumentEach_of_inv {w : Registry} (h : RegistryInv w) : OneDocumentEach w := by
  refine ⟨?_, ?_⟩
  · intro d hd
    have hserved : d.uid ∈ w.served := List.mem_append_right _ (List.mem_map_of_mem hd)
    obtain ⟨a, ha, hu⟩ := List.mem_map.mp (h.served.mem_iff.mp hserved)
    exact ⟨a, ha, hu⟩
  · intro a ha
    have hcount : w.served.count a.user.uid = 1 := by
      rw [h.served.count_eq]
      exact List.count_eq_one_of_mem h.uids (List.mem_map_of_mem ha)
    rw [Registry.served, List.count_append] at hcount
    have hdocs : (w.users.filter fun d => d.uid == a.user.uid).length =
        (w.users.map UserDoc.uid).count a.user.uid := by
      rw [List.count, List.countP_map, List.countP_eq_length_filter]
      rfl
    rw [hdocs]
    split
    · next hp =>
        have hpos := List.count_pos_iff.mpr hp
        omega
    · next hp =>
        have hzero := List.count_eq_zero.mpr hp
        omega

end Nginepyuk.Account
