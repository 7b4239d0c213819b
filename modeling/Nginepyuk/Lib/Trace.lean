/-
  Runs of a state machine given by a total step function, and the rules used on them.

  A machine is a function `step : σ → ε → σ`; an event that is not possible in a state
  leaves it unchanged, so every list of events is a run and "for every run" is a
  quantifier over lists.

  * `AllSteps step P s es`: every step of the run meets `P`, a condition on the state
    before the step and on the event.
  * `Always step Q s es`: `Q` holds in every state the run goes through, the first and
    the last included.
  * `inv_run`, `always_of_inv`: the invariant rule, for runs whose steps meet a condition.
  * `always_iff_allSteps`: the exact form. If, from a good state, a step keeps `Q` exactly
    when it meets `P`, then `Q` holds all along a run exactly when all its steps meet `P`.
    `always_iff_allSteps_of` is the same for runs whose steps meet a condition.
-/
import Mathlib.Data.List.Basic

namespace Lib.Trace

universe u v

variable {σ : Type u} {ε : Type v}

/-- The state after the events `es`, oldest first. -/
def run (step : σ → ε → σ) (s : σ) (es : List ε) : σ := es.foldl step s

@[simp] theorem run_nil (step : σ → ε → σ) (s : σ) : run step s [] = s := rfl

@[simp] theorem run_cons (step : σ → ε → σ) (s : σ) (e : ε) (es : List ε) :
    run step s (e :: es) = run step (step s e) es := rfl

theorem run_concat (step : σ → ε → σ) (s : σ) (es : List ε) (e : ε) :
    run step s (es ++ [e]) = step (run step s es) e :=
  List.foldl_concat step s e es

/-- Every step of the run meets `P`. -/
def AllSteps (step : σ → ε → σ) (P : σ → ε → Prop) : σ → List ε → Prop
  | _, [] => True
  | s, e :: es => P s e ∧ AllSteps step P (step s e) es

instance decAllSteps (step : σ → ε → σ) (P : σ → ε → Prop) [∀ s e, Decidable (P s e)] :
    (s : σ) → (es : List ε) → Decidable (AllSteps step P s es)
  | _, [] => isTrue trivial
  | s, e :: es =>
      @instDecidableAnd _ _ (inferInstanceAs (Decidable (P s e))) (decAllSteps step P (step s e) es)

/-- `Q` holds in every state of the run. -/
def Always (step : σ → ε → σ) (Q : σ → Prop) (s : σ) (es : List ε) : Prop :=
  ∀ pre, pre <+: es → Q (run step s pre)

theorem always_nil (step : σ → ε → σ) (Q : σ → Prop) (s : σ) :
    Always step Q s [] ↔ Q s := by
  constructor
  · intro h; exact h [] (List.prefix_refl _)
  · intro h pre hpre
    rw [List.prefix_nil.mp hpre]
    exact h

theorem always_cons (step : σ → ε → σ) (Q : σ → Prop) (s : σ) (e : ε) (es : List ε) :
    Always step Q s (e :: es) ↔ Q s ∧ Always step Q (step s e) es := by
  constructor
  · intro h
    refine ⟨h [] List.nil_prefix, ?_⟩
    intro pre hpre
    exact h (e :: pre) ((List.prefix_cons_inj e).mpr hpre)
  · rintro ⟨h0, h⟩ pre hpre
    cases pre with
    | nil => exact h0
    | cons a pre =>
        obtain ⟨rfl, hpre'⟩ := List.cons_prefix_cons.mp hpre
        exact h pre hpre'

theorem Always.last {step : σ → ε → σ} {Q : σ → Prop} {s : σ} {es : List ε}
    (h : Always step Q s es) : Q (run step s es) :=
  h es (List.prefix_refl _)

/-- A property kept by every step that meets `P` holds after every run of such steps. -/
theorem inv_run {step : σ → ε → σ} {P : σ → ε → Prop} {I : σ → Prop}
    (hstep : ∀ s e, P s e → I s → I (step s e)) (s : σ) (es : List ε)
    (hP : AllSteps step P s es) (hI : I s) : I (run step s es) := by
  induction es generalizing s with
  | nil => exact hI
  | cons e es ih => exact ih _ hP.2 (hstep s e hP.1 hI)

/-- A property kept by every step holds after every run. -/
theorem inv_run_all {step : σ → ε → σ} {I : σ → Prop}
    (hstep : ∀ s e, I s → I (step s e)) (s : σ) (es : List ε) (hI : I s) :
    I (run step s es) := by
  induction es generalizing s with
  | nil => exact hI
  | cons e es ih => exact ih _ (hstep s e hI)

/-- `inv_run` for every state of the run, with an invariant `I` that gives `Q`. -/
theorem always_of_inv {step : σ → ε → σ} {P : σ → ε → Prop} {I Q : σ → Prop}
    (hstep : ∀ s e, P s e → I s → I (step s e)) (hQ : ∀ s, I s → Q s) (s : σ) (es : List ε)
    (hP : AllSteps step P s es) (hI : I s) : Always step Q s es := by
  induction es generalizing s with
  | nil => rw [always_nil]; exact hQ s hI
  | cons e es ih =>
      rw [always_cons]
      exact ⟨hQ s hI, ih _ hP.2 (hstep s e hP.1 hI)⟩

/-- If every step that ends in `Q` meets `P`, then a run that stays in `Q` meets `P`. -/
theorem allSteps_of_always {step : σ → ε → σ} {P : σ → ε → Prop} {Q : σ → Prop}
    (hstep : ∀ s e, Q (step s e) → P s e) (s : σ) (es : List ε)
    (h : Always step Q s es) : AllSteps step P s es := by
  induction es generalizing s with
  | nil => trivial
  | cons e es ih =>
      have htail := ((always_cons step Q s e es).mp h).2
      exact ⟨hstep s e (htail [] List.nil_prefix), ih _ htail⟩

/-- The exact rule, on runs whose steps meet `C`. Such steps keep `I`; from a state with `I` and
    `Q`, a step keeps `Q` exactly when it meets `P`. -/
theorem always_iff_allSteps_of {step : σ → ε → σ} {C P : σ → ε → Prop} {I Q : σ → Prop}
    (hI : ∀ s e, C s e → I s → I (step s e))
    (hstep : ∀ s e, I s → Q s → (Q (step s e) ↔ P s e)) (s : σ) (es : List ε)
    (hC : AllSteps step C s es) (h0 : I s) (hq : Q s) :
    Always step Q s es ↔ AllSteps step P s es := by
  induction es generalizing s with
  | nil => rw [always_nil]; exact ⟨fun _ => trivial, fun _ => hq⟩
  | cons e es ih =>
      have hi := hI s e hC.1 h0
      rw [always_cons]
      constructor
      · rintro ⟨_, h⟩
        have hq' : Q (step s e) := h [] List.nil_prefix
        exact ⟨(hstep s e h0 hq).mp hq', (ih _ hC.2 hi hq').mp h⟩
      · rintro ⟨hp, h⟩
        have hq' : Q (step s e) := (hstep s e h0 hq).mpr hp
        exact ⟨hq, (ih _ hC.2 hi hq').mpr h⟩

theorem allSteps_true (step : σ → ε → σ) (s : σ) (es : List ε) :
    AllSteps step (fun _ _ => True) s es := by
  induction es generalizing s with
  | nil => trivial
  | cons e es ih => exact ⟨trivial, ih _⟩

/-- The exact rule. `I` is kept by every step; from a state with `I` and `Q`, a step keeps
    `Q` exactly when it meets `P`. -/
theorem always_iff_allSteps {step : σ → ε → σ} {P : σ → ε → Prop} {I Q : σ → Prop}
    (hI : ∀ s e, I s → I (step s e))
    (hstep : ∀ s e, I s → Q s → (Q (step s e) ↔ P s e)) (s : σ) (es : List ε)
    (h0 : I s) (hq : Q s) : Always step Q s es ↔ AllSteps step P s es :=
  always_iff_allSteps_of (fun s e _ => hI s e) hstep s es (allSteps_true step s es) h0 hq

end Lib.Trace
