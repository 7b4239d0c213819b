/-
  One machine followed by another.

  `abs` shows a state of the machine `step` as a state of the machine `astep`, and `emit s e`
  lists the events of `astep` that the step `e` from `s` amounts to: none, one or several. If
  every step does, `abs` takes every run of `step` to the run of `astep` on the events that it
  emits (`abs_run`). The rule is stated under an invariant of `step`, so that states that are
  not reached need not be followed.
-/
import Nginepyuk.Lib.Trace

namespace Lib.Trace

universe u v w x

variable {σ : Type u} {ε : Type v} {τ : Type w} {δ : Type x}

theorem run_append (step : σ → ε → σ) (s : σ) (es es' : List ε) :
    run step s (es ++ es') = run step (run step s es) es' :=
  List.foldl_append

/-- The events that a run emits. -/
def emitted (step : σ → ε → σ) (emit : σ → ε → List δ) : σ → List ε → List δ
  | _, [] => []
  | s, e :: es => emit s e ++ emitted step emit (step s e) es

theorem emitted_concat (step : σ → ε → σ) (emit : σ → ε → List δ) (s : σ) (es : List ε) (e : ε) :
    emitted step emit s (es ++ [e]) = emitted step emit s es ++ emit (run step s es) e := by
  induction es generalizing s with
  | nil => exact List.append_nil _
  | cons a es ih =>
      show emit s a ++ emitted step emit (step s a) (es ++ [e]) = _
      rw [ih (step s a), ← List.append_assoc]
      rfl

section Follow

variable {step : σ → ε → σ} {astep : τ → δ → τ} {abs : σ → τ} {emit : σ → ε → List δ}
  {I : σ → Prop}

/-- A step of the one machine is a run of the other. -/
def Follows (step : σ → ε → σ) (astep : τ → δ → τ) (abs : σ → τ) (emit : σ → ε → List δ)
    (I : σ → Prop) : Prop :=
  ∀ s e, I s → abs (step s e) = run astep (abs s) (emit s e)

/-- If every step is followed, every run is. -/
theorem abs_run (hI : ∀ s e, I s → I (step s e)) (h : Follows step astep abs emit I) (s : σ)
    (es : List ε) (hs : I s) :
    abs (run step s es) = run astep (abs s) (emitted step emit s es) := by
  induction es generalizing s with
  | nil => rfl
  | cons e es ih =>
      rw [run_cons, ih _ (hI s e hs), h s e hs, emitted, run_append]

/-- A machine whose steps may fail, on the states that show the machine `step`: if no step from
    such a state fails, no run does. -/
theorem foldlM_abs {κ : Type} {fstep : τ → ε → Except κ τ} (hI : ∀ s e, I s → I (step s e))
    (h : ∀ s e, I s → fstep (abs s) e = .ok (abs (step s e))) (s : σ) (es : List ε) (hs : I s) :
    es.foldlM fstep (abs s) = .ok (abs (run step s es)) := by
  induction es generalizing s with
  | nil => rfl
  | cons e es ih =>
      rw [List.foldlM_cons, h s e hs]
      exact ih _ (hI s e hs)

end Follow

end Lib.Trace
