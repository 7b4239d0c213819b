/-
  Texts made of words with a separator between them, over any alphabet.

  * `replaceRuns sep`: every run of separators is replaced by one, by a reader that takes a
    character at a time; `fuse sep` says the same through `List.destutter`
    (`replaceRuns_eq_fuse`).
  * Splitting into words and joining words commute with a map on the characters that keeps the
    separator apart from the rest (`splitOn_map`, `map_intercalate`).
-/
import Mathlib.Data.List.Destutter
import Mathlib.Data.List.Chain

namespace Lib.Words

variable {α : Type}

/-! ## Runs of separators -/

/-- The text with every run of separators replaced by one; `inRun` says that the character
    before was a separator. -/
def replaceRuns [DecidableEq α] (sep : α) : Bool → List α → List α
  | _, [] => []
  | inRun, c :: cs =>
      if c = sep then
        if inRun then replaceRuns sep true cs else sep :: replaceRuns sep true cs
      else c :: replaceRuns sep false cs

/-- Two characters that may stand side by side: not both of them separators. -/
def Apart (sep : α) (a b : α) : Prop := a ≠ sep ∨ b ≠ sep

instance [DecidableEq α] (sep : α) : DecidableRel (Apart sep) :=
  fun _ _ => inferInstanceAs (Decidable (_ ∨ _))

/-- No two separators are adjacent. -/
def NoAdjacent (sep : α) (l : List α) : Prop := l.IsChain (Apart sep)

/-- Of every run of separators only the first stays. -/
def fuse [DecidableEq α] (sep : α) (l : List α) : List α := l.destutter (Apart sep)

theorem noAdjacent_fuse [DecidableEq α] (sep : α) (l : List α) : NoAdjacent sep (fuse sep l) :=
  List.isChain_destutter _ l

theorem fuse_of_noAdjacent [DecidableEq α] {sep : α} {l : List α} (h : NoAdjacent sep l) :
    fuse sep l = l :=
  List.destutter_of_isChain _ l h

/-- The reader after the character `a` leaves what `destutter` leaves behind `a`. -/
theorem destutter'_eq_replaceRuns [DecidableEq α] (sep a : α) (l : List α) :
    l.destutter' (Apart sep) a = a :: replaceRuns sep (decide (a = sep)) l := by
  induction l generalizing a with
  | nil => rfl
  | cons c l ih =>
      by_cases hc : c = sep
      · by_cases ha : a = sep
        · have hnot : ¬ Apart sep a c := fun h => h.elim (fun h => h ha) (fun h => h hc)
          rw [List.destutter'_cons_neg _ hnot, ih]
          simp only [replaceRuns, if_pos hc, decide_eq_true ha, if_true]
        · have hapart : Apart sep a c := Or.inl ha
          rw [List.destutter'_cons_pos _ hapart, ih]
          simp only [replaceRuns, if_pos hc, decide_eq_false ha, Bool.false_eq_true, if_false]
          rw [decide_eq_true hc, hc]
      · have hapart : Apart sep a c := Or.inr hc
        rw [List.destutter'_cons_pos _ hapart, ih]
        simp only [replaceRuns, if_neg hc, decide_eq_false hc]

theorem replaceRuns_eq_fuse [DecidableEq α] (sep : α) (l : List α) :
    replaceRuns sep false l = fuse sep l := by
  cases l with
  | nil => rfl
  | cons c l =>
      unfold fuse
      rw [List.destutter_cons', destutter'_eq_replaceRuns]
      by_cases hc : c = sep
      · simp only [replaceRuns, if_pos hc, Bool.false_eq_true, if_false]
        rw [decide_eq_true hc, hc]
      · simp only [replaceRuns, if_neg hc, decide_eq_false hc]

/-! ## Maps on the characters -/

section Map

variable {sep : α} {f : α → α}

theorem noAdjacent_map (hf : ∀ c, f c = sep ↔ c = sep) (l : List α) :
    NoAdjacent sep (l.map f) ↔ NoAdjacent sep l := by
  unfold NoAdjacent Apart
  rw [List.isChain_map]
  simp only [ne_eq, hf]

theorem splitOn_map [DecidableEq α] (hf : ∀ c, f c = sep ↔ c = sep) (l : List α) :
    (l.map f).splitOn sep = (l.splitOn sep).map (List.map f) := by
  induction l with
  | nil => rfl
  | cons c l ih =>
      rw [List.map_cons, List.splitOn_cons_eq_if_modifyHead, List.splitOn_cons_eq_if_modifyHead, ih]
      by_cases hc : c = sep
      · rw [if_pos (beq_iff_eq.mpr ((hf c).mpr hc)), if_pos (beq_iff_eq.mpr hc)]
        rfl
      · rw [if_neg (by simpa [hf] using hc), if_neg (by simpa using hc)]
        cases l.splitOn sep <;> rfl

theorem map_intercalate (hsep : f sep = sep) (ws : List (List α)) :
    ([sep].intercalate ws).map f = [sep].intercalate (ws.map (List.map f)) := by
  induction ws with
  | nil => rfl
  | cons w ws ih =>
      cases ws with
      | nil => simp
      | cons v ws =>
          rw [List.intercalate_cons_cons, List.map_append, List.map_append, ih]
          simp [List.intercalate_cons_cons, hsep]

end Map

end Lib.Words
