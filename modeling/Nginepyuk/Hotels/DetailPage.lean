/-
  `lib/pages/detail_page.dart`: the state of a detail page.

  The page rebuilds on every snapshot of its document, and keeps the index that the carousel
  reported last. A new snapshot does not touch the index. So exactly one of the dots below the
  images stands for the current one as long as no snapshot shortens the list of photos to the
  current index or less, and this is exact (`one_dot_iff`).
-/
import Nginepyuk.Hotels.Documents
import Nginepyuk.Booking.Detail

namespace Nginepyuk.Hotels

open Lib.Trace Lib.Fields Nginepyuk.Booking

/-- `_DetailPageState`, with the latest snapshot that its `StreamBuilder` got, if any. The
    snapshot of a document that is not there has no data. -/
structure PageState where
  snapshot : Option (Option Doc)
  currentIndex : Nat
deriving Repr

/-- A new page. -/
def PageState.start : PageState := ⟨none, 0⟩

/-- What the page shows; nothing while it waits and when the document cannot be read. -/
def PageState.content (s : PageState) : Option DetailContent :=
  s.snapshot.bind fun data => (detailContent data).toOption

/-- A snapshot arrives, or the carousel reports the index of the image it turned to. -/
inductive PageEvent where
  | snapshot (data : Option Doc)
  | pageChanged (index : Nat)

def pageStep (s : PageState) : PageEvent → PageState
  | .snapshot data => { s with snapshot := some data }
  | .pageChanged index =>
      match s.content with
      | some p => if index < p.images.length then { s with currentIndex := index } else s
      | none => s

/-- The dots, one for each image: whether it is drawn as the current one. -/
def PageState.dots (s : PageState) : List Bool :=
  match s.content with
  | some p => p.images.mapIdx fun index _ => s.currentIndex == index
  | none => []

/-- `onTap` of the button Book Now: the page it pushes. -/
def PageState.bookOnTap (s : PageState) (docId : String) : Option BookingDetail :=
  s.content.map fun p => ⟨docId, p.title, p.price, p.photo⟩

theorem bookOnTap_eq_some {s : PageState} {docId : String} {b : BookingDetail} :
    s.bookOnTap docId = some b ↔
      ∃ p, s.content = some p ∧ ⟨docId, p.title, p.price, p.photo⟩ = b :=
  Option.map_eq_some_iff

/-! ## One dot -/

/-- A page that shows its document draws exactly one dot as the current one. -/
def OneDot (s : PageState) : Prop := ∀ p ∈ s.content, s.dots.count true = 1

/-- A snapshot that can be shown has more photos than the current index. -/
def KeepsIndex (s : PageState) : PageEvent → Prop
  | .snapshot data => ∀ p, detailContent data = .ok p → s.currentIndex < p.images.length
  | .pageChanged _ => True

theorem count_mapIdx_eq (l : List String) (k : Nat) :
    (l.mapIdx fun index _ => k == index).count true = if k < l.length then 1 else 0 := by
  induction l generalizing k with
  | nil => rfl
  | cons a l ih =>
      rw [List.mapIdx_cons]
      cases k with
      | zero =>
          have hrest : (l.mapIdx fun index _ => (0 : Nat) == index + 1).count true = 0 := by
            rw [List.count_eq_zero, List.mem_mapIdx]
            rintro ⟨i, _, hi⟩
            exact nomatch hi
          rw [List.count_cons, hrest]
          simp
      | succ k =>
          have htail : (fun index (_ : String) => k + 1 == index + 1) =
              fun index _ => k == index := by
            funext index _
            simp
          rw [htail, List.count_cons_of_ne (by simp), ih]
          simp

theorem oneDot_iff (s : PageState) :
    OneDot s ↔ ∀ p ∈ s.content, s.currentIndex < p.images.length := by
  unfold OneDot PageState.dots
  cases hc : s.content with
  | none => simp
  | some p =>
      have hcount := count_mapIdx_eq p.images s.currentIndex
      simp only [Option.mem_def, Option.some.injEq, forall_eq', hcount]
      split <;> simp [*]

theorem oneDot_step_iff (s : PageState) (e : PageEvent) (h : OneDot s) :
    OneDot (pageStep s e) ↔ KeepsIndex s e := by
  cases e with
  | snapshot data =>
      rw [oneDot_iff]
      show (∀ p ∈ (detailContent data).toOption, _) ↔ _
      cases hd : detailContent data with
      | error err => simp [KeepsIndex, hd, Except.toOption, pageStep]
      | ok p => simp [KeepsIndex, hd, Except.toOption, pageStep]
  | pageChanged index =>
      refine iff_of_true ?_ trivial
      simp only [pageStep]
      split
      · next p hp =>
          split
          · next hlt =>
              rw [oneDot_iff]
              intro p' hp'
              have hsame : p' = p := Option.some.inj (hp'.symm.trans hp)
              rw [hsame]
              exact hlt
          · exact h
      · exact h

/-- **One dot.** All along a run of snapshots and turns of the carousel a page that shows its
    document draws exactly one dot as the current one, if and only if no snapshot of the run
    has so few photos that the current index is not among them. -/
theorem one_dot_iff (es : List PageEvent) :
    Always pageStep OneDot PageState.start es ↔
      AllSteps pageStep KeepsIndex PageState.start es := by
  refine always_iff_allSteps (I := fun _ => True) (fun _ _ _ => trivial) ?_ _ es trivial ?_
  · intro s e _ h
    exact oneDot_step_iff s e h
  · intro p hp
    exact nomatch hp

end Nginepyuk.Hotels
