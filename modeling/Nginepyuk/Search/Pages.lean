/-
  Any number of search pages, one after the other, over one key of the storage.

  Every `showSearch` has a new `Searching`, with an empty query. Closing the page does not stop
  the calls of `saveSearch` that it started; they go on with the query its delegate had last,
  while the next page starts calls of its own. `SearchPages` keeps the query of every delegate,
  oldest first; the latest is the one on the screen while `isOpen`.

  A run of the pages is a run of a single delegate that shows its suggestions in between
  (`follows_delegate`), so the list that is stored is well formed here too, with calls of
  different pages overlapping in any order (`pages_storage_ok`). Every entry of it is a text that
  the field of some page held at some moment (`stored_was_typed`).
-/
import Mathlib.Data.List.Induction
import Nginepyuk.Lib.Simulation
import Nginepyuk.Search.Overlap

namespace Nginepyuk.Search

open Lib.Trace Lib.Json

/-- The delegates, the value under `searchingList`, and the calls, oldest first, each with the
    number of its delegate. -/
structure SearchPages where
  queries : List String
  currentBody : SearchBody
  isOpen : Bool
  storage : Option String
  calls : List (Nat × Call)
  finalWrites : List Nat
deriving DecidableEq, Repr

def SearchPages.start : SearchPages := ⟨[], .suggestions, false, none, [], []⟩

/-- The query of a delegate. -/
def SearchPages.query (s : SearchPages) (k : Nat) : String := s.queries[k]?.getD ""

/-- The number of the latest delegate. -/
def SearchPages.latest (s : SearchPages) : Nat := s.queries.length - 1

def SearchPages.setQuery (s : SearchPages) (query : String) : SearchPages :=
  { s with queries := s.queries.modify s.latest fun _ => query }

/-- `saveSearch` of the page on the screen. -/
def SearchPages.saveSearch (s : SearchPages) : SearchPages :=
  { s with calls := s.calls ++ [(s.latest, ⟨s.query s.latest, .reading⟩)] }

def SearchPages.build (s : SearchPages) : SearchPages :=
  match s.currentBody with
  | .suggestions => s
  | .results => s.saveSearch

def SearchPages.showResults (s : SearchPages) : SearchPages :=
  match s.currentBody with
  | .suggestions => { s with currentBody := .results }.build
  | .results => s

def SearchPages.setPhase (s : SearchPages) (i : Nat) (p : Phase) : SearchPages :=
  { s with calls := s.calls.modify i fun c => (c.1, { c.2 with phase := p }) }

def SearchPages.operate (s : SearchPages) (i : Nat) (p : Phase) : SearchPages :=
  { s.setPhase i (p.operate s.storage) with
      storage := p.stored s.storage
      finalWrites := if p.isWriting then i :: s.finalWrites else s.finalWrites }

/-- The steps: those of the page on the screen, those of the calls, and a page is opened or
    closed. -/
inductive PagesEvent where
  | showSearch
  | close
  | page (e : SearchEvent)
deriving DecidableEq, Repr

/-- An event of the page on the screen. -/
def SearchPages.onPage (s : SearchPages) : SearchEvent → SearchPages
  | .submit => s.showResults
  | .choose title =>
      match s.currentBody with
      | .suggestions => (s.setQuery title).showResults
      | .results => s
  | .rebuild => s.build
  | .clear => (s.setQuery "").build
  | .edit query => (s.setQuery query).build
  | .focus => { s with currentBody := .suggestions }
  | .storage _ | .resume _ => s

def pagesStep (s : SearchPages) : PagesEvent → SearchPages
  | .showSearch =>
      if s.isOpen then s
      else { s with queries := s.queries ++ [""], currentBody := .suggestions, isOpen := true }
  | .close => { s with isOpen := false }
  | .page (.storage i) =>
      match s.calls[i]? with
      | some c => s.operate i c.2.phase
      | none => s
  | .page (.resume i) =>
      match s.calls[i]? with
      | some c => s.setPhase i (c.2.phase.resume (s.query c.1))
      | none => s
  | .page e => if s.isOpen then s.onPage e else s

/-! ## What a step can do -/

/-- The queries after an event of the page on the screen. -/
inductive Typed (s : SearchPages) : List String → Prop where
  | same : Typed s s.queries
  | set (query : String) : Typed s (s.queries.modify s.latest fun _ => query)

/-- What an event of the pages can do: a page is opened; or the one on the screen changes, or is
    closed, and at most one call is started. -/
inductive PageMove (s : SearchPages) : SearchPages → Prop where
  | opened :
      PageMove s { s with queries := s.queries ++ [""], currentBody := .suggestions,
                          isOpen := true }
  | quiet (queries : List String) (currentBody : SearchBody) (isOpen : Bool)
      (ht : Typed s queries) (hopen : isOpen = true → s.isOpen = true) :
      PageMove s { s with queries := queries, currentBody := currentBody, isOpen := isOpen }
  | started (queries : List String) (currentBody : SearchBody) (ht : Typed s queries)
      (hopen : s.isOpen = true) :
      PageMove s { s with queries := queries, currentBody := currentBody }.saveSearch

theorem PageMove.stay (s : SearchPages) : PageMove s s := .quiet _ _ _ .same fun h => h

theorem build_pageMove (s : SearchPages) (hopen : s.isOpen = true) {queries : List String}
    (ht : Typed s queries) (currentBody : SearchBody) :
    PageMove s { s with queries := queries, currentBody := currentBody }.build := by
  unfold SearchPages.build
  cases currentBody with
  | suggestions => exact .quiet queries _ _ ht fun _ => hopen
  | results => exact .started queries _ ht hopen

theorem showResults_pageMove (s : SearchPages) (hopen : s.isOpen = true) {queries : List String}
    (ht : Typed s queries) : PageMove s { s with queries := queries }.showResults := by
  unfold SearchPages.showResults
  split
  · exact build_pageMove s hopen ht .results
  · exact .quiet queries _ _ ht fun _ => hopen

theorem onPage_move (s : SearchPages) (hopen : s.isOpen = true) (e : SearchEvent) :
    PageMove s (s.onPage e) := by
  cases e with
  | submit => exact showResults_pageMove s hopen .same
  | choose title =>
      simp only [SearchPages.onPage]
      split
      · exact showResults_pageMove s hopen (.set title)
      · exact .stay s
  | rebuild => exact build_pageMove s hopen .same s.currentBody
  | clear => exact build_pageMove s hopen (.set "") s.currentBody
  | edit query => exact build_pageMove s hopen (.set query) s.currentBody
  | focus => exact .quiet _ _ _ .same fun h => h
  | storage i => exact .stay s
  | resume i => exact .stay s

/-- The events of the calls. -/
def PagesEvent.ofCall : PagesEvent → Bool
  | .page (.storage _) | .page (.resume _) => true
  | _ => false

theorem pagesStep_move (s : SearchPages) {e : PagesEvent} (he : e.ofCall = false) :
    PageMove s (pagesStep s e) := by
  have hpage : ∀ e, PageMove s (if s.isOpen then s.onPage e else s) := by
    intro e
    split
    · next hopen => exact onPage_move s hopen e
    · exact .stay s
  cases e with
  | showSearch =>
      simp only [pagesStep]
      split
      · exact .stay s
      · exact .opened
  | close => exact .quiet _ _ _ .same fun h => nomatch h
  | page e =>
      cases e with
      | storage i => exact nomatch he
      | resume i => exact nomatch he
      | submit => exact hpage .submit
      | choose title => exact hpage (.choose title)
      | rebuild => exact hpage .rebuild
      | clear => exact hpage .clear
      | edit query => exact hpage (.edit query)
      | focus => exact hpage .focus

/-! ## One delegate -/

/-- The single delegate that follows the pages. Between two events it shows its suggestions with
    an empty query. -/
def SearchPages.delegate (s : SearchPages) : Delegate where
  query := ""
  currentBody := .suggestions
  submitted := (s.calls.map fun c => c.2.query).reverse
  storage := s.storage
  calls := s.calls.map Prod.snd
  finalWrites := s.finalWrites

/-- A call that a page starts is one for a query that is typed and submitted. -/
def submission (c : Nat × Call) : List SearchEvent := [.edit c.2.query, .submit, .focus, .edit ""]

/-- What an event of the pages amounts to for the delegate. -/
def delegateEvents (s : SearchPages) : PagesEvent → List SearchEvent
  | .page (.storage i) => [.storage i]
  | .page (.resume i) =>
      match s.calls[i]? with
      | some c => [.edit (s.query c.1), .resume i, .edit ""]
      | none => []
  | e => ((pagesStep s e).calls.drop s.calls.length).flatMap submission

theorem delegate_setPhase (s : SearchPages) (i : Nat) (p : Phase) :
    (s.setPhase i p).delegate = s.delegate.setPhase i p := by
  have hcalls : (s.calls.modify i fun c => (c.1, { c.2 with phase := p })).map Prod.snd =
      (s.calls.map Prod.snd).modify i fun c => { c with phase := p } := by
    refine List.ext_getElem? fun k => ?_
    simp only [List.getElem?_map, List.getElem?_modify]
    cases s.calls[k]? with
    | none => rfl
    | some c =>
        simp only [Option.map_eq_map, Option.map_some]
        split <;> rfl
  have hqueries : ((s.calls.modify i fun c => (c.1, { c.2 with phase := p })).map
      fun c => c.2.query) = s.calls.map fun c => c.2.query := by
    refine List.ext_getElem? fun k => ?_
    simp only [List.getElem?_map, List.getElem?_modify]
    cases s.calls[k]? with
    | none => rfl
    | some c =>
        simp only [Option.map_eq_map, Option.map_some]
        split <;> rfl
  simp only [SearchPages.delegate, SearchPages.setPhase, Delegate.setPhase, hcalls, hqueries]

theorem delegate_operate (s : SearchPages) (i : Nat) (p : Phase) :
    (s.operate i p).delegate = s.delegate.operate i p := by
  have h := delegate_setPhase s i (p.operate s.storage)
  unfold SearchPages.operate Delegate.operate
  show { (s.setPhase i (p.operate s.storage)).delegate with
    storage := p.stored s.storage
    finalWrites := if p.isWriting then i :: s.finalWrites else s.finalWrites } = _
  rw [h]
  rfl

theorem delegate_page {s t : SearchPages} (hm : PageMove s t) :
    t.delegate = run searchStep s.delegate ((t.calls.drop s.calls.length).flatMap submission) := by
  cases hm with
  | opened =>
      rw [List.drop_length]
      rfl
  | quiet queries currentBody isOpen ht hopen =>
      rw [List.drop_length]
      rfl
  | started queries currentBody ht hopen =>
      rw [SearchPages.saveSearch, List.drop_left]
      simp only [SearchPages.delegate, List.map_append, List.reverse_append]
      rfl

/-- The query of the call's own page is typed, and taken out when the call has gone on. -/
theorem delegate_resume {s : SearchPages} {i : Nat} {c : Nat × Call}
    (hc : s.calls[i]? = some c) :
    run searchStep s.delegate [.edit (s.query c.1), .resume i, .edit ""] =
      s.delegate.setPhase i (c.2.phase.resume (s.query c.1)) := by
  have hget : s.delegate.calls[i]? = some c.2 := by
    rw [SearchPages.delegate, List.getElem?_map, hc]
    rfl
  have hresume : searchStep { s.delegate with query := s.query c.1 } (.resume i) =
      { s.delegate with query := s.query c.1 }.setPhase i
        (c.2.phase.resume (s.query c.1)) := by
    simp only [searchStep, hget]
  show searchStep (searchStep { s.delegate with query := s.query c.1 } (.resume i)) (.edit "") = _
  rw [hresume]
  rfl

/-- Every step of the pages is followed. -/
theorem follows_delegate :
    Follows pagesStep searchStep SearchPages.delegate delegateEvents fun _ => True := by
  intro s e _
  by_cases he : e.ofCall = false
  · have hevents : delegateEvents s e =
        ((pagesStep s e).calls.drop s.calls.length).flatMap submission := by
      cases e with
      | showSearch => rfl
      | close => rfl
      | page e =>
          cases e with
          | storage i => exact nomatch he
          | resume i => exact nomatch he
          | _ => rfl
    rw [hevents]
    exact delegate_page (pagesStep_move s he)
  · cases e with
    | showSearch => exact absurd rfl he
    | close => exact absurd rfl he
    | page e =>
        cases e with
        | storage i =>
            show (pagesStep s (.page (.storage i))).delegate = searchStep s.delegate (.storage i)
            simp only [pagesStep, searchStep, SearchPages.delegate, List.getElem?_map]
            cases hc : s.calls[i]? with
            | none => rfl
            | some c => exact delegate_operate s i c.2.phase
        | resume i =>
            simp only [pagesStep, delegateEvents]
            cases hc : s.calls[i]? with
            | none => rfl
            | some c =>
                rw [delegate_setPhase]
                exact (delegate_resume hc).symm
        | _ => exact absurd rfl he

/-- **The stored list under any number of search pages.** In every state of every run the key is
    absent or holds the encoding of a list of at most six entries, inserted by distinct calls and
    in the order of their final writes, the latest first; and no call fails. The calls may be of
    different pages, closed ones included, and overlap in any order. -/
theorem pages_storage_ok (es : List PagesEvent) :
    Always pagesStep (fun s => StorageOk s.delegate) SearchPages.start es := by
  intro pre _
  show StorageOk (run pagesStep SearchPages.start pre).delegate
  rw [abs_run (fun _ _ _ => trivial) follows_delegate _ pre trivial]
  refine storageOk_of_invariant _ (inv_run_all ?_ Delegate.start _ overlapInvariant_start)
  intro s e h
  exact overlapInvariant_move (searchStep_move s e) h

/-! ## Where the entries come from -/

/-- The encoding of texts with `P`. -/
def ListOf (P : String → Prop) (value : String) : Prop :=
  ∃ items, value = jsonEncode items ∧ ∀ item ∈ items, P item

/-- What a call has in its hands. -/
def PhaseOf (P : String → Prop) : Phase → Prop
  | .read (some value) | .reread (some value) => ListOf P value
  | .writing _ value => ListOf P value
  | _ => True

/-- The queries, the stored list and the lists in the hands of the calls have `P`, and every call
    is of a page that was opened. -/
structure EntriesInv (P : String → Prop) (s : SearchPages) : Prop where
  queries : ∀ query ∈ s.queries, P query
  opened : s.isOpen = true → s.queries ≠ []
  owners : ∀ c ∈ s.calls, c.1 < s.queries.length
  calls : ∀ c ∈ s.calls, PhaseOf P c.2.phase
  stored : ∀ value, s.storage = some value → ListOf P value

section Entries

variable {P Q : String → Prop}

theorem listOf_mono (hPQ : ∀ x, P x → Q x) {value : String} (h : ListOf P value) :
    ListOf Q value := by
  obtain ⟨items, hvalue, hitems⟩ := h
  exact ⟨items, hvalue, fun item hitem => hPQ item (hitems item hitem)⟩

theorem phaseOf_mono (hPQ : ∀ x, P x → Q x) : ∀ {p : Phase}, PhaseOf P p → PhaseOf Q p
  | .read (some _), h => listOf_mono hPQ h
  | .reread (some _), h => listOf_mono hPQ h
  | .writing _ _, h => listOf_mono hPQ h
  | .read none, _ | .reread none, _ | .reading, _ | .initialising, _ | .rereading, _ | .done _, _
  | .failed, _ => trivial

/-- The list that a call writes back. -/
theorem phaseOf_rewrite {value query : String} (h : ListOf P value) (hq : P query) :
    PhaseOf P (rewrite value query) := by
  obtain ⟨items, rfl, hitems⟩ := h
  simp only [rewrite, jsonDecode_jsonEncode]
  refine ⟨_, rfl, ?_⟩
  intro item hitem
  unfold insertQuery at hitem
  split at hitem
  · rcases List.mem_cons.mp hitem with rfl | hitem
    · exact hq
    · exact hitems item (List.dropLast_subset items hitem)
  · rcases List.mem_cons.mp hitem with rfl | hitem
    · exact hq
    · exact hitems item hitem

theorem phaseOf_resume {query : String} (hq : P query) : ∀ {p : Phase}, PhaseOf P p →
    PhaseOf P (p.resume query)
  | .read none, _ => trivial
  | .read (some _), h => phaseOf_rewrite h hq
  | .reread none, _ => trivial
  | .reread (some _), h => phaseOf_rewrite h hq
  | .reading, h | .initialising, h | .rereading, h | .writing _ _, h | .done _, h | .failed, h => h

theorem phaseOf_operate {storage : Option String}
    (hs : ∀ value, storage = some value → ListOf P value) {p : Phase} (h : PhaseOf P p) :
    PhaseOf P (p.operate storage) := by
  cases p with
  | reading =>
      cases storage with
      | none => trivial
      | some value => exact hs value rfl
  | rereading =>
      cases storage with
      | none => trivial
      | some value => exact hs value rfl
  | initialising => trivial
  | writing item value => trivial
  | read value => exact h
  | reread value => exact h
  | done item => trivial
  | failed => trivial

theorem listOf_stored {storage : Option String}
    (hs : ∀ value, storage = some value → ListOf P value) {p : Phase} (h : PhaseOf P p)
    (value : String) (hv : p.stored storage = some value) : ListOf P value := by
  cases p with
  | initialising =>
      rw [← Option.some.inj hv]
      exact ⟨[], rfl, fun _ hitem => nomatch hitem⟩
  | writing item new =>
      rw [← Option.some.inj hv]
      exact h
  | reading => exact hs value hv
  | read _ => exact hs value hv
  | rereading => exact hs value hv
  | reread _ => exact hs value hv
  | done item => exact hs value hv
  | failed => exact hs value hv

/-- A step of a call: only its phase changes. -/
theorem entriesInv_setPhase {s : SearchPages} {i : Nat} {p : Phase} (hp : PhaseOf P p)
    (h : EntriesInv P s) : EntriesInv P (s.setPhase i p) := by
  have hcalls : ∀ c ∈ (s.setPhase i p).calls,
      (∃ c' ∈ s.calls, c.1 = c'.1) ∧ PhaseOf P c.2.phase := by
    intro c hc
    obtain ⟨k, hk⟩ := List.mem_iff_getElem?.mp hc
    rw [SearchPages.setPhase, List.getElem?_modify] at hk
    cases hold : s.calls[k]? with
    | none =>
        rw [hold] at hk
        exact nomatch hk
    | some c' =>
        rw [hold] at hk
        have hmem := List.mem_of_getElem? hold
        obtain rfl := Option.some.inj hk
        simp only
        split
        · exact ⟨⟨c', hmem, rfl⟩, hp⟩
        · exact ⟨⟨c', hmem, rfl⟩, h.calls c' hmem⟩
  refine ⟨h.queries, h.opened, ?_, fun c hc => (hcalls c hc).2, h.stored⟩
  intro c hc
  obtain ⟨c', hmem, heq⟩ := (hcalls c hc).1
  rw [heq]
  exact h.owners c' hmem

theorem entriesInv_operate {s : SearchPages} {i : Nat} {c : Nat × Call} (hc : c ∈ s.calls)
    (h : EntriesInv P s) : EntriesInv P (s.operate i c.2.phase) := by
  have hset := entriesInv_setPhase (i := i) (phaseOf_operate h.stored (h.calls c hc)) h
  exact ⟨hset.queries, hset.opened, hset.owners, hset.calls,
    listOf_stored h.stored (h.calls c hc)⟩

/-- The query that a call goes on with is that of its own page. -/
theorem query_of_owner {s : SearchPages} {c : Nat × Call} (hc : c ∈ s.calls)
    (h : EntriesInv P s) : P (s.query c.1) := by
  have hlt := h.owners c hc
  refine h.queries _ ?_
  rw [SearchPages.query, List.getElem?_eq_getElem hlt]
  exact List.getElem_mem hlt

theorem length_typed {s : SearchPages} {queries : List String} (ht : Typed s queries) :
    queries.length = s.queries.length := by
  cases ht with
  | same => rfl
  | set query => exact List.length_modify _ _ _

theorem typed_ne_nil {s : SearchPages} {queries : List String} (ht : Typed s queries)
    (h : s.queries ≠ []) : queries ≠ [] := by
  have hlen := length_typed ht
  have hpos := List.length_pos_iff.mpr h
  exact List.length_pos_iff.mp (by omega)

/-- An event of the pages, with a property that the new queries have. -/
theorem entriesInv_page {s t : SearchPages} (hm : PageMove s t)
    (hqueries : ∀ query ∈ t.queries, P query) (h : EntriesInv P s) : EntriesInv P t := by
  cases hm with
  | opened =>
      refine ⟨hqueries, fun _ => ?_, fun c hc => ?_, h.calls, h.stored⟩
      · exact List.append_ne_nil_of_right_ne_nil _ (List.cons_ne_nil _ _)
      · show c.1 < (s.queries ++ [""]).length
        rw [List.length_append]
        exact Nat.lt_add_right _ (h.owners c hc)
  | quiet queries currentBody isOpen ht hopen =>
      refine ⟨hqueries, fun ho => typed_ne_nil ht (h.opened (hopen ho)), fun c hc => ?_, h.calls,
        h.stored⟩
      show c.1 < queries.length
      rw [length_typed ht]
      exact h.owners c hc
  | started queries currentBody ht hopen =>
      have hne := typed_ne_nil ht (h.opened hopen)
      have hpos := List.length_pos_iff.mpr hne
      refine ⟨hqueries, fun _ => hne, ?_, ?_, h.stored⟩
      · intro c hc
        show c.1 < queries.length
        rcases List.mem_append.mp hc with hc | hc
        · rw [length_typed ht]
          exact h.owners c hc
        · rw [List.mem_singleton.mp hc]
          exact Nat.sub_lt hpos Nat.one_pos
      · intro c hc
        rcases List.mem_append.mp hc with hc | hc
        · exact h.calls c hc
        · rw [List.mem_singleton.mp hc]
          trivial

theorem entriesInv_step {s : SearchPages} (e : PagesEvent)
    (hqueries : ∀ query ∈ (pagesStep s e).queries, P query) (h : EntriesInv P s) :
    EntriesInv P (pagesStep s e) := by
  by_cases he : e.ofCall = false
  · exact entriesInv_page (pagesStep_move s he) hqueries h
  · cases e with
    | showSearch => exact absurd rfl he
    | close => exact absurd rfl he
    | page e =>
        cases e with
        | storage i =>
            simp only [pagesStep]
            split
            · next c hc => exact entriesInv_operate (List.mem_of_getElem? hc) h
            · exact h
        | resume i =>
            simp only [pagesStep]
            split
            · next c hc =>
                have hmem := List.mem_of_getElem? hc
                have hphase := phaseOf_resume (query_of_owner hmem h) (h.calls c hmem)
                exact entriesInv_setPhase hphase h
            · exact h
        | _ => exact absurd rfl he

end Entries

/-- The text was the query of some page, at some moment of the run. -/
def TypedBy (es : List PagesEvent) (text : String) : Prop :=
  ∃ pre, pre <+: es ∧ text ∈ (run pagesStep SearchPages.start pre).queries

theorem entriesInv_run (es : List PagesEvent) :
    EntriesInv (TypedBy es) (run pagesStep SearchPages.start es) := by
  induction es using List.reverseRecOn with
  | nil =>
      exact ⟨fun _ hq => (nomatch hq), fun h => (nomatch h), fun _ hc => (nomatch hc),
        fun _ hc => (nomatch hc), fun _ hv => (nomatch hv)⟩
  | append_singleton es e ih =>
      have hmono : ∀ text, TypedBy es text → TypedBy (es ++ [e]) text := by
        rintro text ⟨pre, hpre, htext⟩
        exact ⟨pre, hpre.trans (List.prefix_append es [e]), htext⟩
      have hold : EntriesInv (TypedBy (es ++ [e])) (run pagesStep SearchPages.start es) :=
        ⟨fun q hq => hmono q (ih.queries q hq), ih.opened, ih.owners,
          fun c hc => phaseOf_mono hmono (ih.calls c hc),
          fun value hv => listOf_mono hmono (ih.stored value hv)⟩
      rw [run_concat]
      refine entriesInv_step e (fun query hq => ?_) hold
      refine ⟨es ++ [e], List.prefix_refl _, ?_⟩
      rw [run_concat]
      exact hq

/-- **What is stored was typed.** After every run of the search pages, with calls of different
    pages overlapping in any order, the key is absent or holds a list of which every entry was the
    query of some page at some moment of the run. -/
theorem stored_was_typed (es : List PagesEvent) :
    (run pagesStep SearchPages.start es).storage = none ∨
      ∃ items, (run pagesStep SearchPages.start es).storage = some (jsonEncode items) ∧
        ∀ item ∈ items, TypedBy es item := by
  cases hs : (run pagesStep SearchPages.start es).storage with
  | none => exact Or.inl rfl
  | some value =>
      obtain ⟨items, rfl, hitems⟩ := (entriesInv_run es).stored value hs
      exact Or.inr ⟨items, rfl, hitems⟩

end Nginepyuk.Search
