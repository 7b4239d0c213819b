/-
  `Searching`, the search delegate of `lib/pages/home/search_page.dart`, and the calls of
  `saveSearch` that it starts.

  `buildResults` calls `saveSearch` and does not wait for it. A call reads the key
  `searchingList`, initialises it with the empty list if it is absent and reads it again, puts
  the query of the delegate in front of the list, and writes it back. Between its awaits the
  other calls go on. A storage operation takes effect at one moment (`storage i`) and its
  result reaches the call at a later one (`resume i`); `query` is read at the second.

  `submitted` and `finalWrites` are not in the source. They record the queries whose results
  were opened and the calls that wrote the list back, each latest first.
-/
import Nginepyuk.Lib.Trace
import Nginepyuk.Lib.Json

namespace Nginepyuk.Search

open Lib.Trace Lib.Json

/-- What the search page shows below the field. -/
inductive SearchBody where
  | suggestions
  | results
deriving DecidableEq, Repr

/-- Where a call of `saveSearch` is. In `reading`, `initialising`, `rereading` and `writing` a
    storage operation is under way, in `read` and `reread` the value that it returned. The
    call has inserted `item` by `writing` and ends as `done`; it is `failed` when
    `stringOfItems!` or `jsonDecode` throws. -/
inductive Phase where
  | reading
  | read (stringOfItems : Option String)
  | initialising
  | rereading
  | reread (stringOfItems : Option String)
  | writing (item value : String)
  | done (item : String)
  | failed
deriving DecidableEq, Repr

/-- A call, with the query whose results were built when it started. -/
structure Call where
  query : String
  phase : Phase
deriving DecidableEq, Repr

/-- The delegate, the value under `searchingList`, and the calls, oldest first. -/
structure Delegate where
  query : String
  currentBody : SearchBody
  submitted : List String
  storage : Option String
  calls : List Call
  finalWrites : List Nat
deriving DecidableEq, Repr

/-- The search page opened, with no key stored. -/
def Delegate.start : Delegate := ⟨"", .suggestions, [], none, [], []⟩

/-! ## `saveSearch` -/

/-- `insert(0, query)`, after `removeLast` on a list of six. -/
def insertQuery (listOfItems : List String) (query : String) : List String :=
  if listOfItems.length = 6 then query :: listOfItems.dropLast else query :: listOfItems

/-- From `jsonDecode` to the last `storage.write`. -/
def rewrite (stringOfItems query : String) : Phase :=
  match jsonDecode stringOfItems with
  | some listOfItems => .writing query (jsonEncode (insertQuery listOfItems query))
  | none => .failed

/-- The call goes on with the value it read. -/
def Phase.resume (query : String) : Phase → Phase
  | .read none => .initialising
  | .read (some s) => rewrite s query
  | .reread none => .failed
  | .reread (some s) => rewrite s query
  | p => p

/-- The storage operation under way takes effect. -/
def Phase.operate (storage : Option String) : Phase → Phase
  | .reading => .read storage
  | .initialising => .rereading
  | .rereading => .reread storage
  | .writing item _ => .done item
  | p => p

/-- The value under the key after the operation. -/
def Phase.stored (storage : Option String) : Phase → Option String
  | .initialising => some (jsonEncode [])
  | .writing _ value => some value
  | _ => storage

def Phase.isWriting : Phase → Bool
  | .writing _ _ => true
  | _ => false

def Phase.isDone : Phase → Bool
  | .done _ => true
  | _ => false

/-! ## The delegate -/

def Delegate.saveSearch (s : Delegate) : Delegate :=
  { s with calls := s.calls ++ [⟨s.query, .reading⟩] }

/-- A build of the search page. Only `buildResults` calls `saveSearch`. -/
def Delegate.build (s : Delegate) : Delegate :=
  match s.currentBody with
  | .suggestions => s
  | .results => s.saveSearch

/-- `showResults`, with the query that is shown. -/
def Delegate.showResults (s : Delegate) (query : String) : Delegate :=
  match s.currentBody with
  | .suggestions =>
      { s with query := query, currentBody := .results, submitted := query :: s.submitted }.build
  | .results => s

def Delegate.setPhase (s : Delegate) (i : Nat) (p : Phase) : Delegate :=
  { s with calls := s.calls.modify i fun c => { c with phase := p } }

def Delegate.operate (s : Delegate) (i : Nat) (p : Phase) : Delegate :=
  { s.setPhase i (p.operate s.storage) with
      storage := p.stored s.storage
      finalWrites := if p.isWriting then i :: s.finalWrites else s.finalWrites }

/-- The steps. `submit`: the field is submitted. `choose`: a suggestion is tapped. `rebuild`: the
    framework rebuilds the page. `clear`: the clear button. `edit`: any other change of the
    query. `focus`: the field is tapped, and the suggestions are shown again. -/
inductive SearchEvent where
  | submit
  | choose (title : String)
  | rebuild
  | clear
  | edit (query : String)
  | focus
  | storage (i : Nat)
  | resume (i : Nat)
deriving DecidableEq, Repr

def searchStep (s : Delegate) : SearchEvent → Delegate
  | .submit => s.showResults s.query
  | .choose title => s.showResults title
  | .rebuild => s.build
  | .clear => { s with query := "" }.build
  | .edit query => { s with query := query }.build
  | .focus => { s with currentBody := .suggestions }
  | .storage i =>
      match s.calls[i]? with
      | some c => s.operate i c.phase
      | none => s
  | .resume i =>
      match s.calls[i]? with
      | some c => s.setPhase i (c.phase.resume s.query)
      | none => s

/-! ## What a step does to the calls -/

section Calls

variable {s : Delegate} {i j : Nat} {c d : Call} {p : Phase}

theorem setPhase_self (hc : s.calls[i]? = some c) :
    (s.setPhase i p).calls[i]? = some { c with phase := p } := by
  rw [Delegate.setPhase, List.getElem?_modify_eq, hc]
  rfl

theorem setPhase_ne (hij : j ≠ i) : (s.setPhase i p).calls[j]? = s.calls[j]? :=
  List.getElem?_modify_ne _ _ hij.symm

theorem setPhase_queries : (s.setPhase i p).calls.map Call.query = s.calls.map Call.query := by
  refine List.ext_getElem? fun j => ?_
  rw [List.getElem?_map, List.getElem?_map, Delegate.setPhase, List.getElem?_modify]
  cases s.calls[j]? with
  | none => rfl
  | some c =>
      show (some (if i = j then _ else c)).map Call.query = _
      split <;> rfl

theorem setPhase_length : (s.setPhase i p).calls.length = s.calls.length :=
  List.length_modify _ _ _

/-- A call after the phase of call `i` was set is call `i` or unchanged. -/
theorem setPhase_cases (hc : s.calls[i]? = some c) (hd : (s.setPhase i p).calls[j]? = some d) :
    (j = i ∧ d = { c with phase := p }) ∨ (j ≠ i ∧ s.calls[j]? = some d) := by
  by_cases hij : j = i
  · rw [hij, setPhase_self hc] at hd
    exact Or.inl ⟨hij, (Option.some.inj hd).symm⟩
  · rw [setPhase_ne hij] at hd
    exact Or.inr ⟨hij, hd⟩

theorem saveSearch_cases (hd : s.saveSearch.calls[j]? = some d) :
    s.calls[j]? = some d ∨ (j = s.calls.length ∧ d = ⟨s.query, .reading⟩) := by
  rw [Delegate.saveSearch, List.getElem?_append] at hd
  split at hd
  · exact Or.inl hd
  · next hj =>
      cases hk : j - s.calls.length with
      | zero =>
          rw [hk] at hd
          exact Or.inr ⟨by omega, (Option.some.inj hd).symm⟩
      | succ k =>
          rw [hk] at hd
          exact nomatch hd

theorem saveSearch_old (hc : s.calls[i]? = some c) : s.saveSearch.calls[i]? = some c := by
  rw [Delegate.saveSearch, List.getElem?_append_left (List.getElem?_eq_some_iff.mp hc).1]
  exact hc

end Calls

/-- What a step can do. -/
inductive SearchMove (s : Delegate) : SearchEvent → Delegate → Prop where
  /-- The page and the query change, no call is started. -/
  | quiet {e : SearchEvent} (query : String) (currentBody : SearchBody) :
      SearchMove s e { s with query := query, currentBody := currentBody }
  /-- Results are opened, with one call for them. -/
  | opened {e : SearchEvent} (query : String) :
      SearchMove s e
        { s with query := query, currentBody := .results,
                 submitted := query :: s.submitted }.saveSearch
  /-- Results that are shown are built once more. -/
  | rebuilt {e : SearchEvent} (query : String) (hbody : s.currentBody = .results)
      (he : e = .rebuild ∨ e = .clear ∨ e = .edit query) :
      SearchMove s e { s with query := query }.saveSearch
  | operated (i : Nat) (c : Call) (hc : s.calls[i]? = some c) :
      SearchMove s (.storage i) (s.operate i c.phase)
  | resumed (i : Nat) (c : Call) (hc : s.calls[i]? = some c) :
      SearchMove s (.resume i) (s.setPhase i (c.phase.resume s.query))

theorem showResults_move (s : Delegate) (e : SearchEvent) (query : String) :
    SearchMove s e (s.showResults query) := by
  unfold Delegate.showResults
  split
  · exact .opened query
  · exact .quiet s.query s.currentBody

theorem build_move (s : Delegate) (e : SearchEvent) (query : String)
    (he : e = .rebuild ∨ e = .clear ∨ e = .edit query) :
    SearchMove s e { s with query := query }.build := by
  unfold Delegate.build
  split
  · exact .quiet query s.currentBody
  · next hbody => exact .rebuilt query hbody he

theorem searchStep_move (s : Delegate) (e : SearchEvent) : SearchMove s e (searchStep s e) := by
  cases e with
  | submit => exact showResults_move s _ s.query
  | choose title => exact showResults_move s _ title
  | rebuild => exact build_move s _ s.query (Or.inl rfl)
  | clear => exact build_move s _ "" (Or.inr (Or.inl rfl))
  | edit query => exact build_move s _ query (Or.inr (Or.inr rfl))
  | focus => exact .quiet s.query .suggestions
  | storage i =>
      simp only [searchStep]
      split
      · next c hc => exact .operated i c hc
      · exact .quiet s.query s.currentBody
  | resume i =>
      simp only [searchStep]
      split
      · next c hc => exact .resumed i c hc
      · exact .quiet s.query s.currentBody

end Nginepyuk.Search
