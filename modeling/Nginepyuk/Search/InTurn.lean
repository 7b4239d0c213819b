/-
  The stored list and the queries that were submitted.

  When the results that are shown are never built again, every submitted query has one call.
  When moreover the calls read the list in turn, each after the final writes of all earlier
  ones, the key is initialised before the first final write, and a call goes on with the query
  it was started for, then the stored list is that of the submitted queries, latest first and
  cut to six (`history_in_turn`). `rebuild_stores_twice` is the shortest way to break it: one
  rebuild of the results page stores the query a second time.
-/
import Nginepyuk.Search.SaveSearch

namespace Nginepyuk.Search

open Lib.Trace Lib.Json

/-- The list under the key; an absent key is the empty list. -/
def storedList : Option String → Option (List String)
  | none => some []
  | some value => jsonDecode value

/-- Once every call has completed, the stored list is the submitted queries, latest first, cut
    to the first six. -/
def HistoryKept (s : Delegate) : Prop :=
  (∀ c ∈ s.calls, c.phase.isDone = true) → storedList s.storage = some (s.submitted.take 6)

instance (s : Delegate) : Decidable (HistoryKept s) :=
  inferInstanceAs (Decidable ((∀ c ∈ _, _) → _))

/-- Every call started before call `i` has written the list back. -/
def EarlierWritten (s : Delegate) (i : Nat) : Prop := ∀ j < i, j ∈ s.finalWrites

instance (s : Delegate) (i : Nat) : Decidable (EarlierWritten s i) :=
  inferInstanceAs (Decidable (∀ j < i, _))

/-- The condition on a storage operation of call `i` in phase `p`. -/
def OperatesInTurn (s : Delegate) (i : Nat) : Phase → Prop
  | .reading => s.storage = none ∨ EarlierWritten s i
  | .initialising => s.finalWrites = []
  | .rereading => EarlierWritten s i
  | _ => True

instance (s : Delegate) (i : Nat) : (p : Phase) → Decidable (OperatesInTurn s i p)
  | .reading => inferInstanceAs (Decidable (_ ∨ _))
  | .initialising => inferInstanceAs (Decidable (_ = _))
  | .rereading => inferInstanceAs (Decidable (EarlierWritten s i))
  | .read _ | .reread _ | .writing _ _ | .done _ | .failed => isTrue trivial

/-- The call in phase `p` puts the query of the delegate into the list when it goes on. -/
def Phase.insertsNext : Phase → Bool
  | .read (some _) => true
  | .reread _ => true
  | _ => false

/-- The condition on a step. -/
def InTurn (s : Delegate) : SearchEvent → Prop
  | .rebuild | .clear | .edit _ => s.currentBody = .suggestions
  | .storage i => ∀ c ∈ s.calls[i]?, OperatesInTurn s i c.phase
  | .resume i => ∀ c ∈ s.calls[i]?, c.phase.insertsNext = true → s.query = c.query
  | .submit | .choose _ | .focus => True

instance (s : Delegate) : (e : SearchEvent) → Decidable (InTurn s e)
  | .rebuild | .clear | .edit _ => inferInstanceAs (Decidable (_ = _))
  | .storage _ => inferInstanceAs (Decidable (∀ c ∈ _, _))
  | .resume _ => inferInstanceAs (Decidable (∀ c ∈ _, _ → _))
  | .submit | .choose _ | .focus => isTrue trivial

/-! ## The invariant -/

/-- The list after `n` final writes in turn. -/
def listAfter (submitted : List String) (n : Nat) : List String :=
  (submitted.reverse.take n).reverse.take 6

/-- The list that the final writes so far have made. -/
def Delegate.current (s : Delegate) : List String := listAfter s.submitted s.finalWrites.length

/-- Call `i` in phase `p`, started for `query`: the calls up to the latest final write are
    done, and only the next one has the list in its hands. -/
def CallInTurn (s : Delegate) (i : Nat) (query : String) : Phase → Prop
  | .reading | .read none | .initialising => s.finalWrites.length ≤ i
  | .rereading => s.finalWrites.length ≤ i ∧ s.storage ≠ none
  | .read (some value) => i = s.finalWrites.length ∧ value = jsonEncode s.current
  | .reread stringOfItems =>
      i = s.finalWrites.length ∧ stringOfItems = some (jsonEncode s.current)
  | .writing item value => i = s.finalWrites.length ∧ item = query ∧
      value = jsonEncode (insertQuery s.current query)
  | .done _ => i < s.finalWrites.length
  | .failed => False

structure TurnInvariant (s : Delegate) : Prop where
  queries : s.calls.map Call.query = s.submitted.reverse
  written : ∀ i ∈ s.finalWrites, i < s.finalWrites.length
  bound : s.finalWrites.length ≤ s.calls.length
  calls : ∀ (i : Nat) (c : Call), s.calls[i]? = some c → CallInTurn s i c.query c.phase
  stored : (s.storage = none ∧ s.finalWrites = []) ∨ s.storage = some (jsonEncode s.current)

/-! ## The list after each final write -/

theorem insertQuery_take (l : List String) (query : String) :
    insertQuery (l.take 6) query = (query :: l).take 6 := by
  have hlen : (l.take 6).length = min 6 l.length := List.length_take
  unfold insertQuery
  rw [List.take_succ_cons]
  split
  · next hsix =>
      rw [List.dropLast_eq_take, hsix, List.take_take]
      rfl
  · next hshort =>
      have hl : l.length ≤ 5 := by omega
      rw [List.take_of_length_le hl, List.take_of_length_le (by omega)]

theorem listAfter_succ {submitted : List String} {n : Nat} {query : String}
    (h : submitted.reverse[n]? = some query) :
    listAfter submitted (n + 1) = insertQuery (listAfter submitted n) query := by
  have htake : submitted.reverse.take (n + 1) = submitted.reverse.take n ++ [query] := by
    rw [List.take_add_one, h]
    rfl
  unfold listAfter
  rw [insertQuery_take, htake, List.reverse_append]
  rfl

/-- A later submission changes nothing for the calls before it. -/
theorem listAfter_cons {submitted : List String} {n : Nat} (query : String)
    (h : n ≤ submitted.length) : listAfter (query :: submitted) n = listAfter submitted n := by
  unfold listAfter
  rw [List.reverse_cons, List.take_append_of_le_length (by rw [List.length_reverse]; exact h)]

theorem listAfter_all (submitted : List String) :
    listAfter submitted submitted.length = submitted.take 6 := by
  have hall : submitted.reverse.take submitted.length = submitted.reverse :=
    List.take_of_length_le (Nat.le_of_eq List.length_reverse)
  unfold listAfter
  rw [hall, List.reverse_reverse]

theorem submitted_length {s : Delegate} (h : TurnInvariant s) :
    s.submitted.length = s.calls.length := by
  have hlen := congrArg List.length h.queries
  rw [List.length_map, List.length_reverse] at hlen
  exact hlen.symm

theorem submitted_getElem {s : Delegate} (h : TurnInvariant s) {i : Nat} {c : Call}
    (hc : s.calls[i]? = some c) : s.submitted.reverse[i]? = some c.query := by
  rw [← h.queries, List.getElem?_map, hc]
  rfl

/-- A call that is done is among those that wrote the list back. -/
theorem lt_of_isDone {s : Delegate} {i : Nat} {query : String} :
    ∀ {p : Phase}, CallInTurn s i query p → p.isDone = true → i < s.finalWrites.length
  | .done _, h, _ => h

theorem historyKept_of_invariant (s : Delegate) (h : TurnInvariant s) : HistoryKept s := by
  intro hdone
  have hall : s.finalWrites.length = s.submitted.length := by
    rw [submitted_length h]
    refine Nat.le_antisymm h.bound ?_
    by_contra hlt
    -- The call after the latest final write would not be done.
    have hget := List.getElem?_eq_getElem (Nat.lt_of_not_le hlt)
    have hturn := h.calls _ _ hget
    exact Nat.lt_irrefl _ (lt_of_isDone hturn (hdone _ (List.mem_of_getElem? hget)))
  rcases h.stored with ⟨hnone, hnil⟩ | hsome
  · rw [hnil] at hall
    rw [hnone, List.eq_nil_of_length_eq_zero hall.symm]
    rfl
  · rw [hsome, storedList, jsonDecode_jsonEncode, Delegate.current, hall, listAfter_all]

/-! ## One step -/

theorem turnInvariant_start : TurnInvariant Delegate.start where
  queries := rfl
  written := fun _ hi => nomatch hi
  bound := Nat.le_refl 0
  calls := fun _ _ hc => nomatch hc
  stored := Or.inl ⟨rfl, rfl⟩

/-- What `CallInTurn` depends on. -/
theorem callInTurn_same {s t : Delegate} {i : Nat} {query : String} {p : Phase}
    (h : CallInTurn s i query p) (hf : t.finalWrites = s.finalWrites)
    (hpresent : s.storage ≠ none → t.storage ≠ none) (hcur : t.current = s.current) :
    CallInTurn t i query p := by
  unfold CallInTurn at h ⊢
  rw [hf, hcur]
  split at h
  case h_4 => exact ⟨h.1, hpresent h.2⟩
  all_goals exact h

theorem turnInvariant_quiet {s : Delegate} (query : String) (currentBody : SearchBody)
    (h : TurnInvariant s) :
    TurnInvariant { s with query := query, currentBody := currentBody } :=
  ⟨h.queries, h.written, h.bound,
    fun i c hc => callInTurn_same (h.calls i c hc) rfl (fun hs => hs) rfl, h.stored⟩

/-- A submission, with its call. -/
theorem turnInvariant_opened {s : Delegate} (query : String) (h : TurnInvariant s) :
    TurnInvariant { s with query := query, currentBody := .results,
                           submitted := query :: s.submitted }.saveSearch := by
  have hbound : s.finalWrites.length ≤ s.submitted.length := by
    rw [submitted_length h]
    exact h.bound
  have hcur : Delegate.current { s with query := query, currentBody := .results,
                                        submitted := query :: s.submitted }.saveSearch =
      s.current := listAfter_cons query hbound
  refine ⟨?_, h.written, ?_, ?_, ?_⟩
  · simp only [Delegate.saveSearch, List.map_append, h.queries, List.reverse_cons]
    rfl
  · simp only [Delegate.saveSearch, List.length_append]
    exact Nat.le_add_right_of_le h.bound
  · intro i c hc
    rcases saveSearch_cases hc with hold | ⟨rfl, rfl⟩
    · exact callInTurn_same (h.calls i c hold) rfl (fun hs => hs) hcur
    · exact h.bound
  · rw [hcur]
    exact h.stored

section Call

variable {s : Delegate} {i : Nat} {c : Call}

/-- A call goes on with the query it was started for. -/
theorem callInTurn_resume (hc : s.calls[i]? = some c)
    (hquery : c.phase.insertsNext = true → s.query = c.query) (h : TurnInvariant s) :
    CallInTurn s i c.query (c.phase.resume s.query) := by
  have hturn := h.calls i c hc
  have hrewrite : i = s.finalWrites.length → s.query = c.query →
      CallInTurn s i c.query (rewrite (jsonEncode s.current) s.query) := by
    intro hi hq
    rw [rewrite, jsonDecode_jsonEncode, hq]
    exact ⟨hi, rfl, rfl⟩
  match hp : c.phase with
  | .read none => rw [hp] at hturn; exact hturn
  | .read (some value) =>
      rw [hp] at hturn hquery
      obtain ⟨hi, rfl⟩ := hturn
      exact hrewrite hi (hquery rfl)
  | .reread stringOfItems =>
      rw [hp] at hturn hquery
      obtain ⟨hi, rfl⟩ := hturn
      exact hrewrite hi (hquery rfl)
  | .reading | .initialising | .rereading | .writing _ _ | .done _ | .failed =>
      rw [hp] at hturn
      exact hturn

/-- Setting the phase of call `i` to one that is in turn. -/
theorem turnInvariant_setPhase {p : Phase} (hc : s.calls[i]? = some c)
    (hp : CallInTurn s i c.query p) (h : TurnInvariant s) : TurnInvariant (s.setPhase i p) := by
  refine ⟨?_, h.written, ?_, ?_, h.stored⟩
  · rw [setPhase_queries]
    exact h.queries
  · rw [setPhase_length]
    exact h.bound
  · intro j d hd
    rcases setPhase_cases hc hd with ⟨rfl, rfl⟩ | ⟨_, hold⟩
    · exact callInTurn_same hp rfl (fun hs => hs) rfl
    · exact callInTurn_same (h.calls j d hold) rfl (fun hs => hs) rfl

/-- The call that has all earlier ones behind it is the next to write. -/
theorem eq_of_earlierWritten (h : TurnInvariant s) (hge : s.finalWrites.length ≤ i)
    (hearlier : EarlierWritten s i) : i = s.finalWrites.length := by
  by_contra hne
  have hmem := hearlier s.finalWrites.length (by omega)
  exact Nat.lt_irrefl _ (h.written _ hmem)

theorem stored_of_present (h : TurnInvariant s) (hs : s.storage ≠ none) :
    s.storage = some (jsonEncode s.current) := by
  rcases h.stored with ⟨hnone, _⟩ | hsome
  · exact absurd hnone hs
  · exact hsome

/-- The other calls after the final write of the one whose turn it was. -/
theorem callInTurn_next {t : Delegate} (hlen : t.finalWrites.length = s.finalWrites.length + 1)
    (hpresent : t.storage ≠ none) {j : Nat} (hj : j ≠ s.finalWrites.length) {query : String} :
    ∀ {p : Phase}, CallInTurn s j query p → CallInTurn t j query p
  | .reading, h | .read none, h | .initialising, h => by
      have hle : s.finalWrites.length ≤ j := h
      show t.finalWrites.length ≤ j
      omega
  | .rereading, h => by
      have hle : s.finalWrites.length ≤ j := h.1
      exact ⟨by omega, hpresent⟩
  | .read (some _), h => absurd h.1 hj
  | .reread _, h => absurd h.1 hj
  | .writing _ _, h => absurd h.1 hj
  | .done _, h => by
      have hlt : j < s.finalWrites.length := h
      show j < t.finalWrites.length
      omega

/-- The final write puts the query of its call in front of the list. -/
theorem turnInvariant_written {item value : String} (hc : s.calls[i]? = some c)
    (hturn : CallInTurn s i c.query (.writing item value)) (h : TurnInvariant s) :
    TurnInvariant (s.operate i (.writing item value)) := by
  obtain ⟨hi, _, hvalue⟩ := hturn
  have hquery : s.submitted.reverse[s.finalWrites.length]? = some c.query := by
    rw [← hi]
    exact submitted_getElem h hc
  have hcur : (s.operate i (.writing item value)).current = insertQuery s.current c.query :=
    listAfter_succ hquery
  refine ⟨?_, ?_, ?_, ?_, Or.inr ?_⟩
  · show (s.setPhase i (.done item)).calls.map Call.query = _
    rw [setPhase_queries]
    exact h.queries
  · intro j hj
    show j < s.finalWrites.length + 1
    rcases List.mem_cons.mp hj with rfl | hj
    · omega
    · have hlt := h.written j hj
      omega
  · have hlt : i < s.calls.length := (List.getElem?_eq_some_iff.mp hc).1
    show s.finalWrites.length + 1 ≤ (s.setPhase i (.done item)).calls.length
    rw [setPhase_length]
    omega
  · intro j d hd
    rcases setPhase_cases hc hd with ⟨rfl, rfl⟩ | ⟨hji, hold⟩
    · show j < s.finalWrites.length + 1
      omega
    · exact callInTurn_next rfl (Option.some_ne_none _) (hi ▸ hji) (h.calls j d hold)
  · rw [hcur, ← hvalue]
    rfl

/-- The key is initialised before any final write. -/
theorem turnInvariant_initialised (hc : s.calls[i]? = some c) (hphase : c.phase = .initialising)
    (hnil : s.finalWrites = []) (h : TurnInvariant s) :
    TurnInvariant (s.operate i .initialising) := by
  have hcur : s.current = [] := by
    rw [Delegate.current, hnil]
    rfl
  have hturn := h.calls i c hc
  rw [hphase] at hturn
  refine ⟨?_, h.written, ?_, ?_, Or.inr ?_⟩
  · show (s.setPhase i .rereading).calls.map Call.query = _
    rw [setPhase_queries]
    exact h.queries
  · show s.finalWrites.length ≤ (s.setPhase i .rereading).calls.length
    rw [setPhase_length]
    exact h.bound
  · intro j d hd
    rcases setPhase_cases hc hd with ⟨rfl, rfl⟩ | ⟨_, hold⟩
    · exact ⟨hturn, Option.some_ne_none _⟩
    · exact callInTurn_same (h.calls j d hold) rfl (fun _ => Option.some_ne_none _) rfl
  · show some (jsonEncode []) = some (jsonEncode s.current)
    rw [hcur]

theorem turnInvariant_operate (hc : s.calls[i]? = some c) (hop : OperatesInTurn s i c.phase)
    (h : TurnInvariant s) : TurnInvariant (s.operate i c.phase) := by
  have hturn := h.calls i c hc
  match hp : c.phase with
  | .reading =>
      rw [hp] at hturn hop
      refine turnInvariant_setPhase hc ?_ h
      -- The list is in the hands of the call only if its turn has come.
      cases hs : s.storage with
      | none => exact hturn
      | some value =>
          have hpresent : s.storage ≠ none := by
            rw [hs]
            exact Option.some_ne_none _
          have hcur := stored_of_present h hpresent
          rw [hs] at hcur
          exact ⟨eq_of_earlierWritten h hturn (hop.resolve_left hpresent), Option.some.inj hcur⟩
  | .initialising =>
      rw [hp] at hop
      exact turnInvariant_initialised hc hp hop h
  | .rereading =>
      rw [hp] at hturn hop
      refine turnInvariant_setPhase hc ?_ h
      exact ⟨eq_of_earlierWritten h hturn.1 hop, stored_of_present h hturn.2⟩
  | .writing item value =>
      rw [hp] at hturn
      exact turnInvariant_written hc hturn h
  | .read _ | .reread _ | .done _ | .failed =>
      rw [hp] at hturn
      exact turnInvariant_setPhase hc hturn h

end Call

theorem turnInvariant_move {s t : Delegate} {e : SearchEvent} (hm : SearchMove s e t)
    (hin : InTurn s e) (h : TurnInvariant s) : TurnInvariant t := by
  cases hm with
  | quiet query currentBody => exact turnInvariant_quiet query currentBody h
  | opened query => exact turnInvariant_opened query h
  | rebuilt query hbody he =>
      have hsugg : s.currentBody = .suggestions := by
        rcases he with rfl | rfl | rfl <;> exact hin
      rw [hbody] at hsugg
      exact nomatch hsugg
  | operated i c hc => exact turnInvariant_operate hc (hin c hc) h
  | resumed i c hc =>
      exact turnInvariant_setPhase hc (callInTurn_resume hc (hin c hc) h) h

/-- **The search history.** In every run whose steps meet `InTurn`, whenever all calls have
    completed the stored list is that of the submitted queries, latest first, cut to six. -/
theorem history_in_turn (es : List SearchEvent)
    (hall : AllSteps searchStep InTurn Delegate.start es) :
    Always searchStep HistoryKept Delegate.start es := by
  refine always_of_inv ?_ historyKept_of_invariant _ es hall turnInvariant_start
  intro s e hin h
  exact turnInvariant_move (searchStep_move s e) hin h

/-! ## Concrete runs -/

/-- The steps of a call that finds the key absent. -/
def firstCall (i : Nat) : List SearchEvent :=
  [.storage i, .resume i, .storage i, .storage i, .resume i, .storage i]

/-- The steps of a call that finds the key present. -/
def nextCall (i : Nat) : List SearchEvent := [.storage i, .resume i, .storage i]

/-- Two searches, the second typed after the first was saved. -/
theorem two_searches_kept :
    Always searchStep HistoryKept Delegate.start
      ([.edit "bali", .submit] ++ firstCall 0 ++ [.focus, .edit "ubud", .submit] ++ nextCall 1) :=
  history_in_turn _ (by decide +kernel)

/-- One search, one rebuild of its results: the query is stored twice. -/
theorem rebuild_stores_twice :
    ¬ ∀ es, HistoryKept (run searchStep Delegate.start es) := by
  intro h
  have hbad := h ([.choose "Bali"] ++ firstCall 0 ++ [.rebuild] ++ nextCall 1)
  revert hbad
  decide +kernel

end Nginepyuk.Search
