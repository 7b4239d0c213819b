/-
  The stored list under any overlap of the calls.

  Whatever value a call has read was the stored list at some moment, and the calls that wrote
  it back since then only add to `finalWrites`. So `WellFormed` of a value, which says that its
  entries come from distinct calls in the order of their final writes, latest first, is kept
  by every step, for the stored value and for the values in the hands of the calls alike. The
  list in the hands of a call that writes it back has at most six entries because the one it
  read had.
-/
import Nginepyuk.Search.SaveSearch

namespace Nginepyuk.Search

open Lib.Trace Lib.Json

/-- Entries of a list, each with the call that inserted it: every call has written the list
    back with that entry in front, and the calls stand as in `finalWrites`. -/
structure Inserted (s : Delegate) (entries : List (Nat × String)) : Prop where
  order : (entries.map Prod.fst).Sublist s.finalWrites
  done : ∀ e ∈ entries, ∃ c, s.calls[e.1]? = some c ∧ c.phase = .done e.2

/-- The encoding of a list of at most six such entries. -/
def WellFormed (s : Delegate) (value : String) : Prop :=
  ∃ entries, Inserted s entries ∧ entries.length ≤ 6 ∧
    value = jsonEncode (entries.map Prod.snd)

/-- The value under the key is absent or well formed, no call wrote the list back twice, and
    no call failed. -/
structure StorageOk (s : Delegate) : Prop where
  stored : s.storage = none ∨ ∃ value, s.storage = some value ∧ WellFormed s value
  once : s.finalWrites.Nodup
  unfailed : ∀ c ∈ s.calls, c.phase ≠ .failed

/-- What a call has in its hands. -/
def PhaseOk (s : Delegate) : Phase → Prop
  | .reading | .read none | .initialising | .done _ => True
  | .read (some value) => WellFormed s value
  | .rereading => s.storage ≠ none
  | .reread none => False
  | .reread (some value) => WellFormed s value
  | .writing item value => ∃ entries, Inserted s entries ∧ entries.length ≤ 5 ∧
      value = jsonEncode (item :: entries.map Prod.snd)
  | .failed => False

structure OverlapInvariant (s : Delegate) : Prop where
  stored : ∀ value, s.storage = some value → WellFormed s value
  phases : ∀ (i : Nat) (c : Call), s.calls[i]? = some c → PhaseOk s c.phase
  finals : ∀ i ∈ s.finalWrites, ∃ c item, s.calls[i]? = some c ∧ c.phase = .done item
  once : s.finalWrites.Nodup

theorem storageOk_of_invariant (s : Delegate) (h : OverlapInvariant s) : StorageOk s := by
  refine ⟨?_, h.once, ?_⟩
  · cases hs : s.storage with
    | none => exact Or.inl rfl
    | some value => exact Or.inr ⟨value, rfl, h.stored value hs⟩
  · intro c hc hfail
    obtain ⟨i, hi⟩ := List.mem_iff_getElem?.mp hc
    have hok := h.phases i c hi
    rw [hfail] at hok
    exact hok

/-! ## Later states -/

/-- `t` is later than `s`: the calls that were done still are, and nothing is taken out of
    `finalWrites`; the key stays present. -/
structure Later (s t : Delegate) : Prop where
  done : ∀ (i : Nat) (c : Call) (item : String),
    s.calls[i]? = some c → c.phase = .done item → t.calls[i]? = some c
  finals : s.finalWrites.Sublist t.finalWrites
  present : s.storage ≠ none → t.storage ≠ none

theorem inserted_later {s t : Delegate} (hl : Later s t) {entries : List (Nat × String)}
    (h : Inserted s entries) : Inserted t entries := by
  refine ⟨h.order.trans hl.finals, ?_⟩
  intro e he
  obtain ⟨c, hc, hdone⟩ := h.done e he
  exact ⟨c, hl.done e.1 c e.2 hc hdone, hdone⟩

theorem wellFormed_later {s t : Delegate} (hl : Later s t) {value : String}
    (h : WellFormed s value) : WellFormed t value := by
  obtain ⟨entries, hin, hlen, hval⟩ := h
  exact ⟨entries, inserted_later hl hin, hlen, hval⟩

theorem phaseOk_later {s t : Delegate} (hl : Later s t) :
    ∀ {p : Phase}, PhaseOk s p → PhaseOk t p
  | .reading, _ | .read none, _ | .initialising, _ | .done _, _ => trivial
  | .read (some _), h => wellFormed_later hl h
  | .rereading, h => hl.present h
  | .reread (some _), h => wellFormed_later hl h
  | .writing _ _, ⟨entries, hin, hlen, hval⟩ => ⟨entries, inserted_later hl hin, hlen, hval⟩

/-! ## The list that a call writes back -/

theorem wellFormed_nil (s : Delegate) : WellFormed s (jsonEncode []) :=
  ⟨[], ⟨List.nil_sublist _, fun _ he => nomatch he⟩, by decide, rfl⟩

theorem inserted_dropLast {s : Delegate} {entries : List (Nat × String)}
    (h : Inserted s entries) : Inserted s entries.dropLast := by
  refine ⟨?_, fun e he => h.done e ((List.dropLast_sublist entries).subset he)⟩
  exact ((List.dropLast_sublist entries).map Prod.fst).trans h.order

/-- The test for a length of six keeps the bound. -/
theorem phaseOk_rewrite {s : Delegate} {value : String} (h : WellFormed s value)
    (query : String) : PhaseOk s (rewrite value query) := by
  obtain ⟨entries, hin, hlen, rfl⟩ := h
  simp only [rewrite, jsonDecode_jsonEncode, insertQuery, List.length_map]
  split
  · next hsix =>
      refine ⟨entries.dropLast, inserted_dropLast hin, ?_, ?_⟩
      · rw [List.length_dropLast]; omega
      · rw [List.map_dropLast]
  · next hsix => exact ⟨entries, hin, by omega, rfl⟩

theorem phaseOk_resume {s : Delegate} (query : String) :
    ∀ {p : Phase}, PhaseOk s p → PhaseOk s (p.resume query)
  | .read none, _ => trivial
  | .read (some _), h => phaseOk_rewrite h query
  | .reread (some _), h => phaseOk_rewrite h query
  | .reading, h => h
  | .initialising, h => h
  | .rereading, h => h
  | .writing _ _, h => h
  | .done _, h => h

/-! ## One step -/

theorem overlapInvariant_start : OverlapInvariant Delegate.start where
  stored := fun _ hv => nomatch hv
  phases := fun _ _ hc => nomatch hc
  finals := fun _ hi => nomatch hi
  once := List.nodup_nil

theorem later_saveSearch (s : Delegate) (query : String) (currentBody : SearchBody)
    (submitted : List String) :
    Later s { s with query := query, currentBody := currentBody,
                     submitted := submitted }.saveSearch where
  done := fun _ _ _ hc _ => saveSearch_old hc
  finals := List.Sublist.refl _
  present := fun h => h

/-- A new call keeps the invariant: it has nothing in its hands. -/
theorem overlapInvariant_saveSearch {s : Delegate} (query : String) (currentBody : SearchBody)
    (submitted : List String) (h : OverlapInvariant s) :
    OverlapInvariant { s with query := query, currentBody := currentBody,
                              submitted := submitted }.saveSearch := by
  have hl := later_saveSearch s query currentBody submitted
  refine ⟨fun value hv => wellFormed_later hl (h.stored value hv), ?_, ?_, h.once⟩
  · intro i c hc
    rcases saveSearch_cases hc with hold | ⟨_, rfl⟩
    · exact phaseOk_later hl (h.phases i c hold)
    · exact trivial
  · intro i hi
    obtain ⟨c, item, hc, hdone⟩ := h.finals i hi
    exact ⟨c, item, saveSearch_old hc, hdone⟩

/-- Setting the phase of a call, which stays done if it was. -/
theorem setPhase_done {s : Delegate} {i : Nat} {c : Call} {p : Phase}
    (hc : s.calls[i]? = some c) (hp : ∀ item, c.phase = .done item → p = .done item)
    (j : Nat) (d : Call) (item : String) (hd : s.calls[j]? = some d)
    (hdone : d.phase = .done item) : (s.setPhase i p).calls[j]? = some d := by
  by_cases hij : j = i
  · rw [hij, hc] at hd
    obtain rfl := Option.some.inj hd
    rw [hij, setPhase_self hc, hp item hdone, ← hdone]
  · rw [setPhase_ne hij]
    exact hd

theorem resume_done {query item : String} {p : Phase} (hp : p = .done item) :
    p.resume query = .done item := by
  rw [hp]; rfl

theorem operate_done {storage : Option String} {item : String} {p : Phase}
    (hp : p = .done item) : p.operate storage = .done item := by
  rw [hp]; rfl

theorem overlapInvariant_resume {s : Delegate} {i : Nat} {c : Call} (hc : s.calls[i]? = some c)
    (h : OverlapInvariant s) :
    OverlapInvariant (s.setPhase i (c.phase.resume s.query)) := by
  have hdone := setPhase_done (p := c.phase.resume s.query) hc fun _ => resume_done
  have hl : Later s (s.setPhase i (c.phase.resume s.query)) :=
    ⟨hdone, List.Sublist.refl _, fun hs => hs⟩
  refine ⟨fun value hv => wellFormed_later hl (h.stored value hv), ?_, ?_, h.once⟩
  · intro j d hd
    rcases setPhase_cases hc hd with ⟨_, rfl⟩ | ⟨_, hold⟩
    · exact phaseOk_later hl (phaseOk_resume s.query (h.phases i c hc))
    · exact phaseOk_later hl (h.phases j d hold)
  · intro j hj
    obtain ⟨d, item, hd, hdd⟩ := h.finals j hj
    exact ⟨d, item, hdone j d item hd hdd, hdd⟩

theorem later_operate {s : Delegate} {i : Nat} {c : Call} (hc : s.calls[i]? = some c) :
    Later s (s.operate i c.phase) where
  done := setPhase_done hc fun _ => operate_done
  finals := by
    simp only [Delegate.operate]
    split
    · exact List.sublist_cons_self _ _
    · exact List.Sublist.refl _
  present := by
    intro hs
    cases hp : c.phase with
    | initialising => exact Option.some_ne_none _
    | writing item value => exact Option.some_ne_none _
    | _ => exact hs

section Operate

variable {s : Delegate} {i : Nat} {c : Call}

/-- The value that a final write leaves: its call is the latest of `finalWrites`. -/
theorem wellFormed_written {item value : String} (hc : s.calls[i]? = some c)
    (hp : c.phase = .writing item value) (hok : PhaseOk s c.phase) :
    WellFormed (s.operate i c.phase) value := by
  have hl := later_operate hc
  rw [hp] at hok
  obtain ⟨entries, hin, hlen, hval⟩ := hok
  have hin' := inserted_later hl hin
  refine ⟨(i, item) :: entries, ⟨?_, ?_⟩, Nat.succ_le_succ hlen, hval⟩
  · rw [hp]
    exact hin.order.cons_cons i
  · intro e he
    rcases List.mem_cons.mp he with rfl | he
    · refine ⟨_, setPhase_self hc, ?_⟩
      rw [hp]
      rfl
    · exact hin'.done e he

/-- The value under the key after a storage operation. -/
theorem wellFormed_stored (hc : s.calls[i]? = some c) (h : OverlapInvariant s) (value : String)
    (hv : (s.operate i c.phase).storage = some value) : WellFormed (s.operate i c.phase) value := by
  have hold : c.phase.stored s.storage = s.storage → WellFormed (s.operate i c.phase) value := by
    intro hsame
    exact wellFormed_later (later_operate hc) (h.stored value (hsame.symm.trans hv))
  match hp : c.phase with
  | .initialising =>
      rw [hp] at hv
      rw [← Option.some.inj hv]
      exact wellFormed_nil _
  | .writing item new =>
      have hw := wellFormed_written hc hp (h.phases i c hc)
      rw [hp] at hv hw
      rw [← Option.some.inj hv]
      exact hw
  | .reading | .read _ | .rereading | .reread _ | .done _ | .failed =>
      rw [hp] at hold
      exact hold rfl

/-- What the call has in its hands after its own storage operation. -/
theorem phaseOk_operate (hc : s.calls[i]? = some c) (h : OverlapInvariant s) :
    PhaseOk (s.operate i c.phase) (c.phase.operate s.storage) := by
  have hl := later_operate hc
  have hok := h.phases i c hc
  match hp : c.phase with
  | .reading =>
      rw [hp] at hl
      cases hs : s.storage with
      | none => exact trivial
      | some value => exact wellFormed_later hl (h.stored value hs)
  | .rereading =>
      rw [hp] at hl hok
      cases hs : s.storage with
      | none => exact absurd hs hok
      | some value => exact wellFormed_later hl (h.stored value hs)
  | .initialising => exact Option.some_ne_none _
  | .writing item value => exact trivial
  | .read _ | .reread _ | .done _ | .failed =>
      rw [hp] at hl hok
      exact phaseOk_later hl hok

theorem overlapInvariant_operate (hc : s.calls[i]? = some c) (h : OverlapInvariant s) :
    OverlapInvariant (s.operate i c.phase) := by
  have hl := later_operate hc
  have hfinals : ∀ j ∈ s.finalWrites, ∃ d item,
      (s.operate i c.phase).calls[j]? = some d ∧ d.phase = .done item := by
    intro j hj
    obtain ⟨d, item, hd, hdone⟩ := h.finals j hj
    exact ⟨d, item, hl.done j d item hd hdone, hdone⟩
  refine ⟨wellFormed_stored hc h, ?_, ?_, ?_⟩
  · intro j d hd
    rcases setPhase_cases hc hd with ⟨_, rfl⟩ | ⟨_, hold⟩
    · exact phaseOk_operate hc h
    · exact phaseOk_later hl (h.phases j d hold)
  · cases hp : c.phase with
    | writing item value =>
        rw [hp] at hfinals
        intro j hj
        rcases List.mem_cons.mp hj with rfl | hj
        · exact ⟨_, item, setPhase_self hc, rfl⟩
        · exact hfinals j hj
    | _ => rw [hp] at hfinals; exact hfinals
  · cases hp : c.phase with
    | writing item value =>
        refine List.nodup_cons.mpr ⟨?_, h.once⟩
        intro hi
        obtain ⟨d, item', hd, hdone⟩ := h.finals i hi
        rw [hc] at hd
        obtain rfl := Option.some.inj hd
        rw [hp] at hdone
        exact nomatch hdone
    | _ => exact h.once

end Operate

theorem overlapInvariant_move {s t : Delegate} {e : SearchEvent} (hm : SearchMove s e t)
    (h : OverlapInvariant s) : OverlapInvariant t := by
  cases hm with
  | quiet query currentBody =>
      have hl : Later s { s with query := query, currentBody := currentBody } :=
        ⟨fun _ _ _ hc _ => hc, List.Sublist.refl _, fun hs => hs⟩
      exact ⟨fun value hv => wellFormed_later hl (h.stored value hv),
        fun i c hc => phaseOk_later hl (h.phases i c hc), h.finals, h.once⟩
  | opened query => exact overlapInvariant_saveSearch query .results (query :: s.submitted) h
  | rebuilt query hbody he =>
      exact overlapInvariant_saveSearch query s.currentBody s.submitted h
  | operated i c hc => exact overlapInvariant_operate hc h
  | resumed i c hc => exact overlapInvariant_resume hc h

/-- **The stored list under any overlap.** In every state of every run the key is absent or
    holds the encoding of a list of at most six entries, which distinct calls inserted and
    which stand in the order of the final writes of these calls, the latest first; and no call
    fails. -/
theorem storage_well_formed (es : List SearchEvent) :
    Always searchStep StorageOk Delegate.start es := by
  intro pre _
  refine storageOk_of_invariant _ (inv_run_all ?_ Delegate.start pre overlapInvariant_start)
  intro s e h
  exact overlapInvariant_move (searchStep_move s e) h

end Nginepyuk.Search
