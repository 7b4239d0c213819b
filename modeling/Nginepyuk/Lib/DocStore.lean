/-
  A collection of a document store: documents under distinct ids, and equality queries.

  `query p` is the snapshot of a query whose filters are all met by exactly the documents
  with `p`. The ids make two documents with equal fields different, so "listed once" can be
  said of documents and not only of their contents.
-/
import Mathlib.Data.List.Nodup

namespace Lib.DocStore

/-- Documents of type `D`, each under its own id. -/
structure Collection (D : Type) where
  docs : List (String × D)
  nodup : (docs.map Prod.fst).Nodup

/-- The documents whose fields meet `p`. -/
def Collection.query {D : Type} (c : Collection D) (p : D → Bool) : List (String × D) :=
  c.docs.filter fun d => p d.2

theorem Collection.mem_query {D : Type} {c : Collection D} {p : D → Bool} {d : String × D} :
    d ∈ c.query p ↔ d ∈ c.docs ∧ p d.2 = true :=
  List.mem_filter

/-- Two queries that no document meets both list every document at most once between them. -/
theorem Collection.nodup_append_query {D : Type} (c : Collection D) (p q : D → Bool)
    (h : ∀ d, p d = true → q d = false) : (c.query p ++ c.query q).Nodup := by
  have hnd : c.docs.Nodup := List.Nodup.of_map _ c.nodup
  rw [List.nodup_append]
  refine ⟨hnd.filter _, hnd.filter _, ?_⟩
  rintro a ha b hb rfl
  have hp := (Collection.mem_query.mp ha).2
  have hq := (Collection.mem_query.mp hb).2
  rw [h _ hp] at hq
  exact absurd hq Bool.false_ne_true

/-- The document under an id. -/
def Collection.doc {D : Type} (c : Collection D) (id : String) : Option D := c.docs.lookup id

/-- The ids are distinct: an entry is the document under its id. -/
theorem Collection.doc_eq_some {D : Type} {c : Collection D} {d : String × D} (h : d ∈ c.docs) :
    c.doc d.1 = some d.2 := by
  obtain ⟨docs, hnd⟩ := c
  unfold Collection.doc
  induction docs with
  | nil => exact nomatch h
  | cons e docs ih =>
      rw [List.map_cons, List.nodup_cons] at hnd
      rcases List.mem_cons.mp h with rfl | h
      · exact List.lookup_cons_self
      · have hne : (d.1 == e.1) = false := by
          rw [beq_eq_false_iff_ne]
          intro heq
          exact hnd.1 (heq ▸ List.mem_map_of_mem h)
        rw [List.lookup_cons, hne]
        exact ih hnd.2 h

theorem Collection.mem_of_doc {D : Type} {c : Collection D} {id : String} {d : D}
    (h : c.doc id = some d) : (id, d) ∈ c.docs := by
  unfold Collection.doc at h
  obtain ⟨pre, post, hdocs, _⟩ := List.lookup_eq_some_iff.mp h
  rw [hdocs]
  exact List.mem_append_right _ List.mem_cons_self

/-! ## Writing -/

/-- A new document; an id that is taken already leaves the collection as it is. -/
def Collection.insert {D : Type} (c : Collection D) (id : String) (d : D) : Collection D :=
  if h : id ∈ c.docs.map Prod.fst then c
  else
    { docs := c.docs ++ [(id, d)]
      nodup := by
        rw [List.map_append, List.nodup_append]
        refine ⟨c.nodup, List.nodup_singleton _, ?_⟩
        rintro a ha b hb rfl
        rw [List.mem_singleton.mp hb] at ha
        exact h ha }

/-- The document under an id is changed by `f`. -/
def Collection.update {D : Type} (c : Collection D) (id : String) (f : D → D) : Collection D where
  docs := c.docs.map fun e => if e.1 = id then (e.1, f e.2) else e
  nodup := by
    have hids : (c.docs.map fun e => if e.1 = id then (e.1, f e.2) else e).map Prod.fst =
        c.docs.map Prod.fst := by
      rw [List.map_map]
      refine List.map_congr_left fun e _ => ?_
      show (if e.1 = id then (e.1, f e.2) else e).1 = e.1
      split <;> rfl
    rw [hids]
    exact c.nodup

theorem Collection.docs_insert {D : Type} {c : Collection D} {id : String} (d : D)
    (h : id ∉ c.docs.map Prod.fst) : (c.insert id d).docs = c.docs ++ [(id, d)] := by
  unfold Collection.insert
  rw [dif_neg h]

end Lib.DocStore
