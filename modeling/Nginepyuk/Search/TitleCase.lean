/-
  `toTitleCase` of `lib/utils/string_extension.dart`, and the queries that `Searching` makes
  with it in `lib/pages/home/search_page.dart`.

  The key of a query is the query with every run of spaces fused and every character lower
  case. `toTitleCase` is a canonical form for it: two queries have one title case exactly when
  they have one key, and the title case of a query has the query's key. So the hotels that
  `buildSuggestions` and `buildResults` list depend on the key of the query only
  (`title_case_canonical`).

  A text is a list over any alphabet, with the case maps as a parameter (`Casing`); what is
  used of them are the four laws that its fields state. `asciiCasing` has them.
-/
import Mathlib
import Nginepyuk.Lib.Words
import Nginepyuk.Lib.DocStore

namespace Nginepyuk.Search

open Lib.Words Lib.DocStore

/-- The space and the case maps of an alphabet. The space is fixed by both maps and nothing
    else becomes a space, and each map forgets what the other did. -/
structure Casing (α : Type) where
  space : α
  upper : α → α
  lower : α → α
  upper_eq_space : ∀ c, upper c = space ↔ c = space
  lower_eq_space : ∀ c, lower c = space ↔ c = space
  upper_lower : ∀ c, upper (lower c) = upper c
  lower_upper : ∀ c, lower (upper c) = lower c

theorem Casing.lower_lower {α : Type} (k : Casing α) (c : α) :
    k.lower (k.lower c) = k.lower c := by
  calc k.lower (k.lower c) = k.lower (k.upper (k.lower c)) := (k.lower_upper _).symm
    _ = k.lower (k.upper c) := by rw [k.upper_lower]
    _ = k.lower c := k.lower_upper c

theorem Casing.map_lower_map_lower {α : Type} (k : Casing α) (w : List α) :
    (w.map k.lower).map k.lower = w.map k.lower := by
  rw [List.map_map]
  exact List.map_congr_left fun c _ => k.lower_lower c

variable {α : Type}

/-! ## `toCapitalized` and `toTitleCase` -/

/-- First character upper case, the others lower case. -/
def toCapitalized (k : Casing α) : List α → List α
  | [] => []
  | c :: cs => k.upper c :: cs.map k.lower

/-- `split(' ')`, `toCapitalized` on every part, `join(' ')`. -/
def capitalizeWords [DecidableEq α] (k : Casing α) (s : List α) : List α :=
  [k.space].intercalate ((s.splitOn k.space).map (toCapitalized k))

/-- `replaceAll(RegExp(' +'), ' ')`, then every word capitalized. -/
def toTitleCase [DecidableEq α] (k : Casing α) (s : List α) : List α :=
  capitalizeWords k (replaceRuns k.space false s)

/-- What a query is searched by: its letters without their case, its words without the
    lengths of the gaps. -/
def searchKey [DecidableEq α] (k : Casing α) (s : List α) : List α :=
  (fuse k.space s).map k.lower

theorem map_lower_toCapitalized (k : Casing α) (w : List α) :
    (toCapitalized k w).map k.lower = w.map k.lower := by
  cases w with
  | nil => rfl
  | cons c cs =>
      rw [toCapitalized, List.map_cons, k.map_lower_map_lower, k.lower_upper]
      rfl

theorem toCapitalized_map_lower (k : Casing α) (w : List α) :
    toCapitalized k (w.map k.lower) = toCapitalized k w := by
  cases w with
  | nil => rfl
  | cons c cs =>
      rw [List.map_cons, toCapitalized, k.map_lower_map_lower, k.upper_lower]
      rfl

section

variable [DecidableEq α] (k : Casing α)

/-- Capitalizing changes nothing but the case. -/
theorem map_lower_capitalizeWords (s : List α) :
    (capitalizeWords k s).map k.lower = s.map k.lower := by
  have hwords : ((s.splitOn k.space).map (toCapitalized k)).map (List.map k.lower)
      = (s.splitOn k.space).map (List.map k.lower) := by
    rw [List.map_map]
    exact List.map_congr_left fun w _ => map_lower_toCapitalized k w
  have hspace : k.lower k.space = k.space := (k.lower_eq_space _).mpr rfl
  unfold capitalizeWords
  rw [map_intercalate hspace, hwords, ← map_intercalate hspace, List.intercalate_splitOn]

/-- Capitalizing forgets the case. -/
theorem capitalizeWords_map_lower (s : List α) :
    capitalizeWords k (s.map k.lower) = capitalizeWords k s := by
  unfold capitalizeWords
  rw [splitOn_map k.lower_eq_space, List.map_map]
  congr 1
  exact List.map_congr_left fun w _ => toCapitalized_map_lower k w

/-- The title case is computed from the key. -/
theorem toTitleCase_eq_capitalizeWords_searchKey (s : List α) :
    toTitleCase k s = capitalizeWords k (searchKey k s) := by
  unfold toTitleCase searchKey
  rw [capitalizeWords_map_lower, replaceRuns_eq_fuse]

/-- The key is the title case in lower case. -/
theorem map_lower_toTitleCase (s : List α) :
    (toTitleCase k s).map k.lower = searchKey k s := by
  unfold toTitleCase searchKey
  rw [map_lower_capitalizeWords, replaceRuns_eq_fuse]

theorem toTitleCase_eq_iff (s t : List α) :
    toTitleCase k s = toTitleCase k t ↔ searchKey k s = searchKey k t := by
  constructor
  · intro h
    rw [← map_lower_toTitleCase, ← map_lower_toTitleCase, h]
  · intro h
    rw [toTitleCase_eq_capitalizeWords_searchKey, toTitleCase_eq_capitalizeWords_searchKey, h]

theorem noAdjacent_toTitleCase (s : List α) : NoAdjacent k.space (toTitleCase k s) := by
  -- Lower case moves no space, and in lower case this is the fused query.
  rw [← noAdjacent_map k.lower_eq_space, map_lower_toTitleCase]
  exact (noAdjacent_map k.lower_eq_space _).mpr (noAdjacent_fuse _ s)

theorem searchKey_toTitleCase (s : List α) : searchKey k (toTitleCase k s) = searchKey k s := by
  rw [searchKey, fuse_of_noAdjacent (noAdjacent_toTitleCase k s), map_lower_toTitleCase]

theorem toTitleCase_toTitleCase (s : List α) :
    toTitleCase k (toTitleCase k s) = toTitleCase k s :=
  (toTitleCase_eq_iff k _ _).mpr (searchKey_toTitleCase k s)

theorem searchKey_eq_nil_iff (s : List α) : searchKey k s = [] ↔ s = [] := by
  rw [searchKey, List.map_eq_nil_iff, fuse, List.destutter_eq_nil]

end

/-! ## The queries of `Searching` -/

/-- A document of `hotels`, with the fields that the search reads. -/
structure Hotel (α : Type) where
  title : List α
  titleSearch : List (List α)
deriving DecidableEq, Repr

section

variable [DecidableEq α] (k : Casing α)

/-- `where('titleSearch', arrayContains: query.toTitleCase())`. -/
def titleSearchContains (query : List α) (hotel : Hotel α) : Bool :=
  decide (toTitleCase k query ∈ hotel.titleSearch)

/-- The documents that `buildResults` lists. -/
def buildResults (hotels : Collection (Hotel α)) (query : List α) : List (String × Hotel α) :=
  hotels.query (titleSearchContains k query)

/-- The titles that `buildSuggestions` lists, or `none` when the query is empty and the latest
    searches stand in their place. -/
def buildSuggestions (hotels : Collection (Hotel α)) (query : List α) : Option (List (List α)) :=
  if query = [] then none
  else some ((hotels.query (titleSearchContains k query)).map fun d => d.2.title)

/-- Two queries filter alike exactly when they have one key. -/
theorem titleSearchContains_eq_iff (s t : List α) :
    titleSearchContains k s = titleSearchContains k t ↔ searchKey k s = searchKey k t := by
  rw [← toTitleCase_eq_iff]
  constructor
  · intro h
    -- A hotel that only the title case of `s` finds.
    have hfind := congrFun h ⟨[], [toTitleCase k s]⟩
    simp only [titleSearchContains, List.mem_singleton, decide_true] at hfind
    exact (of_decide_eq_true hfind.symm).symm
  · intro h
    funext hotel
    rw [titleSearchContains, titleSearchContains, h]

theorem buildSuggestions_congr (hotels : Collection (Hotel α)) {s t : List α}
    (h : searchKey k s = searchKey k t) :
    buildSuggestions k hotels s = buildSuggestions k hotels t := by
  have hempty : s = [] ↔ t = [] := by
    rw [← searchKey_eq_nil_iff k, ← searchKey_eq_nil_iff k t, h]
  unfold buildSuggestions
  rw [(titleSearchContains_eq_iff k s t).mpr h]
  simp only [hempty]

theorem buildResults_congr (hotels : Collection (Hotel α)) {s t : List α}
    (h : searchKey k s = searchKey k t) :
    buildResults k hotels s = buildResults k hotels t := by
  unfold buildResults
  rw [(titleSearchContains_eq_iff k s t).mpr h]

/-- A hotel whose search terms are in title case is listed exactly when one of them has the
    key of the query. -/
theorem mem_buildResults_iff (hotels : Collection (Hotel α)) (query : List α)
    (d : String × Hotel α) (hterms : ∀ term ∈ d.2.titleSearch, toTitleCase k term = term) :
    d ∈ buildResults k hotels query ↔
      d ∈ hotels.docs ∧ ∃ term ∈ d.2.titleSearch, searchKey k term = searchKey k query := by
  have hfind : titleSearchContains k query d.2 = true ↔
      ∃ term ∈ d.2.titleSearch, searchKey k term = searchKey k query := by
    rw [titleSearchContains, decide_eq_true_iff]
    constructor
    · intro hmem
      exact ⟨_, hmem, searchKey_toTitleCase k query⟩
    · rintro ⟨term, hmem, hkey⟩
      rw [← (toTitleCase_eq_iff k _ _).mpr hkey, hterms term hmem]
      exact hmem
  rw [buildResults, Collection.mem_query, hfind]

/-- **`toTitleCase` is a canonical form of the key.** Equal title cases are equal keys; the
    title case of a query has its key, is its own title case and has no two spaces side by
    side; queries with one key filter alike, and both pages list the same for them: of the hotels
    whose search terms are in title case, those with a term of that key. -/
theorem title_case_canonical :
    (∀ s t : List α, toTitleCase k s = toTitleCase k t ↔ searchKey k s = searchKey k t) ∧
    (∀ s : List α,
      searchKey k (toTitleCase k s) = searchKey k s ∧
      toTitleCase k (toTitleCase k s) = toTitleCase k s ∧
      NoAdjacent k.space (toTitleCase k s)) ∧
    (∀ s t : List α, searchKey k s = searchKey k t →
      titleSearchContains k s = titleSearchContains k t ∧
      ∀ hotels : Collection (Hotel α),
        buildSuggestions k hotels s = buildSuggestions k hotels t ∧
        buildResults k hotels s = buildResults k hotels t) ∧
    ∀ (hotels : Collection (Hotel α)) (query : List α) (d : String × Hotel α),
      (∀ term ∈ d.2.titleSearch, toTitleCase k term = term) →
        (d ∈ buildResults k hotels query ↔
          d ∈ hotels.docs ∧ ∃ term ∈ d.2.titleSearch, searchKey k term = searchKey k query) := by
  refine ⟨toTitleCase_eq_iff k, ?_, ?_, fun hotels query d => mem_buildResults_iff k hotels query d⟩
  · intro s
    exact ⟨searchKey_toTitleCase k s, toTitleCase_toTitleCase k s, noAdjacent_toTitleCase k s⟩
  · intro s t h
    refine ⟨(titleSearchContains_eq_iff k s t).mpr h, fun hotels => ?_⟩
    exact ⟨buildSuggestions_congr k hotels h, buildResults_congr k hotels h⟩

end

/-! ## ASCII -/

theorem toUpper_eq_space_iff (c : Char) : c.toUpper = ' ' ↔ c = ' ' := by
  by_cases hc : c.isLower
  · refine iff_of_false ?_ ?_
    · intro h
      have hup : c.toUpper.isUpper = true := by simp [Char.isAlpha, hc]
      rw [h] at hup
      exact absurd hup (by decide)
    · rintro rfl
      exact absurd hc (by decide)
  · rw [Char.toUpper_eq_of_not_isLower hc]

theorem toLower_eq_space_iff (c : Char) : c.toLower = ' ' ↔ c = ' ' := by
  by_cases hc : c.isUpper
  · refine iff_of_false ?_ ?_
    · intro h
      have hlow : c.toLower.isLower = true := by simp [Char.isAlpha, hc]
      rw [h] at hlow
      exact absurd hlow (by decide)
    · rintro rfl
      exact absurd hc (by decide)
  · rw [Char.toLower_eq_of_not_isUpper hc]

/-- Case of the letters `a` to `z`, other characters unchanged. -/
def asciiCasing : Casing Char where
  space := ' '
  upper := Char.toUpper
  lower := Char.toLower
  upper_eq_space := toUpper_eq_space_iff
  lower_eq_space := toLower_eq_space_iff
  upper_lower := Char.toUpper_toLower_eq_toUpper
  lower_upper := Char.toLower_toUpper_eq_toLower

/-- Two spellings of one query, with a space in front. -/
theorem title_case_of_two_spellings :
    toTitleCase asciiCasing " gRAND   hotel".toList = " Grand Hotel".toList ∧
    toTitleCase asciiCasing " gRAND   hotel".toList
      = toTitleCase asciiCasing "  grand Hotel".toList := by
  refine ⟨by decide, ?_⟩
  exact ((title_case_canonical asciiCasing).1 _ _).mpr (by decide)

end Nginepyuk.Search
