/-
  The documents of `hotels` as the pages read them: `CardItem` and `RecommendItem` in the
  lists of `lib/pages/home/home_page.dart` and `lib/pages/home/search_page.dart`, and the page
  of `lib/pages/detail_page.dart`.

  The lists read fields of a document and fail at a missing one; the detail page reads entries
  of the map of its fields. Otherwise the detail page asks for more: a description, a list of
  facilities, and a list of texts under `photo`, where the lists only take its first element
  (`detailContent_ok_iff`). What all three read they agree on (`lists_agree_with_page`).
-/
import Mathlib.Data.Rat.Cast.Order
import Nginepyuk.Lib.DocStore
import Nginepyuk.Lib.Fields

namespace Nginepyuk.Hotels

open Lib.Fields Lib.DocStore

/-- The constructor arguments of `CardItem`. -/
structure CardItem where
  docId : String
  title : String
  city : String
  country : String
  rating : Rat
  price : Int64
  photo : String
deriving DecidableEq, Repr

/-- The constructor arguments of `RecommendItem`. -/
structure RecommendItem where
  docId : String
  title : String
  city : String
  rating : Rat
  photo : String
deriving DecidableEq, Repr

/-- What `DetailPage` shows of a document: the images of `header` and the arguments of
    `content`. -/
structure DetailContent where
  images : List String
  title : String
  city : String
  country : String
  description : String
  price : Int64
  facilities : List Value
  rating : Rat
  photo : String
deriving Repr

/-- `itemBuilder` of `cardList`. -/
def cardItem (docId : String) (hotel : Doc) : Except ReadError CardItem := do
  let title ← (← hotel.get "title").asString
  let city ← (← hotel.get "city").asString
  let country ← (← hotel.get "country").asString
  let rating ← (← hotel.get "rating").asDouble
  let price ← (← hotel.get "price").asInt
  let photo ← (← (← hotel.get "photo").first).asString
  return ⟨docId, title, city, country, rating, price, photo⟩

/-- `itemBuilder` of `mostPopular`, on both pages, and of `buildResults`. -/
def recommendItem (docId : String) (hotel : Doc) : Except ReadError RecommendItem := do
  let title ← (← hotel.get "title").asString
  let city ← (← hotel.get "city").asString
  let rating ← (← hotel.get "rating").asDouble
  let photo ← (← (← hotel.get "photo").first).asString
  return ⟨docId, title, city, rating, photo⟩

/-- `builder` of `DetailPage` on a snapshot with data; a document that is not there has none. -/
def detailContent : Option Doc → Except ReadError DetailContent
  | none => .error .noDocument
  | some data => do
      -- `header` makes an image of every photo at once.
      let images ← (← (data.entry "photo").asList).mapM Value.asString
      let title ← (data.entry "title").asString
      let city ← (data.entry "city").asString
      let country ← (data.entry "country").asString
      let description ← (data.entry "description").asString
      let price ← (data.entry "price").asInt
      let facilities ← (data.entry "facilities").asList
      let rating ← (data.entry "rating").asDouble
      let photo ← (← (data.entry "photo").first).asString
      return ⟨images, title, city, country, description, price, facilities, rating, photo⟩

/-- A document that all of them can read. -/
def sampleDoc : Doc :=
  [("title", .str "Aston"), ("city", .str "Solo"), ("country", .str "Indonesia"),
    ("description", .str "By the station"), ("price", .int 350), ("facilities", .list []),
    ("rating", .double 4), ("photo", .list [.str "front.jpg"])]

/-! ## What the readers accept -/

theorem cardItem_eq_ok {docId : String} {d : Doc} {c : CardItem} :
    cardItem docId d = .ok c ↔
      c.docId = docId ∧ d.lookup "title" = some (.str c.title) ∧
        d.lookup "city" = some (.str c.city) ∧ d.lookup "country" = some (.str c.country) ∧
        d.lookup "rating" = some (.double c.rating) ∧ d.lookup "price" = some (.int c.price) ∧
        ∃ v, d.lookup "photo" = some v ∧ v.first = .ok (.str c.photo) := by
  simp only [cardItem, bind_eq_ok, get_eq_ok, asString_eq_ok, asDouble_eq_ok, asInt_eq_ok]
  constructor
  · rintro ⟨_, ht, title, rfl, _, hci, city, rfl, _, hco, country, rfl, _, hr, rating, rfl, _, hp,
      price, rfl, v, hv, _, hf, photo, rfl, hc⟩
    obtain rfl := Except.ok.inj hc
    exact ⟨rfl, ht, hci, hco, hr, hp, v, hv, hf⟩
  · rintro ⟨rfl, ht, hci, hco, hr, hp, v, hv, hf⟩
    exact ⟨_, ht, _, rfl, _, hci, _, rfl, _, hco, _, rfl, _, hr, _, rfl, _, hp, _, rfl, v, hv, _,
      hf, _, rfl, rfl⟩

theorem recommendItem_eq_ok {docId : String} {d : Doc} {c : RecommendItem} :
    recommendItem docId d = .ok c ↔
      c.docId = docId ∧ d.lookup "title" = some (.str c.title) ∧
        d.lookup "city" = some (.str c.city) ∧ d.lookup "rating" = some (.double c.rating) ∧
        ∃ v, d.lookup "photo" = some v ∧ v.first = .ok (.str c.photo) := by
  simp only [recommendItem, bind_eq_ok, get_eq_ok, asString_eq_ok, asDouble_eq_ok]
  constructor
  · rintro ⟨_, ht, title, rfl, _, hci, city, rfl, _, hr, rating, rfl, v, hv, _, hf, photo, rfl, hc⟩
    obtain rfl := Except.ok.inj hc
    exact ⟨rfl, ht, hci, hr, v, hv, hf⟩
  · rintro ⟨rfl, ht, hci, hr, v, hv, hf⟩
    exact ⟨_, ht, _, rfl, _, hci, _, rfl, _, hr, _, rfl, v, hv, _, hf, _, rfl, rfl⟩

/-- The first element of a list of texts. -/
theorem first_texts_eq_ok {images : List String} {photo : String} :
    (Value.list (images.map Value.str)).first = .ok (.str photo) ↔ images.head? = some photo := by
  cases images with
  | nil => exact iff_of_false (fun h => nomatch h) (fun h => nomatch h)
  | cons image rest => simp [Value.first]

theorem detailContent_eq_ok {d : Doc} {p : DetailContent} :
    detailContent (some d) = .ok p ↔
      d.lookup "photo" = some (.list (p.images.map .str)) ∧ p.images.head? = some p.photo ∧
        d.lookup "title" = some (.str p.title) ∧ d.lookup "city" = some (.str p.city) ∧
        d.lookup "country" = some (.str p.country) ∧
        d.lookup "description" = some (.str p.description) ∧
        d.lookup "price" = some (.int p.price) ∧
        d.lookup "facilities" = some (.list p.facilities) ∧
        d.lookup "rating" = some (.double p.rating) := by
  have hstr : ∀ {field s}, d.entry field = .str s ↔ d.lookup field = some (.str s) :=
    fun {_ _} => entry_eq_iff (fun h => nomatch h)
  have hint : ∀ {field n}, d.entry field = .int n ↔ d.lookup field = some (.int n) :=
    fun {_ _} => entry_eq_iff (fun h => nomatch h)
  have hlist : ∀ {field l}, d.entry field = .list l ↔ d.lookup field = some (.list l) :=
    fun {_ _} => entry_eq_iff (fun h => nomatch h)
  have hdouble : ∀ {field x}, d.entry field = .double x ↔ d.lookup field = some (.double x) :=
    fun {_ _} => entry_eq_iff (fun h => nomatch h)
  simp only [detailContent, bind_eq_ok, asString_eq_ok, asDouble_eq_ok, asInt_eq_ok, asList_eq_ok,
    mapM_asString_eq_ok]
  constructor
  · rintro ⟨_, hph, images, rfl, title, ht, city, hci, country, hco, description, hde, price, hp,
      facilities, hfa, rating, hr, _, hf, photo, rfl, hc⟩
    obtain rfl := Except.ok.inj hc
    rw [hph] at hf
    exact ⟨hlist.mp hph, first_texts_eq_ok.mp hf, hstr.mp ht, hstr.mp hci, hstr.mp hco, hstr.mp hde,
      hint.mp hp, hlist.mp hfa, hdouble.mp hr⟩
  · rintro ⟨hph, hf, ht, hci, hco, hde, hp, hfa, hr⟩
    have hentry := hlist.mpr hph
    refine ⟨_, hentry, _, rfl, _, hstr.mpr ht, _, hstr.mpr hci, _, hstr.mpr hco, _, hstr.mpr hde, _,
      hint.mpr hp, _, hlist.mpr hfa, _, hdouble.mpr hr, .str p.photo, ?_, _, rfl, rfl⟩
    rw [hentry]
    exact first_texts_eq_ok.mpr hf

/-- What the detail page can show, the two items can show as well. -/
theorem items_of_detail (docId : String) {d : Doc} {p : DetailContent}
    (h : detailContent (some d) = .ok p) :
    cardItem docId d = .ok ⟨docId, p.title, p.city, p.country, p.rating, p.price, p.photo⟩ ∧
      recommendItem docId d = .ok ⟨docId, p.title, p.city, p.rating, p.photo⟩ := by
  obtain ⟨hph, hf, ht, hci, hco, -, hp, -, hr⟩ := detailContent_eq_ok.mp h
  have hfirst := first_texts_eq_ok.mpr hf
  constructor
  · exact cardItem_eq_ok.mpr ⟨rfl, ht, hci, hco, hr, hp, _, hph, hfirst⟩
  · exact recommendItem_eq_ok.mpr ⟨rfl, ht, hci, hr, _, hph, hfirst⟩

/-- The detail page shows a document exactly when its card can be built, it has a description
    and facilities, and what the card takes its photo from is a list of texts. -/
theorem detailContent_ok_iff (docId : String) (d : Doc) :
    (∃ p, detailContent (some d) = .ok p) ↔
      (∃ c, cardItem docId d = .ok c) ∧ ∃ description facilities, ∃ images : List String,
        d.lookup "description" = some (.str description) ∧
        d.lookup "facilities" = some (.list facilities) ∧
        d.lookup "photo" = some (.list (images.map .str)) := by
  constructor
  · rintro ⟨p, h⟩
    obtain ⟨hph, -, -, -, -, hde, -, hfa, -⟩ := detailContent_eq_ok.mp h
    exact ⟨⟨_, (items_of_detail docId h).1⟩, _, _, _, hde, hfa, hph⟩
  · rintro ⟨⟨c, h⟩, description, facilities, images, hde, hfa, hph⟩
    obtain ⟨_, ht, hci, hco, hr, hp, v, hv, hf⟩ := cardItem_eq_ok.mp h
    rw [hph] at hv
    obtain rfl := Option.some.inj hv
    exact ⟨⟨images, c.title, c.city, c.country, description, c.price, facilities, c.rating,
        c.photo⟩,
      detailContent_eq_ok.mpr ⟨hph, first_texts_eq_ok.mp hf, ht, hci, hco, hde, hp, hfa, hr⟩⟩

/-! ## The lists -/

/-- The exact value of the literal `4.8`. -/
def recommendedRating : Rat := 5404319552844595 / 2 ^ 50

/-- A number, by which queries compare integers and doubles alike. -/
def number? : Value → Option Rat
  | .int n => some n.toInt
  | .double x => some x
  | _ => none

/-- The rating that a query sees. -/
def rating? (hotel : Doc) : Option Rat := (hotel.lookup "rating").bind number?

/-- `where('rating', isGreaterThanOrEqualTo: 4.8)`, which orders by the rating. -/
def recommended (hotels : Collection Doc) : List (String × Doc) :=
  (hotels.query fun d => (rating? d).any fun x => recommendedRating ≤ x).mergeSort
    fun a b => (rating? a.2).getD 0 ≤ (rating? b.2).getD 0

/-- The cards of `cardList`, each built on its own. -/
def cardList (hotels : Collection Doc) : List (Except ReadError CardItem) :=
  (recommended hotels).map fun d => cardItem d.1 d.2

def isPopular (hotel : Doc) : Bool :=
  match hotel.lookup "isPopular" with
  | some (.bool b) => b
  | _ => false

/-- `where('isPopular', isEqualTo: true).limit(3)`, on the home page and on the search page. -/
def mostPopular (hotels : Collection Doc) : List (Except ReadError RecommendItem) :=
  ((hotels.query isPopular).take 3).map fun d => recommendItem d.1 d.2

theorem mem_recommended {hotels : Collection Doc} {d : String × Doc} :
    d ∈ recommended hotels ↔
      d ∈ hotels.docs ∧ ∃ x, rating? d.2 = some x ∧ recommendedRating ≤ x := by
  unfold recommended
  rw [List.mem_mergeSort, Collection.mem_query, Option.any_eq_true]
  simp only [decide_eq_true_eq]

theorem recommendedRating_le_int_iff (n : Int) : recommendedRating ≤ (n : Rat) ↔ 5 ≤ n := by
  have hlow : (4 : Rat) < recommendedRating := by decide +kernel
  have hhigh : recommendedRating ≤ 5 := by decide +kernel
  constructor
  · intro h
    have hlt : ((4 : Int) : Rat) < (n : Rat) := lt_of_lt_of_le hlow h
    have := Int.cast_lt.mp hlt
    omega
  · intro h
    exact le_trans hhigh (by exact_mod_cast h)

/-- A card shows a rating that the query let through, and what the page behind it shows. -/
theorem card_shown {hotels : Collection Doc} {c : CardItem} (h : .ok c ∈ cardList hotels) :
    recommendedRating ≤ c.rating ∧ ∀ p, detailContent (hotels.doc c.docId) = .ok p →
      c = ⟨c.docId, p.title, p.city, p.country, p.rating, p.price, p.photo⟩ := by
  obtain ⟨d, hd, hc⟩ := List.mem_map.mp h
  obtain ⟨hid, -, -, -, hr, -⟩ := cardItem_eq_ok.mp hc
  obtain ⟨hmem, x, hx, hle⟩ := mem_recommended.mp hd
  constructor
  · rw [rating?, hr] at hx
    rw [Option.some.inj hx]
    exact hle
  · intro p hpage
    rw [hid, Collection.doc_eq_some hmem] at hpage
    rw [(items_of_detail d.1 hpage).1] at hc
    rw [← Except.ok.inj hc]

theorem popular_shown {hotels : Collection Doc} {r : RecommendItem}
    (h : .ok r ∈ mostPopular hotels) {p : DetailContent}
    (hpage : detailContent (hotels.doc r.docId) = .ok p) :
    r = ⟨r.docId, p.title, p.city, p.rating, p.photo⟩ := by
  obtain ⟨d, hd, hc⟩ := List.mem_map.mp h
  have hid := (recommendItem_eq_ok.mp hc).1
  have hmem := (Collection.mem_query.mp (List.mem_of_mem_take hd)).1
  rw [hid, Collection.doc_eq_some hmem] at hpage
  rw [(items_of_detail d.1 hpage).2] at hc
  rw [← Except.ok.inj hc]

/-- **Lists and pages agree.** A card in the recommended list shows a rating that the query let
    through; cards and items of the lists show what the page behind them shows, if it shows
    anything. A page shows its document exactly when its card could be built and the document
    has the three fields that only the page asks for. A rating stored as an integer is let
    through from 5 on, and then there is neither card nor page. -/
theorem lists_agree_with_page (hotels : Collection Doc) :
    (∀ c, .ok c ∈ cardList hotels → recommendedRating ≤ c.rating ∧
      ∀ p, detailContent (hotels.doc c.docId) = .ok p →
        c = ⟨c.docId, p.title, p.city, p.country, p.rating, p.price, p.photo⟩) ∧
    (∀ r, .ok r ∈ mostPopular hotels → ∀ p, detailContent (hotels.doc r.docId) = .ok p →
      r = ⟨r.docId, p.title, p.city, p.rating, p.photo⟩) ∧
    (∀ d ∈ hotels.docs, (∃ p, detailContent (hotels.doc d.1) = .ok p) ↔
      (∃ c, cardItem d.1 d.2 = .ok c) ∧ ∃ description facilities, ∃ images : List String,
        d.2.lookup "description" = some (.str description) ∧
        d.2.lookup "facilities" = some (.list facilities) ∧
        d.2.lookup "photo" = some (.list (images.map .str))) ∧
    ∀ d ∈ hotels.docs, ∀ n : Int64, d.2.lookup "rating" = some (.int n) →
      (d ∈ recommended hotels ↔ 5 ≤ n.toInt) ∧ (∀ c, cardItem d.1 d.2 ≠ .ok c) ∧
        ∀ p, detailContent (hotels.doc d.1) ≠ .ok p := by
  refine ⟨fun c h => card_shown h, fun r h p hp => popular_shown h hp, ?_, ?_⟩
  · intro d hd
    rw [Collection.doc_eq_some hd]
    exact detailContent_ok_iff d.1 d.2
  · intro d hd n hn
    have hno : ∀ c, cardItem d.1 d.2 ≠ .ok c := by
      intro c hc
      obtain ⟨_, _, _, _, hr, _⟩ := cardItem_eq_ok.mp hc
      rw [hn] at hr
      exact nomatch hr
    refine ⟨?_, hno, ?_⟩
    · rw [mem_recommended, rating?, hn]
      simp only [hd, true_and, Option.bind_some, number?, Option.some.injEq, exists_eq_left']
      exact recommendedRating_le_int_iff n.toInt
    · intro p hp
      rw [Collection.doc_eq_some hd] at hp
      exact hno _ (items_of_detail d.1 hp).1

end Nginepyuk.Hotels
