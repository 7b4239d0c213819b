/-
  Dates as texts: the pattern `yyyy-MM-dd` and reading it back.

  `text` pads the year to four digits and the month and the day to two; the sign of the year is
  not printed. `read` takes an optional sign, a year of four to six digits (as many as it can),
  and a month and a day of two digits each, with or without hyphens before them. A time of day
  after the date is not read here.

  `read_text_iff`: a printed date reads back as itself exactly when its year is from 0 to
  999999.
-/
import Mathlib.Algebra.Group.Nat.Defs
import Nginepyuk.Lib.Civil

namespace Lib.DateText

open Lib.Civil

/-- `n` in decimal, with zeros in front up to `w` digits. -/
def pad (w n : Nat) : List Char := (Nat.toDigits 10 n).leftpad w '0'

/-- The characters of a printed date. -/
def chars (c : CivilDate) : List Char :=
  pad 4 c.year.natAbs ++ '-' :: (pad 2 c.month.natAbs ++ '-' :: pad 2 c.day.natAbs)

def text (c : CivilDate) : String := String.ofList (chars c)

/-- The number in the first `k` characters, if they are digits, and the rest. -/
def number (k : Nat) (l : List Char) : Option (Nat × List Char) :=
  if (l.take k).length = k ∧ (l.take k).all Char.isDigit = true then
    some (Nat.ofDigitChars 10 (l.take k) 0, l.drop k)
  else none

def skipHyphen : List Char → List Char
  | '-' :: l => l
  | l => l

/-- A date whose year has `k` digits, and nothing after it. -/
def date (k : Nat) (l : List Char) : Option (Nat × Nat × Nat) := do
  let (year, l) ← number k l
  let (month, l) ← number 2 (skipHyphen l)
  let (day, l) ← number 2 (skipHyphen l)
  if l.isEmpty then some (year, month, day) else none

def unsigned (l : List Char) : Option (Nat × Nat × Nat) := [6, 5, 4].findSome? fun k => date k l

def readChars : List Char → Option CivilDate
  | '-' :: l => (unsigned l).map fun d => ⟨-d.1, d.2.1, d.2.2⟩
  | '+' :: l => (unsigned l).map fun d => ⟨d.1, d.2.1, d.2.2⟩
  | l => (unsigned l).map fun d => ⟨d.1, d.2.1, d.2.2⟩

def read (s : String) : Option CivilDate := readChars s.toList

/-! ## Numbers -/

theorem isDigit_pad {w n : Nat} : (pad w n).all Char.isDigit = true := by
  rw [List.all_eq_true]
  intro c hc
  rcases List.mem_append.mp hc with hc | hc
  · rw [(List.mem_replicate.mp hc).2]
    rfl
  · exact Nat.isDigit_of_mem_toDigits (by decide) (by decide) hc

theorem ofDigitChars_pad (w n : Nat) : Nat.ofDigitChars 10 (pad w n) 0 = n := by
  rw [pad, List.leftpad, Nat.ofDigitChars_append, Nat.ofDigitChars_replicate_zero, Nat.mul_zero,
    Nat.ofDigitChars_ten_toDigits]

theorem length_pad (w n : Nat) : (pad w n).length = max w (Nat.toDigits 10 n).length :=
  List.length_leftpad

theorem length_pad_eq {w n : Nat} (hw : 0 < w) (h : n < 10 ^ w) : (pad w n).length = w := by
  rw [length_pad, Nat.max_eq_left ((Nat.length_toDigits_le_iff (by decide) hw).mpr h)]

/-- The digits of a number are read as the number. -/
theorem number_append {k : Nat} {l : List Char} (hlen : l.length = k)
    (hl : l.all Char.isDigit = true) (rest : List Char) :
    number k (l ++ rest) = some (Nat.ofDigitChars 10 l 0, rest) := by
  have htake : (l ++ rest).take k = l := by
    rw [← hlen]
    exact List.take_left
  have hdrop : (l ++ rest).drop k = rest := by
    rw [← hlen]
    exact List.drop_left
  rw [number, htake, hdrop, if_pos ⟨hlen, hl⟩]

/-- A hyphen is no digit. -/
theorem number_hyphen {k : Nat} {l rest : List Char} (hlen : l.length < k) :
    number k (l ++ '-' :: rest) = none := by
  rw [number, if_neg]
  rintro ⟨_, hall⟩
  have hmem : '-' ∈ (l ++ '-' :: rest).take k := by
    rw [List.take_append]
    refine List.mem_append_right _ ?_
    obtain ⟨m, hm⟩ := Nat.exists_eq_add_of_lt hlen
    rw [show k - l.length = m + 1 by omega, List.take_succ_cons]
    exact List.mem_cons_self
  exact absurd (List.all_eq_true.mp hall _ hmem) (by decide)

theorem ofDigitChars_lt {l : List Char} (h : l.all Char.isDigit = true) :
    Nat.ofDigitChars 10 l 0 < 10 ^ l.length := by
  induction l with
  | nil => exact Nat.one_pos
  | cons c l ih =>
      rw [List.all_cons, Bool.and_eq_true] at h
      have hrest := ih h.2
      have hc : c.toNat - '0'.toNat < 10 := by
        have hdigit := h.1
        simp only [Char.isDigit, Bool.and_eq_true, decide_eq_true_eq] at hdigit
        have hle : c.toNat ≤ '9'.toNat := hdigit.2
        have h9 : '9'.toNat = 57 := rfl
        have h0 : '0'.toNat = 48 := rfl
        omega
      rw [Nat.ofDigitChars_cons, Nat.ofDigitChars_eq_ofDigitChars_zero, List.length_cons,
        Nat.pow_succ, Nat.mul_zero, Nat.zero_add]
      have hmul : 10 ^ l.length * (c.toNat - '0'.toNat) ≤ 10 ^ l.length * 9 :=
        Nat.mul_le_mul_left _ (by omega)
      omega

theorem number_lt {k n : Nat} {l rest : List Char} (h : number k l = some (n, rest)) :
    n < 10 ^ k := by
  unfold number at h
  split at h
  · next hd =>
      obtain ⟨rfl, _⟩ := Prod.mk.inj (Option.some.inj h)
      have hlt := ofDigitChars_lt hd.2
      rw [hd.1] at hlt
      exact hlt
  · exact nomatch h

/-! ## Reading a printed date -/

theorem date_chars {c : CivilDate} {k : Nat} (hk : (pad 4 c.year.natAbs).length = k)
    (hm : c.month.natAbs < 100) (hd : c.day.natAbs < 100) :
    date k (chars c) = some (c.year.natAbs, c.month.natAbs, c.day.natAbs) := by
  have hyear := number_append hk isDigit_pad
    ('-' :: (pad 2 c.month.natAbs ++ '-' :: pad 2 c.day.natAbs))
  have hmonth := number_append (length_pad_eq (w := 2) (by decide) hm) isDigit_pad
    ('-' :: pad 2 c.day.natAbs)
  have hday := number_append (length_pad_eq (w := 2) (by decide) hd) isDigit_pad []
  rw [List.append_nil] at hday
  simp only [ofDigitChars_pad] at hyear hmonth hday
  simp only [date, chars, hyear, Option.bind_eq_bind, Option.bind_some, skipHyphen, hmonth, hday,
    List.isEmpty_nil, if_true]

theorem date_none {c : CivilDate} {k : Nat} (hk : (pad 4 c.year.natAbs).length < k) :
    date k (chars c) = none := by
  rw [date, chars, number_hyphen hk]
  rfl

theorem unsigned_chars {c : CivilDate} (hy : c.year.natAbs < 10 ^ 6) (hm : c.month.natAbs < 100)
    (hd : c.day.natAbs < 100) :
    unsigned (chars c) = some (c.year.natAbs, c.month.natAbs, c.day.natAbs) := by
  have hmin : 4 ≤ (pad 4 c.year.natAbs).length := by
    rw [length_pad]
    exact Nat.le_max_left _ _
  have hmax : (pad 4 c.year.natAbs).length ≤ 6 := by
    rw [length_pad]
    exact Nat.max_le.mpr ⟨by decide, (Nat.length_toDigits_le_iff (by decide) (by decide)).mpr hy⟩
  unfold unsigned
  by_cases h6 : (pad 4 c.year.natAbs).length = 6
  · rw [List.findSome?_cons, date_chars h6 hm hd]
  · rw [List.findSome?_cons, date_none (by omega)]
    by_cases h5 : (pad 4 c.year.natAbs).length = 5
    · rw [List.findSome?_cons, date_chars h5 hm hd]
    · rw [List.findSome?_cons, date_none (by omega), List.findSome?_cons,
        date_chars (by omega) hm hd]

/-- What a text that starts with a digit is read as. -/
theorem readChars_chars (c : CivilDate) :
    readChars (chars c) = (unsigned (chars c)).map fun d => ⟨d.1, d.2.1, d.2.2⟩ := by
  have hall : (pad 4 c.year.natAbs).all Char.isDigit = true := isDigit_pad
  have hlen : 4 ≤ (pad 4 c.year.natAbs).length := by
    rw [length_pad]
    exact Nat.le_max_left _ _
  unfold chars
  cases hp : pad 4 c.year.natAbs with
  | nil =>
      rw [hp] at hlen
      exact absurd hlen (by decide)
  | cons d ds =>
      rw [hp, List.all_cons, Bool.and_eq_true] at hall
      rw [List.cons_append]
      unfold readChars
      split
      · next heq =>
          obtain ⟨rfl, _⟩ := List.cons.inj heq
          exact absurd hall.1 (by decide)
      · next heq =>
          obtain ⟨rfl, _⟩ := List.cons.inj heq
          exact absurd hall.1 (by decide)
      · rfl

theorem unsigned_year_lt {l : List Char} {d : Nat × Nat × Nat} (h : unsigned l = some d) :
    d.1 < 10 ^ 6 := by
  obtain ⟨k, hk, hdate⟩ := List.exists_of_findSome?_eq_some h
  have hk6 : k ≤ 6 := by
    simp only [List.mem_cons, List.not_mem_nil, or_false] at hk
    omega
  unfold date at hdate
  simp only [Option.bind_eq_bind, Option.bind_eq_some_iff] at hdate
  obtain ⟨⟨year, l1⟩, hyear, ⟨month, l2⟩, _, ⟨day, l3⟩, _, hend⟩ := hdate
  split at hend
  · obtain rfl := Option.some.inj hend
    exact Nat.lt_of_lt_of_le (number_lt hyear) (Nat.pow_le_pow_right (by decide) hk6)
  · exact nomatch hend

/-- A month and a day that the pattern prints in two digits. -/
def TwoDigits (c : CivilDate) : Prop := 0 ≤ c.month ∧ c.month < 100 ∧ 0 ≤ c.day ∧ c.day < 100

/-- The years that the pattern prints and `read` takes. -/
def YearInRange (c : CivilDate) : Prop := 0 ≤ c.year ∧ c.year < 1000000

instance (c : CivilDate) : Decidable (YearInRange c) := inferInstanceAs (Decidable (_ ∧ _))

/-- A printed date reads back as itself exactly when its year is in range. -/
theorem read_text_iff {c : CivilDate} (h : TwoDigits c) :
    read (text c) = some c ↔ YearInRange c := by
  obtain ⟨hm0, hm1, hd0, hd1⟩ := h
  unfold read text
  rw [String.toList_ofList, readChars_chars]
  constructor
  · intro hread
    obtain ⟨d, hd, hc⟩ := Option.map_eq_some_iff.mp hread
    have hlt := unsigned_year_lt hd
    have hyear : (d.1 : Int) = c.year := congrArg CivilDate.year hc
    unfold YearInRange
    omega
  · rintro ⟨hy0, hy1⟩
    rw [unsigned_chars (by omega) (by omega) (by omega)]
    simp only [Option.map_some, Int.natAbs_of_nonneg hy0, Int.natAbs_of_nonneg hm0,
      Int.natAbs_of_nonneg hd0]

/-- A printed calendar date has a month and a day of two digits. -/
theorem twoDigits_ofDays (z : Int) : TwoDigits (CivilDate.ofDays z) := by
  obtain ⟨_, _, hd0, hd1⟩ := eraSplit_bounds z
  unfold TwoDigits CivilDate.ofDays CivilDate.ofMarch
  simp only
  split <;> omega

end Lib.DateText
