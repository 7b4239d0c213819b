/-
  JSON texts of lists of strings: `jsonEncode`, `jsonDecode` and `jsonDecode_jsonEncode`.

  `jsonEncode` writes no blanks; in a string it escapes the quote, the backslash and the
  control characters, these by a short escape where JSON has one and by `\u00xx` otherwise.
  `jsonDecode` is the part of a JSON reader that reads lists of strings, with blanks between
  the tokens and every escape of one character. It is an automaton that takes a character at
  a time, so that the reading of a text is a fold and the readings of its parts compose.
-/
import Mathlib.Data.List.Basic

namespace Lib.Json

/-! ## Writing -/

def quote : Char := Char.ofNat 0x22
def backslash : Char := Char.ofNat 0x5C

def hexDigit (n : Nat) : Char := if n < 10 then Char.ofNat (0x30 + n) else Char.ofNat (0x57 + n)

/-- The letters of the short escapes, with the characters they stand for. -/
def shortEscapes : List (Char × Char) :=
  [(quote, quote), (backslash, backslash), ('b', Char.ofNat 0x8), ('t', Char.ofNat 0x9),
    ('n', Char.ofNat 0xA), ('f', Char.ofNat 0xC), ('r', Char.ofNat 0xD)]

def escape (c : Char) : List Char :=
  match shortEscapes.find? fun p => p.2 == c with
  | some p => [backslash, p.1]
  | none =>
      if c.toNat < 0x20 then
        [backslash, 'u', '0', '0', hexDigit (c.toNat / 16), hexDigit (c.toNat % 16)]
      else [c]

def encodeString (s : String) : List Char := quote :: s.toList.flatMap escape ++ [quote]

def encodeItems : List String → List Char
  | [] => []
  | s :: rest => encodeString s ++ rest.flatMap fun t => ',' :: encodeString t

def jsonEncode (l : List String) : String := String.ofList ('[' :: encodeItems l ++ [']'])

/-! ## Reading -/

/-- Where in the text the reader is: before the list, before its first item or its end, before
    an item, in a string, after a backslash, in the digits after `\u` (how many, and their
    value so far), after an item, after the list; or the text is none of a list of strings. -/
inductive Mode where
  | start
  | first
  | item
  | chars
  | escaped
  | hex (count value : Nat)
  | after
  | stop
  | bad
deriving DecidableEq, Repr

/-- The reader: the finished strings and the characters of the present one, latest first. -/
structure Reader where
  mode : Mode
  items : List String
  cur : List Char
deriving DecidableEq, Repr

def isBlank (c : Char) : Bool := c == ' ' || c == '\t' || c == '\n' || c == '\r'

def hexValue (c : Char) : Option Nat :=
  let n := c.toNat
  if 0x30 ≤ n ∧ n ≤ 0x39 then some (n - 0x30)
  else if 0x61 ≤ n ∧ n ≤ 0x66 then some (n - 0x57)
  else if 0x41 ≤ n ∧ n ≤ 0x46 then some (n - 0x37)
  else none

def Reader.go (r : Reader) (mode : Mode) : Reader := { r with mode := mode }

/-- A character of the present string. -/
def Reader.push (r : Reader) (c : Char) : Reader := { r with mode := .chars, cur := c :: r.cur }

/-- Between tokens: blanks are skipped. -/
def Reader.blankOr (r : Reader) (c : Char) (next : Reader) : Reader := if isBlank c then r else next

def Reader.step (r : Reader) (c : Char) : Reader :=
  match r.mode with
  | .start => r.blankOr c (r.go (if c = '[' then .first else .bad))
  | .first => r.blankOr c (r.go (if c = quote then .chars else if c = ']' then .stop else .bad))
  | .item => r.blankOr c (r.go (if c = quote then .chars else .bad))
  | .chars =>
      if c = quote then ⟨.after, String.ofList r.cur.reverse :: r.items, []⟩
      else if c = backslash then r.go .escaped
      else if c.toNat < 0x20 then r.go .bad
      else r.push c
  | .escaped =>
      if c = 'u' then r.go (.hex 0 0)
      else if c = '/' then r.push c
      else
        match shortEscapes.find? fun p => p.1 == c with
        | some p => r.push p.2
        | none => r.go .bad
  | .hex count value =>
      match hexValue c with
      | some d =>
          if count < 3 then r.go (.hex (count + 1) (value * 16 + d))
          -- Half of a surrogate pair is no character.
          else if (value * 16 + d).isValidChar then r.push (Char.ofNat (value * 16 + d))
          else r.go .bad
      | none => r.go .bad
  | .after => r.blankOr c (r.go (if c = ',' then .item else if c = ']' then .stop else .bad))
  | .stop => r.blankOr c (r.go .bad)
  | .bad => r

def Reader.read (r : Reader) (cs : List Char) : Reader := cs.foldl Reader.step r

/-- The list of strings in the text, if it is one. -/
def jsonDecode (s : String) : Option (List String) :=
  let r := Reader.read ⟨.start, [], []⟩ s.toList
  if r.mode = .stop then some r.items.reverse else none

/-! ## Reading what was written -/

theorem read_append (r : Reader) (cs ds : List Char) : r.read (cs ++ ds) = (r.read cs).read ds :=
  List.foldl_append

theorem read_cons (r : Reader) (c : Char) (cs : List Char) :
    r.read (c :: cs) = (r.step c).read cs := rfl

theorem hexValue_hexDigit : ∀ n < 16, hexValue (hexDigit n) = some n := by decide

/-- A control character by its code. -/
theorem read_control (items : List String) (cur : List Char) (c : Char) (hc : c.toNat < 0x20) :
    Reader.read ⟨.chars, items, cur⟩
      [backslash, 'u', '0', '0', hexDigit (c.toNat / 16), hexDigit (c.toNat % 16)] =
      ⟨.chars, items, c :: cur⟩ := by
  have h1 := hexValue_hexDigit (c.toNat / 16) (by omega)
  have h2 := hexValue_hexDigit (c.toNat % 16) (by omega)
  have hsum : c.toNat / 16 * 16 + c.toNat % 16 = c.toNat := by omega
  have hvalid : c.toNat.isValidChar := Or.inl (by omega)
  have hstart : Reader.read ⟨.chars, items, cur⟩ [backslash, 'u', '0', '0'] =
      ⟨.hex 2 0, items, cur⟩ := rfl
  rw [show [backslash, 'u', '0', '0', hexDigit (c.toNat / 16), hexDigit (c.toNat % 16)] =
    [backslash, 'u', '0', '0'] ++ [hexDigit (c.toNat / 16), hexDigit (c.toNat % 16)] from rfl,
    read_append, hstart]
  simp only [Reader.read, List.foldl_cons, List.foldl_nil, Reader.step, h1, h2, Reader.go]
  simp [hsum, hvalid, Reader.push]

/-- The short escapes are read back. -/
theorem read_short (items : List String) (cur : List Char) :
    ∀ p ∈ shortEscapes,
      Reader.read ⟨.chars, items, cur⟩ [backslash, p.1] = ⟨.chars, items, p.2 :: cur⟩ := by
  simp only [shortEscapes, List.forall_mem_cons, List.not_mem_nil, false_imp_iff, implies_true,
    and_true]
  exact ⟨rfl, rfl, rfl, rfl, rfl, rfl, rfl⟩

theorem read_escape (items : List String) (cur : List Char) (c : Char) :
    Reader.read ⟨.chars, items, cur⟩ (escape c) = ⟨.chars, items, c :: cur⟩ := by
  unfold escape
  split
  · next p hp =>
      have hpc : p.2 = c := by simpa using List.find?_some hp
      rw [read_short items cur p (List.mem_of_find?_eq_some hp), hpc]
  · next hnone =>
      have hne : ∀ p ∈ shortEscapes, p.2 ≠ c := by
        intro p hp he
        exact List.find?_eq_none.mp hnone p hp (beq_iff_eq.mpr he)
      split
      · next hc => exact read_control items cur c hc
      · next hc =>
          have hq : c ≠ quote := (hne (quote, quote) (by decide)).symm
          have hb : c ≠ backslash := (hne (backslash, backslash) (by decide)).symm
          rw [read_cons, Reader.step]
          simp only [if_neg hq, if_neg hb, if_neg hc]
          rfl

theorem read_chars (items : List String) (cur cs : List Char) :
    Reader.read ⟨.chars, items, cur⟩ (cs.flatMap escape) = ⟨.chars, items, cs.reverse ++ cur⟩ := by
  induction cs generalizing cur with
  | nil => rfl
  | cons c cs ih =>
      rw [List.flatMap_cons, read_append, read_escape, ih, List.reverse_cons, List.append_assoc]
      rfl

/-- A string where one may stand. -/
theorem read_encodeString {r : Reader} (hmode : r.mode = .first ∨ r.mode = .item)
    (hcur : r.cur = []) (s : String) :
    r.read (encodeString s) = ⟨.after, s :: r.items, []⟩ := by
  have hopen : r.step quote = ⟨.chars, r.items, []⟩ := by
    obtain ⟨mode, items, cur⟩ := r
    obtain rfl : cur = [] := hcur
    rcases hmode with hmode | hmode
    · obtain rfl : mode = .first := hmode
      rfl
    · obtain rfl : mode = .item := hmode
      rfl
  rw [encodeString, List.cons_append, read_cons, hopen, read_append, read_chars,
    List.append_nil]
  show (⟨.after, String.ofList s.toList.reverse.reverse :: r.items, []⟩ : Reader) = _
  rw [List.reverse_reverse, String.ofList_toList]

theorem read_more (items : List String) (l : List String) :
    Reader.read ⟨.after, items, []⟩ (l.flatMap fun t => ',' :: encodeString t) =
      ⟨.after, l.reverse ++ items, []⟩ := by
  induction l generalizing items with
  | nil => rfl
  | cons s l ih =>
      have hcomma : Reader.step ⟨.after, items, []⟩ ',' = ⟨.item, items, []⟩ := rfl
      rw [List.flatMap_cons, List.cons_append, read_cons, hcomma, read_append,
        read_encodeString (Or.inr rfl) rfl, ih, List.reverse_cons, List.append_assoc]
      rfl

/-- `jsonDecode` inverts `jsonEncode`. -/
@[simp] theorem jsonDecode_jsonEncode (l : List String) : jsonDecode (jsonEncode l) = some l := by
  have hopen : Reader.step ⟨.start, [], []⟩ '[' = ⟨.first, [], []⟩ := rfl
  have hread : Reader.read ⟨.start, [], []⟩ ('[' :: encodeItems l ++ [']']) =
      ⟨.stop, l.reverse, []⟩ := by
    rw [List.cons_append, read_cons, hopen, read_append]
    cases l with
    | nil => rfl
    | cons s l =>
        rw [encodeItems, read_append, read_encodeString (Or.inl rfl) rfl, read_more,
          ← List.reverse_cons]
        rfl
  unfold jsonDecode jsonEncode
  rw [String.toList_ofList, hread]
  simp

example : jsonEncode ["a", "b"] = String.ofList
    ['[', quote, 'a', quote, ',', quote, 'b', quote, ']'] := by decide

end Lib.Json
