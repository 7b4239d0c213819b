/-
  Documents whose fields are typed at run time, and reading them.

  A reader takes a field of the document, or an entry of a map, and converts it to the type
  that it is needed at; either may fail (`ReadError`). A missing field of a document is an
  error of its own, a missing entry of a map is `null` and fails at the conversion.

  Each conversion has one lemma, which says of which values it returns what; `bind_eq_ok`
  takes a sequence of reads apart.
-/
import Mathlib.Data.List.Forall2

namespace Lib.Fields

/-- A value of a field. A `double` is finite and stands for its exact value. -/
inductive Value where
  | null
  | bool (b : Bool)
  | int (n : Int64)
  | double (x : Rat)
  | str (s : String)
  | list (l : List Value)
  | map (entries : List (String × Value))
deriving Repr

/-- The fields of a document. -/
abbrev Doc := List (String × Value)

/-- The types that a value is converted to. -/
inductive Kind where
  | string
  | int
  | double
  | bool
  | list
deriving DecidableEq, Repr

/-- Why a read fails: the document has no such field, the value is of another type, the list
    or text is empty, the value cannot be indexed, or there is no document. -/
inductive ReadError where
  | noField (field : String)
  | notOfKind (kind : Kind)
  | outOfRange
  | noIndex
  | noDocument
deriving DecidableEq, Repr

/-- A field of a document. -/
def Doc.get (d : Doc) (field : String) : Except ReadError Value :=
  match d.lookup field with
  | some v => .ok v
  | none => .error (.noField field)

/-- An entry of a map; `null` when it is missing. -/
def Doc.entry (d : Doc) (field : String) : Value := (d.lookup field).getD .null

/-! ## Conversions -/

def Value.str? : Value → Option String
  | .str s => some s
  | _ => none

def Value.int? : Value → Option Int64
  | .int n => some n
  | _ => none

def Value.double? : Value → Option Rat
  | .double x => some x
  | _ => none

def Value.bool? : Value → Option Bool
  | .bool b => some b
  | _ => none

def Value.list? : Value → Option (List Value)
  | .list l => some l
  | _ => none

/-- The conversion to `kind`, which `select` defines. -/
def convert {β : Type} (kind : Kind) (select : Value → Option β) (v : Value) :
    Except ReadError β :=
  match select v with
  | some x => .ok x
  | none => .error (.notOfKind kind)

def Value.asString : Value → Except ReadError String := convert .string Value.str?
def Value.asInt : Value → Except ReadError Int64 := convert .int Value.int?
def Value.asDouble : Value → Except ReadError Rat := convert .double Value.double?
def Value.asBool : Value → Except ReadError Bool := convert .bool Value.bool?
def Value.asList : Value → Except ReadError (List Value) := convert .list Value.list?

/-- The element at index 0 of a list or a text. A map has no entry under a number. Of a text it is
    the first character, where Dart takes the first UTF-16 code unit: they differ only for a
    character beyond the basic plane. -/
def Value.first : Value → Except ReadError Value
  | .list (v :: _) => .ok v
  | .list [] => .error .outOfRange
  | .str s =>
      match s.toList with
      | c :: _ => .ok (.str (String.singleton c))
      | [] => .error .outOfRange
  | .map _ => .ok .null
  | _ => .error .noIndex

/-! ## What a read returns -/

theorem bind_eq_ok {α β : Type} {x : Except ReadError α} {f : α → Except ReadError β} {b : β} :
    (x >>= f) = .ok b ↔ ∃ a, x = .ok a ∧ f a = .ok b := by
  cases x with
  | error e =>
      constructor
      · intro h
        exact nomatch h
      · rintro ⟨a, ha, _⟩
        exact nomatch ha
  | ok a =>
      constructor
      · intro h
        exact ⟨a, rfl, h⟩
      · rintro ⟨a', ha, h⟩
        obtain rfl := Except.ok.inj ha
        exact h

theorem get_eq_ok {d : Doc} {field : String} {v : Value} :
    d.get field = .ok v ↔ d.lookup field = some v := by
  unfold Doc.get
  cases d.lookup field with
  | none => simp
  | some v' => simp

theorem convert_eq_ok {β : Type} {kind : Kind} {select : Value → Option β} {v : Value} {x : β} :
    convert kind select v = .ok x ↔ select v = some x := by
  unfold convert
  cases select v with
  | none => simp
  | some y => simp

theorem asString_eq_ok {v : Value} {s : String} : v.asString = .ok s ↔ v = .str s := by
  rw [Value.asString, convert_eq_ok]
  cases v <;> simp [Value.str?]

theorem asInt_eq_ok {v : Value} {n : Int64} : v.asInt = .ok n ↔ v = .int n := by
  rw [Value.asInt, convert_eq_ok]
  cases v <;> simp [Value.int?]

theorem asDouble_eq_ok {v : Value} {x : Rat} : v.asDouble = .ok x ↔ v = .double x := by
  rw [Value.asDouble, convert_eq_ok]
  cases v <;> simp [Value.double?]

theorem asBool_eq_ok {v : Value} {b : Bool} : v.asBool = .ok b ↔ v = .bool b := by
  rw [Value.asBool, convert_eq_ok]
  cases v <;> simp [Value.bool?]

theorem asList_eq_ok {v : Value} {l : List Value} : v.asList = .ok l ↔ v = .list l := by
  rw [Value.asList, convert_eq_ok]
  cases v <;> simp [Value.list?]

/-- An entry that is not `null` is there. -/
theorem entry_eq_iff {d : Doc} {field : String} {v : Value} (hv : v ≠ .null) :
    d.entry field = v ↔ d.lookup field = some v := by
  unfold Doc.entry
  cases d.lookup field with
  | none => exact ⟨fun h => absurd h.symm hv, fun h => nomatch h⟩
  | some v' => exact Option.some_inj.symm

/-! ## Reading every element of a list -/

theorem mapM_eq_ok {α β : Type} {f : α → Except ReadError β} {l : List α} {ys : List β} :
    l.mapM f = .ok ys ↔ List.Forall₂ (fun x y => f x = .ok y) l ys := by
  induction l generalizing ys with
  | nil =>
      rw [List.mapM_nil, List.forall₂_nil_left_iff]
      exact ⟨fun h => (Except.ok.inj h).symm, fun h => congrArg Except.ok h.symm⟩
  | cons x l ih =>
      rw [List.mapM_cons, bind_eq_ok, List.forall₂_cons_left_iff]
      constructor
      · rintro ⟨y, hy, h⟩
        obtain ⟨ys', hys, hpure⟩ := bind_eq_ok.mp h
        exact ⟨y, ys', hy, ih.mp hys, (Except.ok.inj hpure).symm⟩
      · rintro ⟨y, ys', hy, hys, rfl⟩
        exact ⟨y, hy, bind_eq_ok.mpr ⟨ys', ih.mpr hys, rfl⟩⟩

/-- Reading stops at the first element that cannot be read. -/
theorem mapM_eq_error {α β : Type} {f : α → Except ReadError β} {l : List α} {err : ReadError} :
    l.mapM f = .error err ↔
      ∃ pre x post, l = pre ++ x :: post ∧ (∀ y ∈ pre, ∃ b, f y = .ok b) ∧ f x = .error err := by
  induction l with
  | nil =>
      rw [List.mapM_nil]
      refine iff_of_false (fun h => nomatch h) ?_
      rintro ⟨pre, x, post, hl, _⟩
      exact List.append_ne_nil_of_right_ne_nil pre (List.cons_ne_nil x post) hl.symm
  | cons a l ih =>
      rw [List.mapM_cons]
      cases ha : f a with
      | error e =>
          constructor
          · intro h
            obtain rfl := Except.error.inj h
            exact ⟨[], a, l, rfl, fun _ hy => (nomatch hy), ha⟩
          · rintro ⟨pre, x, post, hl, hpre, hx⟩
            cases pre with
            | nil =>
                obtain ⟨rfl, _⟩ := List.cons.inj hl
                rw [ha] at hx
                exact hx ▸ rfl
            | cons y pre =>
                obtain ⟨rfl, _⟩ := List.cons.inj hl
                obtain ⟨b, hb⟩ := hpre a List.mem_cons_self
                exact nomatch ha.symm.trans hb
      | ok b =>
          have hrest : ((Except.ok b : Except ReadError β) >>= fun y =>
              l.mapM f >>= fun ys => pure (y :: ys)) = .error err ↔ l.mapM f = .error err := by
            cases l.mapM f with
            | error e => exact Iff.rfl
            | ok ys => exact iff_of_false (fun h => nomatch h) (fun h => nomatch h)
          rw [hrest, ih]
          constructor
          · rintro ⟨pre, x, post, rfl, hpre, hx⟩
            refine ⟨a :: pre, x, post, rfl, ?_, hx⟩
            exact List.forall_mem_cons.mpr ⟨⟨b, ha⟩, hpre⟩
          · rintro ⟨pre, x, post, hl, hpre, hx⟩
            cases pre with
            | nil =>
                obtain ⟨rfl, _⟩ := List.cons.inj hl
                exact nomatch ha.symm.trans hx
            | cons y pre =>
                obtain ⟨rfl, rfl⟩ := List.cons.inj hl
                exact ⟨pre, x, post, rfl, fun z hz => hpre z (List.mem_cons_of_mem _ hz), hx⟩

/-- A list of texts. -/
theorem mapM_asString_eq_ok {l : List Value} {texts : List String} :
    l.mapM Value.asString = .ok texts ↔ l = texts.map Value.str := by
  rw [mapM_eq_ok]
  simp only [asString_eq_ok]
  constructor
  · intro h
    induction h with
    | nil => rfl
    | cons hv _ ih => rw [hv, ih, List.map_cons]
  · rintro rfl
    induction texts with
    | nil => exact .nil
    | cons t ts ih => exact .cons rfl ih

end Lib.Fields
