import Mathlib.Tactic

/- JavaScript values as a JSON file or an in-memory record holds them.

An object is the list of its own properties in insertion order; reading a
property that is not there gives `none`, which stands for `undefined`. Every
reader below takes an `Option Json` for that reason: it is applied to the
result of a property read, present or not. Numbers are rationals, so
`Number.isInteger` is a real test and no value is rounded.

Correspondence (JavaScript ↔ Lean):
  `o.k`                                ↔ `Json.get?`
  `Object.keys(o)`                     ↔ `Json.keys`
  `typeof v === "object" && v !== null && !Array.isArray(v)` ↔ `Json.isObject`
  `typeof v === "string" ? v : null`   ↔ `readString`
  `Number.isInteger(v)`                ↔ `readInteger`
  `Number.isSafeInteger(v) && v >= 0`  ↔ `readSafeNat`
  `...(c ? { k: v } : {})`             ↔ `optField`

A parser is a chain of `Option` binds and guards; `parse_bind`, `parse_guard`
and their inverses take such a chain apart one step at a time, in the order
it is written.
-/
namespace Js

open List Option

inductive Json where
  | null
  | bool (b : Bool)
  | num (q : Rat)
  | str (s : String)
  | arr (xs : List Json)
  | obj (fields : List (String × Json))
  deriving Inhabited

namespace Json

/-- Property read: `none` is `undefined`. -/
def get? : Json → String → Option Json
  | obj fields, k => fields.lookup k
  | _, _ => none

/-- The own property names, in order. -/
def keys : Json → List String
  | obj fields => fields.map Prod.fst
  | _ => []

/-- Neither a scalar, nor `null`, nor an array. -/
def isObject : Json → Bool
  | obj _ => true
  | _ => false

@[simp] lemma get?_obj (fields : List (String × Json)) (k : String) :
    (obj fields).get? k = fields.lookup k := rfl

def ofString? : Option String → Json
  | none => null
  | some s => str s

/-- A nullable value. -/
def ofOption {α : Type} (f : α → Json) : Option α → Json
  | none => null
  | some a => f a

def ofStrings (xs : List String) : Json := arr (xs.map str)

/-- A natural number. -/
def ofNat (n : Nat) : Json := num n

end Json

open Json

/-- The property `k` when there is a value for it, and no property otherwise. -/
def optField (k : String) : Option Json → List (String × Json)
  | none => []
  | some v => [(k, v)]

/-- `2 ^ 53 - 1`, the largest integer a double counts exactly. -/
def maxSafeInteger : Nat := 9007199254740991

def readObject : Option Json → Option Json
  | some (.obj fields) => some (.obj fields)
  | _ => none

def readString : Option Json → Option String
  | some (.str s) => some s
  | _ => none

/-- `typeof v === "string" && v.length > 0`. -/
def readNonEmpty (v : Option Json) : Option String :=
  (readString v).filter (· ≠ "")

def readBool : Option Json → Option Bool
  | some (.bool b) => some b
  | _ => none

/-- `v === true`. -/
def isTrue : Option Json → Bool
  | some (.bool b) => b
  | _ => false

/-- `v === null`. -/
def isNull : Option Json → Bool
  | some .null => true
  | _ => false

/-- `Number.isInteger(v) ? v : undefined`. -/
def readInteger : Option Json → Option Int
  | some (.num q) => if q.den = 1 then some q.num else none
  | _ => none

/-- An integer that is not negative. -/
def readNat (v : Option Json) : Option Nat :=
  match readInteger v with
  | some (.ofNat n) => some n
  | _ => none

/-- An integer that is not negative and at most `maxSafeInteger`. -/
def readSafeNat (v : Option Json) : Option Nat :=
  (readNat v).filter (· ≤ maxSafeInteger)

def readStringArray : Option Json → Option (List String)
  | some (.arr xs) => some (xs.filterMap fun x => readString (some x))
  | _ => none

/-- The elements of an array, provided that all of them are strings. -/
def readAllStrings : Option Json → Option (List String)
  | some (.arr xs) => xs.mapM fun x => readString (some x)
  | _ => none

/-- The string-valued properties of an object; assigning a string to `__proto__` stores
nothing. -/
def readStringRecord : Option Json → Option (List (String × String))
  | some (.obj fields) =>
    some (fields.filterMap fun kv =>
      if kv.1 = "__proto__" then none else (readString (some kv.2)).map fun s => (kv.1, s))
  | _ => none

/-- A nullable string is absent or passes the check. -/
def NullOr (p : String → Bool) (o : Option String) : Prop := ∀ s, o = some s → p s

/-! ## Readers on values written by the matching writer -/

@[simp] lemma readObject_obj (fields : List (String × Json)) :
    readObject (some (.obj fields)) = some (.obj fields) := rfl

@[simp] lemma readString_str (s : String) : readString (some (.str s)) = some s := rfl

variable {v : Option Json} {β : Type}

lemma readString_eq_some {s : String} (h : readString v = some s) : v = some (.str s) := by
  unfold readString at h
  split at h
  · next t =>
    cases h; rfl
  · cases h

@[simp] lemma readString_ofString? (o : Option String) :
    readString (some (ofString? o)) = o := by
  cases o <;> rfl

lemma readBool_of_isTrue (h : Js.isTrue v) : readBool v = some true := by
  unfold Js.isTrue at h
  split at h
  · exact congrArg some h
  · cases h

lemma readNonEmpty_str {s : String} (h : s ≠ "") :
    readNonEmpty (some (.str s)) = some s := by
  simp [readNonEmpty, h]

lemma readNonEmpty_eq_some {s : String} (h : readNonEmpty v = some s) :
    readString v = some s ∧ s ≠ "" := by
  simpa [readNonEmpty, filter_eq_some_iff] using h

@[simp] lemma readInteger_num_natCast (n : Nat) :
    readInteger (some (.num (n : Rat))) = some (n : Int) := by
  simp [readInteger]

@[simp] lemma readNat_num_natCast (n : Nat) : readNat (some (.num (n : Rat))) = some n := by
  simp only [readNat, readInteger_num_natCast]

@[simp] lemma readNat_ofNat (n : Nat) : readNat (some (ofNat n)) = some n :=
  readNat_num_natCast n

lemma readSafeNat_ofNat {n : Nat} (h : n ≤ maxSafeInteger) :
    readSafeNat (some (ofNat n)) = some n := by
  simp [readSafeNat, h]

lemma readSafeNat_le {n : Nat} (h : readSafeNat v = some n) : n ≤ maxSafeInteger := by
  simp only [readSafeNat, filter_eq_some_iff, decide_eq_true_eq] at h; exact h.2

@[simp] lemma readStringArray_ofStrings (xs : List String) :
    readStringArray (some (ofStrings xs)) = some xs := by
  simp only [ofStrings, readStringArray, filterMap_map, Option.some.injEq]
  exact filterMap_some

lemma lookup_optField_append (k k' : String) (o : Option Json)
    (rest : List (String × Json)) :
    (optField k o ++ rest).lookup k' =
      if k' = k then o.or (rest.lookup k') else rest.lookup k' := by
  cases o with
  | none => simp [optField]
  | some v =>
  by_cases h : k' = k
  · simp [optField, h]
  · have hbeq : (k' == k) = false := by simpa using h
    simp [optField, lookup_cons, hbeq, h]

theorem parse_bind {α : Type} {x : Option α} {f : α → Option β} {a : α} {b : β} (hx : x = some a)
    (hf : f a = some b) : (x >>= f) = some b := by
  rw [hx]; exact hf

theorem parse_guard {p : Prop} [Decidable p] {f : Unit → Option β} {b : β} (hp : p)
    (hf : f () = some b) : (guard p >>= f) = some b := by
  simp [hp, hf]

lemma parse_bind_inv {α : Type} {x : Option α} {f : α → Option β} {b : β} (h : (x >>= f) = some b) :
    ∃ a, x = some a ∧ f a = some b :=
  bind_eq_some_iff.mp h

lemma parse_guard_inv {p : Prop} [Decidable p] {f : Unit → Option β} {b : β}
    (h : (guard p >>= f) = some b) : p ∧ f () = some b := by
  by_cases hp : p
  · exact ⟨hp, by simpa [hp] using h⟩
  · simp [hp] at h

/-- Reading a list element by element succeeds on what was written element by
element. -/
lemma mapM_map_of_forall {α : Type} {f : α → β} {g : β → Option α} {xs : List α}
    (h : ∀ x ∈ xs, g (f x) = some x) : (xs.map f).mapM g = some xs := by
  induction xs with
  | nil => rfl
  | cons x xs ih =>
    have hx := h x (by simp)
    have hxs := ih fun y hy => h y (by simp [hy])
    simp [mapM_cons, hx, hxs]

@[simp] lemma readAllStrings_ofStrings (xs : List String) :
    readAllStrings (some (ofStrings xs)) = some xs := by
  simp only [ofStrings, readAllStrings]; exact mapM_map_of_forall fun _ _ => rfl

lemma forall_of_mapM {α : Type} {P : β → Prop} {g : α → Option β} {xs : List α} {ys : List β}
    (hg : ∀ x y, g x = some y → P y) (h : xs.mapM g = some ys) : ∀ y ∈ ys, P y := by
  induction xs generalizing ys with
  | nil =>
    obtain rfl : ys = [] := by simpa using h.symm
    simp
  | cons x xs ih =>
    rw [mapM_cons] at h
    obtain ⟨y, hy, h⟩ := parse_bind_inv h
    obtain ⟨ys', hys, h⟩ := parse_bind_inv h
    cases h
    intro z hz
    rcases mem_cons.mp hz with rfl | hz
    · exact hg x z hy
    · exact ih hys z hz

end Js
