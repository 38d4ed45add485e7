import NemoClaw.Js.Object
import NemoClaw.Js.Order

/- JavaScript values as they are in memory, and their canonical JSON form.

A value may be one that no JSON text stands for (`undefined`, a function, a number that is
not finite); reading a property that is not there gives `undefined`.

Correspondence (`catalog-integrity.ts` ↔ Lean):
  `canonicalize`                  ↔ `canonicalize`, `none` where it throws
  `immutableManagedInferenceCopy` ↔ `canonicalize`: the copy is the canonical value
  `managedInferenceDigest`        ↔ `managedInferenceDigest`

The hash of the canonical text is the parameter `sha256`. What is proved: a canonical value
is its own canonical form (`canonicalize_idem`), so it has the digest of the value it comes
from (`managedInferenceDigest_canonical`), and its properties are the canonical forms of the
properties (`get_canonicalize`).
-/
namespace Js

open List Option

/-- A value; `other` is any value that no JSON text stands for. -/
inductive Value where
  | null
  | bool (b : Bool)
  | num (q : ℚ)
  | str (s : String)
  | arr (xs : List Value)
  | obj (fields : List (String × Value))
  | other
  deriving Inhabited

namespace Value

/-- Property read; `other` is `undefined`. -/
def get : Value → String → Value
  | obj fields, k => (fields.lookup k).getD other
  | _, _ => other

def string? : Value → Option String
  | str s => some s
  | _ => none

def number? : Value → Option ℚ
  | num q => some q
  | _ => none

/-- `typeof value === "object" && value !== null && !Array.isArray(value)`. -/
def isRecord : Value → Bool
  | obj _ => true
  | _ => false

/-- `Number.isInteger(value)`. -/
def isInteger (q : ℚ) : Bool := q.den == 1

end Value

open Value

/-- Properties assigned to a new object in the order of their names; `__proto__` is not
stored. -/
def sortFields (fields : List (String × Value)) : List (String × Value) :=
  (fields.filter fun kv => kv.1 ≠ "__proto__").insertionSort fun a b => compareLe a.1 b.1

mutual

/-- The properties of every object in order; nothing where the value is no JSON value. -/
def canonicalize : Value → Option Value
  | .null => some .null
  | .bool b => some (.bool b)
  | .num q => some (.num q)
  | .str s => some (.str s)
  | .arr xs => (canonicalizeAll xs).map .arr
  | .obj fields => (canonicalizeFields fields).map fun fs => .obj (sortFields fs)
  | .other => none

def canonicalizeAll : List Value → Option (List Value)
  | [] => some []
  | x :: xs => (canonicalize x).bind fun y => (canonicalizeAll xs).map (y :: ·)

def canonicalizeFields : List (String × Value) → Option (List (String × Value))
  | [] => some []
  | (k, x) :: rest => (canonicalize x).bind fun y => (canonicalizeFields rest).map ((k, y) :: ·)

end

/-- `sha256:` and the hash of the canonical text; nothing where there is no text. -/
def managedInferenceDigest (sha256 : Value → String) (value : Value) : Option String :=
  (canonicalize value).map fun v => "sha256:" ++ sha256 v

/-! ## Canonical values -/

lemma canonicalize_arr {xs : List Value} {v : Value} (h : canonicalize (.arr xs) = some v) :
    ∃ ys, v = .arr ys ∧ canonicalizeAll xs = some ys := by
  rw [canonicalize] at h
  obtain ⟨ys, hys, rfl⟩ := map_eq_some_iff.mp h; exact ⟨ys, rfl, hys⟩

lemma canonicalize_obj {fields : List (String × Value)} {v : Value}
    (h : canonicalize (.obj fields) = some v) :
    ∃ fs, v = .obj (sortFields fs) ∧ canonicalizeFields fields = some fs := by
  rw [canonicalize] at h
  obtain ⟨fs, hfs, rfl⟩ := map_eq_some_iff.mp h; exact ⟨fs, rfl, hfs⟩

lemma canonicalizeAll_cons {x : Value} {xs ys : List Value}
    (h : canonicalizeAll (x :: xs) = some ys) :
    ∃ y ys', ys = y :: ys' ∧ canonicalize x = some y ∧ canonicalizeAll xs = some ys' := by
  rw [canonicalizeAll] at h
  obtain ⟨y, hy, hrest⟩ := bind_eq_some_iff.mp h
  obtain ⟨ys', hys', rfl⟩ := map_eq_some_iff.mp hrest
  exact ⟨y, ys', rfl, hy, hys'⟩

lemma canonicalizeFields_cons {k : String} {x : Value} {rest fs : List (String × Value)}
    (h : canonicalizeFields ((k, x) :: rest) = some fs) :
    ∃ y fs', fs = (k, y) :: fs' ∧ canonicalize x = some y ∧
      canonicalizeFields rest = some fs' := by
  rw [canonicalizeFields] at h
  obtain ⟨y, hy, hrest⟩ := bind_eq_some_iff.mp h
  obtain ⟨fs', hfs', rfl⟩ := map_eq_some_iff.mp hrest
  exact ⟨y, fs', rfl, hy, hfs'⟩

lemma canonicalizeFields_eq_self {fields : List (String × Value)} :
    canonicalizeFields fields = some fields ↔
      ∀ kv ∈ fields, canonicalize kv.2 = some kv.2 := by
  induction fields with
  | nil => simp [canonicalizeFields]
  | cons kv rest ih =>
    obtain ⟨k, x⟩ := kv
    constructor
    · intro h
      obtain ⟨y, fs', heq, hx, hrest⟩ := canonicalizeFields_cons h
      obtain ⟨hhead, rfl⟩ := cons.inj heq
      rw [← (Prod.mk.inj hhead).2] at hx
      intro kv hkv
      rcases mem_cons.mp hkv with rfl | hin
      · exact hx
      · exact ih.mp hrest kv hin
    · intro h
      have hx := h (k, x) mem_cons_self
      have hrest := ih.mpr fun kv hkv => h kv (mem_cons_of_mem _ hkv)
      rw [canonicalizeFields, hx, hrest]; rfl

lemma mem_sortFields {fields : List (String × Value)} {kv : String × Value} :
    kv ∈ sortFields fields ↔ kv ∈ fields ∧ kv.1 ≠ "__proto__" := by
  unfold sortFields
  rw [mem_insertionSort, mem_filter, decide_eq_true_eq]

lemma sortFields_idem (fields : List (String × Value)) :
    sortFields (sortFields fields) = sortFields fields := by
  have hfilter : (sortFields fields).filter (fun kv => kv.1 ≠ "__proto__") =
      sortFields fields := by
    refine filter_eq_self.mpr fun kv hkv => ?_
    exact decide_eq_true (mem_sortFields.mp hkv).2
  have hsorted : (sortFields fields).Pairwise fun a b => compareLe a.1 b.1 :=
    pairwise_insertionSort _ _
  rw [sortFields, hfilter]; exact hsorted.insertionSort_eq

mutual

/-- A canonical value is its own canonical form. -/
theorem canonicalize_idem : ∀ {v w : Value}, canonicalize v = some w → canonicalize w = some w
  | .null, w, h => by
    rw [canonicalize] at h
    rw [← some.inj h, canonicalize]
  | .bool _, w, h => by
    rw [canonicalize] at h
    rw [← some.inj h, canonicalize]
  | .num _, w, h => by
    rw [canonicalize] at h
    rw [← some.inj h, canonicalize]
  | .str _, w, h => by
    rw [canonicalize] at h
    rw [← some.inj h, canonicalize]
  | .arr xs, w, h => by
    obtain ⟨ys, rfl, hys⟩ := canonicalize_arr h
    rw [canonicalize, canonicalizeAll_idem hys]
    rfl
  | .obj fields, w, h => by
    obtain ⟨fs, rfl, hfs⟩ := canonicalize_obj h
    have hsorted : canonicalizeFields (sortFields fs) = some (sortFields fs) :=
      canonicalizeFields_eq_self.mpr fun kv hkv =>
        canonicalizeFields_idem hfs kv (mem_sortFields.mp hkv).1
    rw [canonicalize, hsorted]
    exact congrArg (fun fs => some (Value.obj fs)) (sortFields_idem fs)
  | .other, w, h => by
    rw [canonicalize] at h
    cases h

lemma canonicalizeAll_idem : ∀ {xs ys : List Value}, canonicalizeAll xs = some ys →
    canonicalizeAll ys = some ys
  | [], ys, h => by
    rw [canonicalizeAll] at h
    rw [← some.inj h, canonicalizeAll]
  | x :: xs, ys, h => by
    obtain ⟨y, ys', rfl, hx, hxs⟩ := canonicalizeAll_cons h
    rw [canonicalizeAll, canonicalize_idem hx, canonicalizeAll_idem hxs]
    rfl

lemma canonicalizeFields_idem : ∀ {fields fs : List (String × Value)},
    canonicalizeFields fields = some fs → ∀ kv ∈ fs, canonicalize kv.2 = some kv.2
  | [], fs, h => by
    rw [canonicalizeFields] at h
    rw [← some.inj h]
    exact nofun
  | (k, x) :: rest, fs, h => by
    obtain ⟨y, fs', rfl, hx, hrest⟩ := canonicalizeFields_cons h
    intro kv hkv
    rcases mem_cons.mp hkv with rfl | hin
    · exact canonicalize_idem hx
    · exact canonicalizeFields_idem hrest kv hin

end

theorem managedInferenceDigest_canonical (sha256 : Value → String) {v w : Value}
    (h : canonicalize v = some w) :
    managedInferenceDigest sha256 w = managedInferenceDigest sha256 v := by
  unfold managedInferenceDigest
  rw [h, canonicalize_idem h]

lemma lookup_orderedInsert (kv : String × Value) (fields : List (String × Value))
    (k : String) :
    (fields.orderedInsert (fun a b => compareLe a.1 b.1) kv).lookup k =
      if k = kv.1 then some kv.2 else fields.lookup k := by
  induction fields with
  | nil => rw [orderedInsert_nil, lookup_cons_if]
  | cons f rest ih =>
    rw [orderedInsert_cons]
    split
    · rw [lookup_cons_if]
    next hle =>
    rw [lookup_cons_if, ih, lookup_cons_if]
    by_cases hk : k = f.1
    · have hne : k ≠ kv.1 := by
        intro heq
        rw [← heq, hk] at hle; exact hle (le_refl _)
      rw [if_pos hk, if_neg hne, if_pos hk]
    · rw [if_neg hk, if_neg hk]

lemma lookup_sortFields (fields : List (String × Value)) {k : String} (hk : k ≠ "__proto__") :
    (sortFields fields).lookup k = fields.lookup k := by
  have hsort : ∀ fs : List (String × Value),
      (fs.insertionSort fun a b => compareLe a.1 b.1).lookup k = fs.lookup k := by
    intro fs
    induction fs with
    | nil => rfl
    | cons kv rest ih => rw [insertionSort_cons, lookup_orderedInsert, lookup_cons_if, ih]
  rw [sortFields, hsort, lookup_filter_key (fun k => k ≠ "__proto__"), if_pos (decide_eq_true hk)]

lemma lookup_canonicalizeFields {fields fs : List (String × Value)}
    (h : canonicalizeFields fields = some fs) (k : String) :
    fields.lookup k = none ∧ fs.lookup k = none ∨
      ∃ x y, fields.lookup k = some x ∧ fs.lookup k = some y ∧ canonicalize x = some y := by
  induction fields generalizing fs with
  | nil =>
    rw [canonicalizeFields] at h
    rw [← some.inj h]; exact .inl ⟨rfl, rfl⟩
  | cons kv rest ih =>
    obtain ⟨k', x⟩ := kv
    obtain ⟨y, fs', rfl, hx, hrest⟩ := canonicalizeFields_cons h
    rw [lookup_cons_if, lookup_cons_if]
    by_cases hk : k = k'
    · rw [if_pos hk, if_pos hk]; exact .inr ⟨x, y, rfl, rfl, hx⟩
    · rw [if_neg hk, if_neg hk]; exact ih hrest

/-- A property of a canonical value is the canonical form of the property. -/
theorem get_canonicalize {v w : Value} (h : canonicalize v = some w) {k : String}
    (hk : k ≠ "__proto__") :
    v.get k = .other ∧ w.get k = .other ∨ canonicalize (v.get k) = some (w.get k) := by
  cases v with
  | obj fields =>
    obtain ⟨fs, rfl, hfs⟩ := canonicalize_obj h
    rw [Value.get, Value.get, lookup_sortFields fs hk]
    rcases lookup_canonicalizeFields hfs k with ⟨hnone, hnone'⟩ | ⟨x, y, hx, hy, hxy⟩
    · rw [hnone, hnone']; exact .inl ⟨rfl, rfl⟩
    · rw [hx, hy]; exact .inr hxy
  | arr xs => obtain ⟨ys, rfl, -⟩ := canonicalize_arr h; exact .inl ⟨rfl, rfl⟩
  | other => rw [canonicalize] at h; cases h
  | _ =>
    rw [canonicalize] at h
    rw [← some.inj h]; exact .inl ⟨rfl, rfl⟩

lemma get_str_canonicalize {v w : Value} (h : canonicalize v = some w) {k s : String}
    (hk : k ≠ "__proto__") (hget : v.get k = .str s) : w.get k = .str s := by
  rcases get_canonicalize h hk with ⟨hother, -⟩ | hcanonical
  · rw [hget] at hother; cases hother
  · rw [hget, canonicalize] at hcanonical; exact (some.inj hcanonical).symm

lemma get_arr_canonicalize {v w : Value} (h : canonicalize v = some w) {k : String}
    {xs : List Value} (hk : k ≠ "__proto__") (hget : v.get k = .arr xs) :
    ∃ ys, w.get k = .arr ys ∧ canonicalizeAll xs = some ys := by
  rcases get_canonicalize h hk with ⟨hother, -⟩ | hcanonical
  · rw [hget] at hother; cases hother
  · rw [hget] at hcanonical; exact canonicalize_arr hcanonical

end Js
