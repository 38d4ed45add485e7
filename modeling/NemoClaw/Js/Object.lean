import NemoClaw.Js.Json

/- Plain objects used as dictionaries.

An object is the list of its own properties in order of insertion. Reading a name
it does not have finds what it inherits, so a dictionary keyed by arbitrary names
has more names than were stored in it, and `__proto__` cannot be stored by
assignment.
-/
namespace Js

open List

variable {α : Type}

/-- The names every plain object inherits. -/
def objectPrototypeKeys : List String :=
  ["constructor", "hasOwnProperty", "isPrototypeOf", "propertyIsEnumerable", "toLocaleString",
    "toString", "valueOf", "__defineGetter__", "__defineSetter__", "__lookupGetter__",
    "__lookupSetter__", "__proto__"]

/-- An own property takes its new value in place; a new one comes last. -/
def setOwn (object : List (String × α)) (key : String) (value : α) : List (String × α) :=
  if (object.lookup key).isSome then
    object.map fun kv => if kv.1 = key then (key, value) else kv
  else object ++ [(key, value)]

/-- `object[key] = value`: assigning `__proto__` stores no property. -/
def assignKey (object : List (String × α)) (key : String) (value : α) : List (String × α) :=
  if key = "__proto__" then object else setOwn object key value

/-- `delete object[key]`. -/
def deleteKey (object : List (String × α)) (key : String) : List (String × α) :=
  object.filter fun kv => kv.1 ≠ key

/-- `object[key]`, with `inherited` for what a plain object inherits. -/
def getInherited (object : List (String × α)) (key : String) (inherited : α) : Option α :=
  (object.lookup key).or (if key ∈ objectPrototypeKeys then some inherited else none)

def arrayIndex? (key : String) : Option Nat :=
  key.toNat?.filter fun n => toString n = key ∧ n < 2 ^ 32 - 1

/-- `Object.keys`: array indices in ascending order, then the rest as inserted. -/
def ownKeys (object : List (String × α)) : List String :=
  let keys := object.map (·.1)
  let indices := (keys.filterMap arrayIndex?).insertionSort (· ≤ ·)
  indices.map toString ++ keys.filter fun key => arrayIndex? key = none

/-! ## What is read after a change -/

lemma lookup_cons_if (k key : String) (v : α) (rest : List (String × α)) :
    ((k, v) :: rest).lookup key = if key = k then some v else rest.lookup key := by
  by_cases h : key = k
  · simp [h]
  · have hbeq : (key == k) = false := beq_false_of_ne h
    simp [lookup_cons, hbeq, h]

lemma lookup_filter_key (p : String → Bool) (object : List (String × α)) (key : String) :
    (object.filter fun kv => p kv.1).lookup key = if p key then object.lookup key else none := by
  induction object with
  | nil => simp
  | cons kv rest ih =>
    obtain ⟨k, v⟩ := kv
    rw [filter_cons]
    by_cases hk : key = k
    · subst hk
      by_cases hp : p key <;> simp [hp, ih]
    · by_cases hp : p k <;> simp [hp, lookup_cons_if, hk, ih]

lemma lookup_deleteKey (object : List (String × α)) (k key : String) :
    (deleteKey object k).lookup key = if key = k then none else object.lookup key := by
  unfold deleteKey
  rw [lookup_filter_key (fun k' => k' ≠ k)]
  by_cases h : key = k <;> simp [h]

lemma lookup_map_value (object : List (String × α)) (k key : String) (value : α) :
    (object.map fun kv => if kv.1 = k then (k, value) else kv).lookup key =
      if key = k then (object.lookup k).map fun _ => value else object.lookup key := by
  induction object with
  | nil => simp
  | cons kv rest ih =>
    obtain ⟨k', v⟩ := kv
    rw [map_cons]
    by_cases hk : k' = k
    · subst hk
      by_cases hkey : key = k' <;> simp [lookup_cons_if, hkey, ih]
    by_cases hkey : key = k
    · subst hkey; simp [lookup_cons_if, hk, Ne.symm hk, ih]
    · simp [lookup_cons_if, hk, hkey, ih]

lemma lookup_setOwn (object : List (String × α)) (k key : String) (value : α) :
    (setOwn object k value).lookup key = if key = k then some value else object.lookup key := by
  unfold setOwn
  cases hown : object.lookup k with
  | some v =>
    simp only [Option.isSome_some, if_true]
    rw [lookup_map_value, hown]; rfl
  | none =>
    simp only [Option.isSome_none, Bool.false_eq_true, if_false]
    rw [lookup_append, lookup_cons_if]
    by_cases hkey : key = k
    · simp [hkey, hown]
    · simp [hkey]

lemma mem_of_lookup {object : List (String × α)} {key : String} {value : α}
    (h : object.lookup key = some value) : (key, value) ∈ object := by
  induction object with
  | nil => cases h
  | cons kv rest ih =>
    obtain ⟨k, v⟩ := kv
    rw [lookup_cons_if] at h
    by_cases hk : key = k
    · rw [if_pos hk] at h
      cases h
      rw [hk]; exact mem_cons_self
    · rw [if_neg hk] at h; exact mem_cons_of_mem _ (ih h)

lemma mem_setOwn {object : List (String × α)} {key : String} {value : α} {kv : String × α}
    (h : kv ∈ setOwn object key value) : kv = (key, value) ∨ kv ∈ object := by
  unfold setOwn at h
  split at h
  · obtain ⟨kv', hmem, heq⟩ := mem_map.mp h
    split at heq
    · exact .inl heq.symm
    · exact .inr (heq ▸ hmem)
  · cases mem_append.mp h with
    | inl hold => exact .inr hold
    | inr hnew => exact .inl (mem_singleton.mp hnew)

lemma lookup_of_mem {object : List (String × α)} (hnodup : (object.map (·.1)).Nodup)
    {key : String} {value : α} (h : (key, value) ∈ object) : object.lookup key = some value := by
  induction object with
  | nil => cases h
  | cons kv rest ih =>
    obtain ⟨k, v⟩ := kv
    obtain ⟨hfirst, hrest⟩ := nodup_cons.mp hnodup
    rw [lookup_cons_if]
    rcases mem_cons.mp h with heq | hmem
    · obtain ⟨rfl, rfl⟩ := Prod.mk.inj heq; exact if_pos rfl
    have hne : key ≠ k := by
      rintro rfl; exact hfirst (mem_map.mpr ⟨(key, value), hmem, rfl⟩)
    rw [if_neg hne]; exact ih hrest hmem

lemma toString_arrayIndex {key : String} {n : ℕ} (h : arrayIndex? key = some n) :
    toString n = key := (of_decide_eq_true (Option.filter_eq_some_iff.mp h).2).1

lemma arrayIndex?_eq_none {key : String} {c : Char} (hc : c ∈ key.toList)
    (hdigit : c.isDigit = false) : arrayIndex? key = none := by
  cases hindex : arrayIndex? key with
  | none => rfl
  | some n =>
  have hkey := toString_arrayIndex hindex
  rw [← hkey] at hc
  have hdigits : c ∈ Nat.toDigits 10 n := by
    have hlist : (toString n).toList = Nat.toDigits 10 n := by
      exact Nat.toList_repr
    rwa [hlist] at hc
  rw [Nat.isDigit_of_mem_toDigits (by decide) (by decide) hdigits] at hdigit; cases hdigit

lemma ownKeys_of_names {object : List (String × α)}
    (h : ∀ key ∈ object.map (·.1), arrayIndex? key = none) : ownKeys object = object.map (·.1) := by
  have hindices : (object.map (·.1)).filterMap arrayIndex? = [] :=
    filterMap_eq_nil_iff.mpr h
  have hnames : (object.map (·.1)).filter (fun key => arrayIndex? key = none) =
      object.map (·.1) :=
    filter_eq_self.mpr fun key hkey => decide_eq_true (h key hkey)
  unfold ownKeys
  simp only
  rw [hindices, hnames]; rfl

lemma mem_ownKeys {object : List (String × α)} {key : String} (h : key ∈ object.map (·.1)) :
    key ∈ ownKeys object := by
  cases hindex : arrayIndex? key with
  | none => exact mem_append.mpr (.inr (mem_filter.mpr ⟨h, decide_eq_true hindex⟩))
  | some n =>
    refine mem_append.mpr (.inl (mem_map.mpr ⟨n, ?_, toString_arrayIndex hindex⟩))
    exact (mem_insertionSort _).mpr (mem_filterMap.mpr ⟨key, h, hindex⟩)

lemma ownKeys_perm (object : List (String × α)) : (ownKeys object).Perm (object.map (·.1)) := by
  have hindices : ∀ keys : List String, (keys.filterMap arrayIndex?).map toString =
      keys.filter fun key => (arrayIndex? key).isSome := by
    intro keys
    induction keys with
    | nil => rfl
    | cons key rest ih =>
      cases hindex : arrayIndex? key with
      | none => simp [hindex, ih]
      | some n => simp [hindex, ih, toString_arrayIndex hindex]
  have hnames : ((object.map (·.1)).filter fun key => decide (arrayIndex? key = none)) =
      (object.map (·.1)).filter fun key => !(arrayIndex? key).isSome :=
    filter_congr fun key _ => by cases arrayIndex? key <;> rfl
  unfold ownKeys
  dsimp only
  rw [hnames]
  refine List.Perm.trans (Perm.append_right _ ((perm_insertionSort _ _).map _)) ?_
  rw [hindices]; exact filter_append_perm _ _

lemma lookup_of_mem_keys {object : List (String × α)} {key : String}
    (h : key ∈ object.map (·.1)) : ∃ value, object.lookup key = some value := by
  induction object with
  | nil => cases h
  | cons kv rest ih =>
    obtain ⟨k, v⟩ := kv
    rw [lookup_cons_if]
    by_cases hk : key = k
    · exact ⟨v, if_pos hk⟩
    · rw [if_neg hk]; exact ih ((mem_cons.mp h).resolve_left hk)

lemma keys_setOwn_own {object : List (String × α)} {key : String} {old : α}
    (hown : object.lookup key = some old) (value : α) :
    (setOwn object key value).map (·.1) = object.map (·.1) := by
  unfold setOwn
  rw [hown, Option.isSome_some, if_pos rfl, map_map]
  refine map_congr_left fun kv _ => ?_
  show (if kv.1 = key then (key, value) else kv).1 = kv.1
  split
  · next heq => exact heq.symm
  · rfl

lemma nodup_setOwn {object : List (String × α)} (h : (object.map (·.1)).Nodup) (key : String)
    (value : α) : ((setOwn object key value).map (·.1)).Nodup := by
  cases hown : object.lookup key with
  | some old => rw [keys_setOwn_own hown]; exact h
  | none =>
    unfold setOwn
    rw [hown, Option.isSome_none, if_neg Bool.false_ne_true, map_append]
    refine List.Nodup.append h (nodup_singleton _) (disjoint_singleton.mpr fun hmem => ?_)
    obtain ⟨v, hv⟩ := lookup_of_mem_keys hmem
    rw [hown] at hv; cases hv

namespace Json

/-- Whether a value is true as a condition. -/
def isTruthy : Option Json → Bool
  | none => false
  | some .null => false
  | some (.bool b) => b
  | some (.num q) => q ≠ 0
  | some (.str s) => s ≠ ""
  | some _ => true

/-- `value || fallback`. -/
def orElse (value : Option Json) (fallback : Json) : Json :=
  if isTruthy value then value.getD fallback else fallback

/-- `value ?? fallback`, for a fallback that may be `undefined`. -/
def nullish (value fallback : Option Json) : Option Json :=
  match value with
  | none => fallback
  | some .null => fallback
  | some v => some v

end Json

end Js
