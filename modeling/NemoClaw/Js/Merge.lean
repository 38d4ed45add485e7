import NemoClaw.Js.Object

/- Merges of objects.

`Object.assign` and spreading put the members of one object over those of another. An
object has each of its keys once. Assigning `__proto__` stores no property, so an object
with that key cannot be copied by assignment.

What is provided:
  1. `assignAll_append`, `lookup_spread` — what a merge holds.
  2. `spread_same` — members that are there already change nothing.
  3. `getPath` — the value at a path of keys that goes through objects only.
-/
namespace Js

open List

variable {α : Type}

/-- `Object.assign(object, source)`. -/
def assignAll (object source : List (String × α)) : List (String × α) :=
  source.foldl (fun object member => assignKey object member.1 member.2) object

/-- Keys once and no `__proto__`. -/
structure PlainKeys (object : List (String × α)) : Prop where
  nodup : (object.map (·.1)).Nodup
  plain : ∀ member ∈ object, member.1 ≠ "__proto__"

variable {source : List (String × α)}

lemma assignAll_append {object : List (String × α)} (h : PlainKeys (object ++ source)) :
    assignAll object source = object ++ source := by
  induction source generalizing object with
  | nil => simp [assignAll]
  | cons member rest ih =>
    obtain ⟨k, v⟩ := member
    have hk : k ≠ "__proto__" := h.plain (k, v) (by simp)
    have hnew : object.lookup k = none := by
      cases hold : object.lookup k with
      | none => rfl
      | some v' =>
      have hnodup := h.nodup
      rw [map_append, nodup_append] at hnodup
      exact absurd rfl (hnodup.2.2 k (mem_map.mpr ⟨(k, v'), mem_of_lookup hold, rfl⟩)
        k (by simp))
    have hstep : assignKey object k v = object ++ [(k, v)] := by
      unfold assignKey setOwn
      rw [if_neg hk, hnew]; rfl
    show assignAll (assignKey object k v) rest = _
    rw [hstep]
    have happend : object ++ (k, v) :: rest = object ++ [(k, v)] ++ rest := by simp
    rw [happend] at h ⊢; exact ih h

/-- `__proto__` is not stored, whatever else is. -/
lemma assignAll_plain (object source : List (String × α)) :
    assignAll object source = assignAll object (source.filter fun kv => kv.1 ≠ "__proto__") := by
  induction source generalizing object with
  | nil => rfl
  | cons member rest ih =>
    obtain ⟨k, v⟩ := member
    have hstep : assignAll object ((k, v) :: rest) = assignAll (assignKey object k v) rest := rfl
    rw [hstep, ih]
    by_cases hk : k = "__proto__"
    · subst hk
      rw [filter_cons_of_neg (by simp), assignKey, if_pos rfl]
    · rw [filter_cons_of_pos (by simpa using hk)]; rfl

/-! ## Spreading -/

/-- `{ ...object, ...source }`. -/
def spread (object source : List (String × α)) : List (String × α) :=
  source.foldl (fun o kv => setOwn o kv.1 kv.2) object

lemma spread_cons (object : List (String × α)) (member : String × α)
    (rest : List (String × α)) :
    spread object (member :: rest) = spread (setOwn object member.1 member.2) rest := rfl

lemma lookup_spread (h : (source.map (·.1)).Nodup) (object : List (String × α)) (key : String) :
    (spread object source).lookup key = (source.lookup key).or (object.lookup key) := by
  induction source generalizing object with
  | nil => simp [spread]
  | cons member rest ih =>
    obtain ⟨k, v⟩ := member
    rw [map_cons, nodup_cons] at h
    rw [spread_cons, ih h.2, lookup_setOwn, lookup_cons_if]
    by_cases hkey : key = k
    · subst hkey
      have hnone : rest.lookup key = none := by
        cases hrest : rest.lookup key with
        | none => rfl
        | some value => exact absurd (mem_map.mpr ⟨_, mem_of_lookup hrest, rfl⟩) h.1
      simp [hnone]
    · simp [hkey]

lemma nodup_spread {object : List (String × α)} (h : (object.map (·.1)).Nodup)
    (source : List (String × α)) : ((spread object source).map (·.1)).Nodup := by
  induction source generalizing object with
  | nil => exact h
  | cons member rest ih => exact ih (nodup_setOwn h member.1 member.2)

lemma setOwn_same {object : List (String × α)} (h : (object.map (·.1)).Nodup) {key : String}
    {value : α} (hkey : object.lookup key = some value) : setOwn object key value = object := by
  unfold setOwn
  rw [hkey, Option.isSome_some, if_pos rfl]
  conv_rhs => rw [← map_id object]
  refine map_congr_left fun kv hkv => ?_
  split
  · next heq =>
    have hfound := lookup_of_mem h hkv
    rw [heq, hkey] at hfound; exact Prod.ext heq.symm (Option.some.inj hfound)
  · rfl

lemma spread_same {object : List (String × α)} (h : (object.map (·.1)).Nodup)
    (hsource : ∀ kv ∈ source, object.lookup kv.1 = some kv.2) : spread object source = object := by
  induction source with
  | nil => rfl
  | cons member rest ih =>
    rw [spread_cons, setOwn_same h (hsource member mem_cons_self)]
    exact ih fun kv hkv => hsource kv (mem_cons_of_mem _ hkv)

lemma lookup_map_keyed {β : Type} (f : String → α → β) (object : List (String × α))
    (key : String) :
    (object.map fun member => (member.1, f member.1 member.2)).lookup key =
      (object.lookup key).map (f key) := by
  induction object with
  | nil => rfl
  | cons member rest ih =>
    obtain ⟨k, v⟩ := member
    rw [map_cons, lookup_cons_if, lookup_cons_if]
    by_cases hkey : key = k
    · simp [hkey]
    · simp [hkey, ih]

namespace Json

/-- The value at a path of keys. -/
def getPath : Json → List String → Option Json
  | value, [] => some value
  | .obj fields, key :: path =>
    match fields.lookup key with
    | some value => value.getPath path
    | none => none
  | _, _ :: _ => none

/-- The same from a value that may be missing. -/
def getBelow (value : Option Json) (path : List String) : Option Json :=
  value.bind fun value => value.getPath path

@[simp] lemma getPath_nil (value : Json) : value.getPath [] = some value := by
  cases value <;> rfl

@[simp] lemma getBelow_some (value : Json) (path : List String) :
    getBelow (some value) path = value.getPath path := rfl

@[simp] lemma getBelow_nil (value : Option Json) : getBelow value [] = value := by
  cases value with
  | none => rfl
  | some v => exact getPath_nil v

lemma getPath_cons (fields : List (String × Json)) (key : String) (path : List String) :
    (Json.obj fields).getPath (key :: path) = getBelow (fields.lookup key) path := by
  unfold getPath getBelow; cases fields.lookup key <;> rfl

end Json

end Js
