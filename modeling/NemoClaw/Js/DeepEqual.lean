import NemoClaw.Js.Object

/- Deep equality of values: objects are equal by their properties, in whatever order.

What is provided:
  1. `isDeepStrictEqual` — equality of two values.
  2. `Keyed` — every object has each of its keys once, as objects in memory do.
  3. `deepEqual_obj` — two objects are equal if their properties are.
  4. `isDeepStrictEqual_refl`, `isDeepStrictEqual_symm`, `isDeepStrictEqual_trans` — it is an
     equivalence of values as they are in memory.
  5. `Same` — equal values as they are in memory; properties and elements of the same are the
     same.
-/
namespace Js

open Json List

mutual

/-- `isDeepStrictEqual(left, right)`. -/
def isDeepStrictEqual : Json → Json → Bool
  | .null, .null => true
  | .bool a, .bool b => a == b
  | .num p, .num q => p == q
  | .str s, .str t => s == t
  | .arr xs, .arr ys => deepEqualElements xs ys
  | .obj fields, .obj others => fields.length == others.length && deepEqualFields fields others
  | _, _ => false

def deepEqualElements : List Json → List Json → Bool
  | [], [] => true
  | x :: xs, y :: ys => isDeepStrictEqual x y && deepEqualElements xs ys
  | _, _ => false

def deepEqualFields : List (String × Json) → List (String × Json) → Bool
  | [], _ => true
  | (key, value) :: rest, others =>
    (match others.lookup key with
      | some other => isDeepStrictEqual value other
      | none => false) && deepEqualFields rest others

end

attribute [local simp] isDeepStrictEqual deepEqualElements deepEqualFields

namespace Json

/-- Each key once, here and below. -/
inductive Keyed : Json → Prop
  | null : Keyed .null
  | bool (b : Bool) : Keyed (.bool b)
  | num (q : Rat) : Keyed (.num q)
  | str (s : String) : Keyed (.str s)
  | arr {xs : List Json} (elements : ∀ x ∈ xs, Keyed x) : Keyed (.arr xs)
  | obj {fields : List (String × Json)} (nodup : (fields.map (·.1)).Nodup)
      (values : ∀ member ∈ fields, Keyed member.2) : Keyed (.obj fields)

namespace Keyed

attribute [simp] Keyed.null Keyed.bool Keyed.num Keyed.str

variable {fields : List (String × Json)}

@[simp] lemma obj_iff : Keyed (.obj fields) ↔
    (fields.map (·.1)).Nodup ∧ ∀ member ∈ fields, Keyed member.2 := by
  constructor
  · intro h
    cases h with
    | obj nodup values => exact ⟨nodup, values⟩
  · exact fun h => .obj h.1 h.2

lemma keys_nodup (h : Keyed (.obj fields)) : (fields.map (·.1)).Nodup :=
  (obj_iff.mp h).1

lemma mem (h : Keyed (.obj fields)) {member : String × Json} (hmember : member ∈ fields) :
    Keyed member.2 := (obj_iff.mp h).2 member hmember

lemma lookup (h : Keyed (.obj fields)) {key : String} {value : Json}
    (hkey : fields.lookup key = some value) : Keyed value := h.mem (mem_of_lookup hkey)

lemma element {xs : List Json} (h : Keyed (.arr xs)) {x : Json} (hx : x ∈ xs) : Keyed x := by
  cases h with
  | arr elements => exact elements x hx

lemma filter (h : Keyed (.obj fields)) (p : String × Json → Bool) :
    Keyed (.obj (fields.filter p)) :=
  .obj (h.keys_nodup.sublist (filter_sublist.map _)) fun _ hmember =>
    h.mem (mem_of_mem_filter hmember)

lemma setOwn (h : Keyed (.obj fields)) (key : String) {value : Json} (hvalue : Keyed value) :
    Keyed (.obj (setOwn fields key value)) := by
  refine .obj (nodup_setOwn h.keys_nodup key value) fun member hmember => ?_
  rcases mem_setOwn hmember with rfl | hold
  · exact hvalue
  · exact h.mem hold

end Keyed

end Json

section Objects

variable {fields others : List (String × Json)}

lemma deepEqualFields_iff : deepEqualFields fields others ↔
    ∀ member ∈ fields, ∃ other, others.lookup member.1 = some other ∧
      isDeepStrictEqual member.2 other := by
  induction fields with
  | nil => simp
  | cons member rest ih =>
    obtain ⟨key, value⟩ := member
    rw [deepEqualFields, Bool.and_eq_true, ih, forall_mem_cons]
    refine and_congr_left' ?_
    cases others.lookup key <;> simp

/-- What is found under a key of both objects. -/
def SameField (field other : Option Json) : Prop :=
  match field, other with
  | none, none => True
  | some value, some value' => isDeepStrictEqual value value'
  | _, _ => False

lemma SameField.cases {field other : Option Json} (h : SameField field other) :
    field = none ∧ other = none ∨ ∃ value value', field = some value ∧ other = some value' ∧
      isDeepStrictEqual value value' := by
  cases field with
  | none =>
    cases other with
    | none => exact .inl ⟨rfl, rfl⟩
    | some _ => exact h.elim
  | some value =>
    cases other with
    | none => exact h.elim
    | some value' => exact .inr ⟨value, value', rfl, rfl, h⟩

theorem deepEqual_obj (h : (fields.map (·.1)).Nodup) (h' : (others.map (·.1)).Nodup) :
    isDeepStrictEqual (.obj fields) (.obj others) ↔
      ∀ key, SameField (fields.lookup key) (others.lookup key) := by
  rw [isDeepStrictEqual, Bool.and_eq_true, beq_iff_eq, deepEqualFields_iff]
  constructor
  · rintro ⟨hlength, hfields⟩ key
    have hsub : fields.map (·.1) ⊆ others.map (·.1) := by
      intro k hk
      obtain ⟨value, hvalue⟩ := lookup_of_mem_keys hk
      obtain ⟨other, hother, -⟩ := hfields _ (mem_of_lookup hvalue)
      exact mem_map.mpr ⟨_, mem_of_lookup hother, rfl⟩
    have hperm := (subperm_of_subset h hsub).perm_of_length_le (by simp [hlength])
    cases hfield : fields.lookup key with
    | some value =>
      obtain ⟨other, hother, hequal⟩ := hfields _ (mem_of_lookup hfield)
      rw [hother]; exact hequal
    | none =>
      cases hother : others.lookup key with
      | none => trivial
      | some other =>
      have hmem : key ∈ fields.map (·.1) :=
        hperm.mem_iff.mpr (mem_map.mpr ⟨_, mem_of_lookup hother, rfl⟩)
      obtain ⟨value, hvalue⟩ := lookup_of_mem_keys hmem
      rw [hfield] at hvalue; cases hvalue
  · intro hsame
    have hkeys : ∀ key, key ∈ fields.map (·.1) ↔ key ∈ others.map (·.1) := by
      intro key
      rcases (hsame key).cases with ⟨hfield, hother⟩ | ⟨value, value', hfield, hother, -⟩
      · constructor
        · intro hmem
          obtain ⟨value, hvalue⟩ := lookup_of_mem_keys hmem
          cases hfield.symm.trans hvalue
        · intro hmem
          obtain ⟨value, hvalue⟩ := lookup_of_mem_keys hmem
          cases hother.symm.trans hvalue
      · exact iff_of_true (mem_map.mpr ⟨_, mem_of_lookup hfield, rfl⟩)
          (mem_map.mpr ⟨_, mem_of_lookup hother, rfl⟩)
    refine ⟨?_, fun member hmember => ?_⟩
    · have hperm := (perm_ext_iff_of_nodup h h').mpr hkeys
      simpa using hperm.length_eq
    have hlookup := lookup_of_mem h hmember
    rcases (hsame member.1).cases with ⟨hfield, -⟩ | ⟨value, value', hfield, hother, hequal⟩
    · cases hlookup.symm.trans hfield
    · cases hlookup.symm.trans hfield; exact ⟨value', hother, hequal⟩

end Objects

lemma deepEqualElements_iff {xs ys : List Json} : deepEqualElements xs ys ↔
    Forall₂ (fun x y => isDeepStrictEqual x y) xs ys := by
  induction xs generalizing ys with
  | nil => cases ys <;> simp
  | cons x xs ih =>
    cases ys with
    | nil => simp
    | cons y ys => rw [deepEqualElements, Bool.and_eq_true, ih, forall₂_cons]

theorem isDeepStrictEqual_refl {value : Json} (h : Keyed value) :
    isDeepStrictEqual value value := by
  induction h with
  | null => rfl
  | bool b => simp
  | num q => simp
  | str s => simp
  | @arr xs elements ih =>
    rw [isDeepStrictEqual, deepEqualElements_iff]; exact forall₂_same.mpr ih
  | @obj fields nodup values ih =>
    rw [deepEqual_obj nodup nodup]
    intro key
    cases hfield : fields.lookup key with
    | none => trivial
    | some value => exact ih _ (mem_of_lookup hfield)

section Shapes

variable {value : Json}

lemma deepEqual_null : isDeepStrictEqual .null value ↔ .null = value := by
  cases value <;> simp

lemma deepEqual_bool {b : Bool} : isDeepStrictEqual (.bool b) value ↔ .bool b = value := by
  cases value <;> simp

lemma deepEqual_num {q : Rat} : isDeepStrictEqual (.num q) value ↔ .num q = value := by
  cases value <;> simp

lemma deepEqual_str {s : String} : isDeepStrictEqual (.str s) value ↔ .str s = value := by
  cases value <;> simp

lemma deepEqual_arr {xs : List Json} : isDeepStrictEqual (.arr xs) value ↔
    ∃ ys, value = .arr ys ∧ Forall₂ (fun x y => isDeepStrictEqual x y) xs ys := by
  cases value <;> simp [deepEqualElements_iff]

lemma obj_of_deepEqual {fields : List (String × Json)}
    (h : isDeepStrictEqual (.obj fields) value) : ∃ others, value = .obj others := by
  cases value with
  | obj others => exact ⟨others, rfl⟩
  | _ => simp at h

end Shapes

theorem isDeepStrictEqual_symm {a b : Json} (ha : Keyed a) (hb : Keyed b)
    (h : isDeepStrictEqual a b) : isDeepStrictEqual b a := by
  induction ha generalizing b with
  | null => rw [← deepEqual_null.mp h, deepEqual_null]
  | bool _ => rw [← deepEqual_bool.mp h, deepEqual_bool]
  | num _ => rw [← deepEqual_num.mp h, deepEqual_num]
  | str _ => rw [← deepEqual_str.mp h, deepEqual_str]
  | @arr xs elements ih =>
    obtain ⟨ys, rfl, hxy⟩ := deepEqual_arr.mp h
    refine deepEqual_arr.mpr ⟨xs, rfl, ?_⟩
    rw [forall₂_iff_get] at hxy ⊢
    refine ⟨hxy.1.symm, fun i hi hi' => ?_⟩
    exact ih _ (get_mem xs ⟨i, hi'⟩) (hb.element (get_mem ys ⟨i, hi⟩)) (hxy.2 i hi' hi)
  | @obj fields nodup values ih =>
    obtain ⟨others, rfl⟩ := obj_of_deepEqual h
    rw [deepEqual_obj nodup hb.keys_nodup] at h
    rw [deepEqual_obj hb.keys_nodup nodup]
    intro key
    rcases (h key).cases with ⟨hfield, hother⟩ | ⟨value, value', hfield, hother, hequal⟩
    · rw [hfield, hother]; trivial
    · rw [hfield, hother]; exact ih _ (mem_of_lookup hfield) (hb.lookup hother) hequal

theorem isDeepStrictEqual_trans {a b c : Json} (ha : Keyed a) (hb : Keyed b) (hc : Keyed c)
    (hab : isDeepStrictEqual a b) (hbc : isDeepStrictEqual b c) :
    isDeepStrictEqual a c := by
  induction ha generalizing b c with
  | null => rwa [← deepEqual_null.mp hab] at hbc
  | bool _ => rwa [← deepEqual_bool.mp hab] at hbc
  | num _ => rwa [← deepEqual_num.mp hab] at hbc
  | str _ => rwa [← deepEqual_str.mp hab] at hbc
  | @arr xs elements ih =>
    obtain ⟨ys, rfl, hxy⟩ := deepEqual_arr.mp hab
    obtain ⟨zs, rfl, hyz⟩ := deepEqual_arr.mp hbc
    refine deepEqual_arr.mpr ⟨zs, rfl, ?_⟩
    rw [forall₂_iff_get] at hxy hyz ⊢
    refine ⟨hxy.1.trans hyz.1, fun i hi hi' => ?_⟩
    have hi'' : i < ys.length := hxy.1 ▸ hi
    exact ih _ (get_mem xs ⟨i, hi⟩) (hb.element (get_mem ys ⟨i, hi''⟩))
      (hc.element (get_mem zs ⟨i, hi'⟩)) (hxy.2 i hi hi'') (hyz.2 i hi'' hi')
  | @obj fields nodup values ih =>
    obtain ⟨others, rfl⟩ := obj_of_deepEqual hab
    obtain ⟨lasts, rfl⟩ := obj_of_deepEqual hbc
    rw [deepEqual_obj nodup hb.keys_nodup] at hab
    rw [deepEqual_obj hb.keys_nodup hc.keys_nodup] at hbc
    rw [deepEqual_obj nodup hc.keys_nodup]
    intro key
    rcases (hab key).cases with ⟨hfield, hother⟩ | ⟨value, value', hfield, hother, hequal⟩
    · have hlast := hbc key
      rw [hother] at hlast; rwa [hfield]
    · rcases (hbc key).cases with ⟨hnone, -⟩ | ⟨middle, last, hmiddle, hlast, hequal'⟩
      · cases hother.symm.trans hnone
      · cases hother.symm.trans hmiddle
        rw [hfield, hlast]
        exact ih _ (mem_of_lookup hfield) (hb.lookup hother) (hc.lookup hlast) hequal hequal'

lemma SameField.refl {field : Option Json} (h : ∀ value ∈ field, Keyed value) :
    SameField field field := by
  cases field with
  | none => trivial
  | some value => exact isDeepStrictEqual_refl (h value rfl)

lemma sameField_get {value other : Json} (hvalue : Keyed value) (hother : Keyed other)
    (h : isDeepStrictEqual value other) (key : String) :
    SameField (value.get? key) (other.get? key) := by
  cases value with
  | obj fields =>
    obtain ⟨others, rfl⟩ := obj_of_deepEqual h
    exact (deepEqual_obj hvalue.keys_nodup hother.keys_nodup).mp h key
  | null => rw [← deepEqual_null.mp h]; trivial
  | bool _ => rw [← deepEqual_bool.mp h]; trivial
  | num _ => rw [← deepEqual_num.mp h]; trivial
  | str _ => rw [← deepEqual_str.mp h]; trivial
  | arr xs => obtain ⟨ys, rfl, -⟩ := deepEqual_arr.mp h; trivial

lemma SameField.eq_str {field other : Option Json} (h : SameField field other) (s : String) :
    field = some (.str s) ↔ other = some (.str s) := by
  rcases h.cases with ⟨rfl, rfl⟩ | ⟨value, value', rfl, rfl, hequal⟩
  · rfl
  constructor
  · intro hvalue
    rw [Option.some.inj hvalue, deepEqual_str] at hequal
    rw [hequal]
  · intro hvalue
    rw [Option.some.inj hvalue] at hequal
    cases value with
    | str t => rw [deepEqual_str.mp hequal]
    | _ => simp at hequal

lemma SameField.eq_num {field other : Option Json} (h : SameField field other) (q : Rat) :
    field = some (.num q) ↔ other = some (.num q) := by
  rcases h.cases with ⟨rfl, rfl⟩ | ⟨value, value', rfl, rfl, hequal⟩
  · rfl
  constructor
  · intro hvalue
    rw [Option.some.inj hvalue, deepEqual_num] at hequal
    rw [hequal]
  · intro hvalue
    rw [Option.some.inj hvalue] at hequal
    cases value with
    | num t => rw [deepEqual_num.mp hequal]
    | _ => simp at hequal

structure Same (value other : Json) : Prop where
  keyed : Keyed value
  keyed' : Keyed other
  equal : isDeepStrictEqual value other

namespace Same

variable {a b c : Json} {fields others : List (String × Json)} {xs ys : List Json}

lemma refl (h : Keyed a) : Same a a := ⟨h, h, isDeepStrictEqual_refl h⟩

lemma symm (h : Same a b) : Same b a :=
  ⟨h.keyed', h.keyed, isDeepStrictEqual_symm h.keyed h.keyed' h.equal⟩

lemma trans (h : Same a b) (h' : Same b c) : Same a c :=
  ⟨h.keyed, h'.keyed', isDeepStrictEqual_trans h.keyed h.keyed' h'.keyed' h.equal h'.equal⟩

lemma get (h : Same a b) (key : String) : SameField (a.get? key) (b.get? key) :=
  sameField_get h.keyed h.keyed' h.equal key

lemma isObject_eq (h : Same a b) : a.isObject = b.isObject := by
  have hequal := h.equal
  cases a <;> cases b <;> simp_all [isObject]

lemma lookup (h : Same (.obj fields) (.obj others)) (key : String) :
    fields.lookup key = none ∧ others.lookup key = none ∨
      ∃ value value', fields.lookup key = some value ∧ others.lookup key = some value' ∧
        Same value value' := by
  rcases (h.get key).cases with hnone | ⟨value, value', hvalue, hvalue', hequal⟩
  · exact .inl hnone
  · exact .inr ⟨value, value', hvalue, hvalue', h.keyed.lookup hvalue, h.keyed'.lookup hvalue',
      hequal⟩

lemma elements (h : Same (.arr xs) (.arr ys)) : Forall₂ Same xs ys := by
  obtain ⟨ys', hys, hequal⟩ := deepEqual_arr.mp h.equal
  cases hys
  rw [forall₂_iff_get] at hequal ⊢
  refine ⟨hequal.1, fun i hi hi' => ⟨?_, ?_, hequal.2 i hi hi'⟩⟩
  · exact h.keyed.element (get_mem xs ⟨i, hi⟩)
  · exact h.keyed'.element (get_mem ys ⟨i, hi'⟩)

lemma arr (h : Forall₂ Same xs ys) : Same (.arr xs) (.arr ys) := by
  have hparts : (∀ x ∈ xs, Keyed x) ∧ ∀ y ∈ ys, Keyed y := by
    induction h with
    | nil => simp
    | cons hxy _ ih =>
      exact ⟨forall_mem_cons.mpr ⟨hxy.keyed, ih.1⟩,
        forall_mem_cons.mpr ⟨hxy.keyed', ih.2⟩⟩
  exact ⟨.arr hparts.1, .arr hparts.2, deepEqual_arr.mpr ⟨ys, rfl, h.imp fun _ _ hxy => hxy.equal⟩⟩

lemma setOwn (h : Same (.obj fields) (.obj others)) (key : String) (hab : Same a b) :
    Same (.obj (Js.setOwn fields key a)) (.obj (Js.setOwn others key b)) := by
  refine ⟨h.keyed.setOwn key hab.keyed, h.keyed'.setOwn key hab.keyed', ?_⟩
  rw [deepEqual_obj (nodup_setOwn h.keyed.keys_nodup key a)
    (nodup_setOwn h.keyed'.keys_nodup key b)]
  intro k
  rw [lookup_setOwn, lookup_setOwn]
  split
  · exact hab.equal
  · exact h.get k

end Same

end Js
