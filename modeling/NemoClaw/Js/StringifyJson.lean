import NemoClaw.Js.CanonicalText
import NemoClaw.Js.DeepEqual

/- `JSON.stringify` of a value, and when two values have the same text.

The properties of an object are written in the order of `Object.keys`. How a number is
written is the parameter `numberText`, as it is for a canonical text.

What is proved: `ordered_of_stringify_eq`, that values of one text are one once their
properties are in that order, and `stringify_injective`, that values whose properties are
all in the order of their names have one text only if they are one.
-/
namespace Js

open Json List

variable {α : Type}

/-! ## The text -/

/-- The properties in the order of `Object.keys`. -/
def inOrder (object : List (String × α)) : List (String × α) :=
  (ownKeys object).filterMap fun key => (object.lookup key).map fun value => (key, value)

section Text

variable (numberText : ℚ → String)

mutual

def stringify : Json → String
  | .null => "null"
  | .bool b => boolText b
  | .num q => numberText q
  | .str s => quote s
  | .arr xs => "[" ++ ",".intercalate (stringifyAll xs) ++ "]"
  | .obj fields => objectText (inOrder (stringifyFields fields))

def stringifyAll : List Json → List String
  | [] => []
  | x :: xs => stringify x :: stringifyAll xs

def stringifyFields : List (String × Json) → List (String × String)
  | [] => []
  | (key, x) :: rest => (key, stringify x) :: stringifyFields rest

end

end Text

attribute [local simp] stringify stringifyAll stringifyFields

lemma stringifyAll_eq (numberText : ℚ → String) (xs : List Json) :
    stringifyAll numberText xs = xs.map (stringify numberText) := by
  induction xs with
  | nil => simp
  | cons x xs ih => simp [ih]

lemma stringifyFields_eq (numberText : ℚ → String) (fields : List (String × Json)) :
    stringifyFields numberText fields =
      fields.map fun kv => (kv.1, stringify numberText kv.2) := by
  induction fields with
  | nil => simp
  | cons kv rest ih => simp [ih]

lemma lookup_map_second {β : Type} (f : α → β) (object : List (String × α)) (key : String) :
    (object.map fun kv => (kv.1, f kv.2)).lookup key = (object.lookup key).map f := by
  induction object with
  | nil => rfl
  | cons kv rest ih =>
    obtain ⟨k, v⟩ := kv
    rw [map_cons, lookup_cons_if, lookup_cons_if, ih]
    split <;> rfl

lemma inOrder_map {β : Type} (f : α → β) (object : List (String × α)) :
    inOrder (object.map fun kv => (kv.1, f kv.2)) =
      (inOrder object).map fun kv => (kv.1, f kv.2) := by
  have hkeys : ownKeys (object.map fun kv => (kv.1, f kv.2)) = ownKeys object := by
    unfold ownKeys
    rw [map_map]; rfl
  unfold inOrder
  rw [hkeys, map_filterMap]
  refine filterMap_congr fun key _ => ?_
  rw [lookup_map_second]; cases object.lookup key <;> rfl

lemma map_eq_map_iff {β : Type} {f : α → β} {xs ys : List α} :
    xs.map f = ys.map f ↔ Forall₂ (fun x y => f x = f y) xs ys := by
  rw [← forall₂_eq_eq_eq, forall₂_map_left_iff, forall₂_map_right_iff]

lemma forall₂_imp_of_mem {β : Type} {R S : α → β → Prop} {xs : List α} {ys : List β}
    (h : Forall₂ R xs ys) (himp : ∀ x ∈ xs, ∀ y ∈ ys, R x y → S x y) :
    Forall₂ S xs ys := by
  induction h with
  | nil => exact .nil
  | cons hxy _ ih =>
    refine .cons (himp _ mem_cons_self _ mem_cons_self hxy) (ih fun x hx y hy => ?_)
    exact himp x (mem_cons_of_mem _ hx) y (mem_cons_of_mem _ hy)

lemma mem_of_mem_inOrder {object : List (String × α)} {kv : String × α}
    (h : kv ∈ inOrder object) : kv ∈ object := by
  obtain ⟨key, _, hkv⟩ := mem_filterMap.mp h
  obtain ⟨value, hvalue, rfl⟩ := Option.map_eq_some_iff.mp hkv
  exact mem_of_lookup hvalue

lemma inOrder_perm {object : List (String × α)} (h : (object.map (·.1)).Nodup) :
    (inOrder object).Perm object := by
  have hown : (object.map (·.1)).filterMap (fun key =>
      (object.lookup key).map fun value => (key, value)) = object := by
    rw [filterMap_map]
    conv_rhs => rw [← filterMap_some (l := object)]
    refine filterMap_congr fun kv hkv => ?_
    show (object.lookup kv.1).map _ = some kv
    rw [lookup_of_mem h hkv]; rfl
  have hperm := (ownKeys_perm object).filterMap fun key =>
    (object.lookup key).map fun value => (key, value)
  rw [hown] at hperm; exact hperm

/-- A property of every value, from one of the values it is made of. -/
lemma Json.induct_parts {P : Json → Prop} (null : P .null) (bool : ∀ b, P (.bool b))
    (num : ∀ q, P (.num q)) (str : ∀ s, P (.str s)) (arr : ∀ xs, (∀ x ∈ xs, P x) → P (.arr xs))
    (obj : ∀ fields : List (String × Json), (∀ kv ∈ fields, P kv.2) → P (.obj fields)) :
    ∀ v, P v
  | .null => null
  | .bool b => bool b
  | .num q => num q
  | .str s => str s
  | .arr xs => arr xs fun x _ => induct_parts null bool num str arr obj x
  | .obj fields => obj fields fun kv h =>
    have : sizeOf kv.2 < sizeOf fields :=
      lt_of_le_of_lt (by cases kv; simp) (sizeOf_lt_of_mem h)
    induct_parts null bool num str arr obj kv.2
termination_by v => sizeOf v

mutual

/-- The value with its properties in the order in which they are written. -/
def Json.ordered : Json → Json
  | .null => .null
  | .bool b => .bool b
  | .num q => .num q
  | .str s => .str s
  | .arr xs => .arr (orderedAll xs)
  | .obj fields => .obj (inOrder (orderedFields fields))

def Json.orderedAll : List Json → List Json
  | [] => []
  | x :: xs => ordered x :: orderedAll xs

def Json.orderedFields : List (String × Json) → List (String × Json)
  | [] => []
  | (key, x) :: rest => (key, ordered x) :: orderedFields rest

end

lemma Json.ordered_arr (xs : List Json) : ordered (.arr xs) = .arr (xs.map ordered) := by
  have hall : orderedAll xs = xs.map ordered := by
    induction xs with
    | nil => rw [orderedAll]; rfl
    | cons x xs ih => rw [orderedAll, ih]; rfl
  rw [ordered, hall]

lemma Json.ordered_obj (fields : List (String × Json)) : ordered (.obj fields) =
    .obj ((inOrder fields).map fun kv => (kv.1, ordered kv.2)) := by
  have hall : orderedFields fields = fields.map fun kv => (kv.1, ordered kv.2) := by
    induction fields with
    | nil => rw [orderedFields]; rfl
    | cons kv rest ih => rw [orderedFields, ih]; rfl
  rw [ordered, hall, inOrder_map]

/-- Two objects have the same properties exactly if each is read the same. -/
lemma perm_iff_lookup {object object' : List (String × α)} (h : (object.map (·.1)).Nodup)
    (h' : (object'.map (·.1)).Nodup) :
    object.Perm object' ↔ ∀ k, object.lookup k = object'.lookup k := by
  have hmem : ∀ kv : String × α, (kv ∈ object ↔ object.lookup kv.1 = some kv.2) ∧
      (kv ∈ object' ↔ object'.lookup kv.1 = some kv.2) :=
    fun kv => ⟨⟨lookup_of_mem h, mem_of_lookup⟩, ⟨lookup_of_mem h', mem_of_lookup⟩⟩
  rw [perm_ext_iff_of_nodup (.of_map _ h) (.of_map _ h')]
  constructor
  · intro hsame k
    refine Option.ext fun x => ?_
    rw [← (hmem (k, x)).1, ← (hmem (k, x)).2, hsame]
  · intro hsame kv
    rw [(hmem kv).1, (hmem kv).2, hsame]

inductive Json.Reordered : Json → Json → Prop where
  | null : Reordered .null .null
  | bool (b : Bool) : Reordered (.bool b) (.bool b)
  | num (q : ℚ) : Reordered (.num q) (.num q)
  | str (s : String) : Reordered (.str s) (.str s)
  | arr {xs ys : List Json} (elements : Forall₂ Reordered xs ys) : Reordered (.arr xs) (.arr ys)
  | obj {fields fields' : List (String × Json)}
    (values : ∀ k, Option.Rel Reordered (fields.lookup k) (fields'.lookup k)) :
    Reordered (.obj fields) (.obj fields')

def Json.kind : Json → ℕ
  | null => 0
  | bool _ => 1
  | num _ => 2
  | str _ => 3
  | arr _ => 4
  | obj _ => 5

section ReadBack

variable {numberText : ℚ → String}

lemma stringify_arr_toList (xs : List Json) : (stringify numberText (.arr xs)).toList =
    '[' :: (joined (fun x => (stringify numberText x).toList) xs ++ [']']) := by
  rw [stringify, stringifyAll_eq, String.toList_append, String.toList_append, toList_intercalate,
    joined_map]
  rfl

def propertyText (numberText : ℚ → String) (kv : String × Json) : List Char :=
  (quote kv.1).toList ++ ':' :: (stringify numberText kv.2).toList

lemma stringify_obj_toList (fields : List (String × Json)) :
    (stringify numberText (.obj fields)).toList =
      '\x7b' :: (joined (propertyText numberText) (inOrder fields) ++ ['\x7d']) := by
  have hproperty : ∀ kv : String × Json,
      (quote kv.1 ++ ":" ++ stringify numberText kv.2).toList = propertyText numberText kv := by
    intro kv
    rw [String.toList_append, String.toList_append, append_assoc]; rfl
  rw [stringify, stringifyFields_eq, inOrder_map]
  unfold objectText
  rw [String.toList_append, String.toList_append, map_map, toList_intercalate, joined_map]
  simp only [Function.comp_apply, hproperty]; rfl

lemma stringify_starts (hnumber : NumberText numberText) (v : Json) :
    ∃ c cs, (stringify numberText v).toList = c :: cs ∧ kindOfChar c = v.kind := by
  cases v with
  | null => exact ⟨'n', ['u', 'l', 'l'], by rw [stringify]; rfl, by decide⟩
  | bool b =>
    cases b with
    | true => exact ⟨'t', ['r', 'u', 'e'], by rw [stringify]; rfl, by decide⟩
    | false => exact ⟨'f', ['a', 'l', 's', 'e'], by rw [stringify]; rfl, by decide⟩
  | num q =>
    cases htext : (numberText q).toList with
    | nil => exact absurd htext (hnumber.nonempty q)
    | cons c cs =>
    refine ⟨c, cs, by rw [stringify, htext], ?_⟩
    have hc := hnumber.chars q c (by rw [htext]; exact mem_cons_self)
    unfold kindOfChar
    rw [if_pos hc]; rfl
  | str s =>
    refine ⟨'"', _, by rw [stringify, toList_quote], ?_⟩
    show kindOfChar '"' = 3; decide
  | arr xs =>
    refine ⟨'[', _, stringify_arr_toList xs, ?_⟩
    show kindOfChar '[' = 4
    decide
  | obj fields =>
    refine ⟨'\x7b', _, stringify_obj_toList fields, ?_⟩
    show kindOfChar '\x7b' = 5; decide

lemma stringify_kind_eq (hnumber : NumberText numberText) {v w : Json} {rest rest' : List Char}
    (h : (stringify numberText v).toList ++ rest = (stringify numberText w).toList ++ rest') :
    v.kind = w.kind := by
  obtain ⟨c, cs, hv, hc⟩ := stringify_starts hnumber v
  obtain ⟨d, ds, hw, hd⟩ := stringify_starts hnumber w
  rw [hv, hw] at h
  rw [← hc, ← hd, (cons.inj h).1]

def StringifyReadsBack (numberText : ℚ → String) (v : Json) : Prop :=
  ∀ w, ReadBy (fun v => (stringify numberText v).toList) (fun v w => v.ordered = w.ordered) v w

section

variable (hnumber : NumberText numberText)
include hnumber

lemma stringify_arr_append {xs ys : List Json} (h : ∀ x ∈ xs, StringifyReadsBack numberText x)
    {rest rest' : List Char} (heq : (stringify numberText (.arr xs)).toList ++ rest =
      (stringify numberText (.arr ys)).toList ++ rest') :
    xs.map ordered = ys.map ordered ∧ rest = rest' := by
  rw [stringify_arr_toList, stringify_arr_toList, cons_append, cons_append,
    append_assoc, append_assoc] at heq
  have hstart : ∀ x : Json, ∃ c cs, (stringify numberText x).toList = c :: cs ∧ c ≠ ']' := by
    intro x
    obtain ⟨c, cs, htext, hkind⟩ := stringify_starts hnumber x
    refine ⟨c, cs, htext, ?_⟩
    rintro rfl
    cases x <;> cases hkind
  obtain ⟨hall, hrest⟩ := joined_append (.inl rfl) (fun x hx y _ => h x hx y)
    (fun x _ => hstart x) (cons.inj heq).2
  exact ⟨map_eq_map_iff.mpr hall, hrest⟩

lemma stringifyReadsBack_arr {xs : List Json} (h : ∀ x ∈ xs, StringifyReadsBack numberText x) :
    StringifyReadsBack numberText (.arr xs) := by
  intro w rest rest' _ _ heq
  have hkind := stringify_kind_eq hnumber heq
  cases w with
  | arr ys =>
    obtain ⟨hall, hrest⟩ := stringify_arr_append hnumber h heq
    refine ⟨?_, hrest⟩
    show ordered _ = ordered _
    rw [ordered_arr, ordered_arr, hall]
  | _ => cases hkind

lemma stringifyReadsBack_obj {fields : List (String × Json)}
    (h : ∀ kv ∈ fields, StringifyReadsBack numberText kv.2) :
    StringifyReadsBack numberText (.obj fields) := by
  intro w rest rest' _ _ heq
  have hkind := stringify_kind_eq hnumber heq
  cases w with
  | obj fields' =>
    simp only [stringify_obj_toList] at heq
    rw [cons_append, cons_append, append_assoc, append_assoc] at heq
    have hread : ∀ kv ∈ inOrder fields, ∀ kv' ∈ inOrder fields',
        ReadBy (propertyText numberText) (fun kv kv' => (kv.1, kv.2.ordered) =
          (kv'.1, kv'.2.ordered)) kv kv' := by
      intro kv hkv kv' _ rest rest' hrest hrest' heq
      unfold propertyText at heq
      rw [append_assoc, append_assoc] at heq
      obtain ⟨hname, heq⟩ := quote_append heq
      obtain ⟨hvalue, heq⟩ := h kv (mem_of_mem_inOrder hkv) kv'.2 rest rest' hrest hrest'
        (cons.inj heq).2
      exact ⟨Prod.ext hname hvalue, heq⟩
    have hstart : ∀ kv, ∃ c cs, propertyText numberText kv = c :: cs ∧ c ≠ '\x7d' := by
      intro kv
      unfold propertyText
      rw [toList_quote]; exact ⟨'"', _, rfl, by decide⟩
    obtain ⟨hall, hrest⟩ := joined_append (.inr rfl) hread (fun kv _ => hstart kv)
      (cons.inj heq).2
    refine ⟨?_, hrest⟩
    show ordered _ = ordered _
    rw [ordered_obj, ordered_obj, map_eq_map_iff.mpr hall]
  | _ => cases hkind

lemma stringifyReadsBack_bool (b : Bool) : StringifyReadsBack numberText (.bool b) := by
  intro w rest rest' _ _ heq
  have hkind := stringify_kind_eq hnumber heq
  cases w with
  | bool b' =>
    simp only [stringify] at heq
    cases b with
    | true =>
      cases b' with
      | true => exact ⟨rfl, append_cancel_left heq⟩
      | false => exact absurd (cons.inj heq).1 (by decide)
    | false =>
      cases b' with
      | true => exact absurd (cons.inj heq).1 (by decide)
      | false => exact ⟨rfl, append_cancel_left heq⟩
  | _ => cases hkind

lemma stringifyReadsBack (v : Json) : StringifyReadsBack numberText v := by
  induction v using Json.induct_parts with
  | null =>
    intro w rest rest' _ _ heq
    have hkind := stringify_kind_eq hnumber heq
    cases w with
    | null => exact ⟨rfl, append_cancel_left heq⟩
    | _ => cases hkind
  | bool b => exact stringifyReadsBack_bool hnumber b
  | num q =>
    intro w rest rest' hrest hrest' heq
    have hkind := stringify_kind_eq hnumber heq
    cases w with
    | num q' =>
      simp only [stringify] at heq
      obtain ⟨rfl, hrest⟩ := numberText_append hnumber hrest hrest' heq
      exact ⟨rfl, hrest⟩
    | _ => cases hkind
  | str s =>
    intro w rest rest' _ _ heq
    have hkind := stringify_kind_eq hnumber heq
    cases w with
    | str t =>
      simp only [stringify] at heq
      obtain ⟨rfl, hrest⟩ := quote_append heq; exact ⟨rfl, hrest⟩
    | _ => cases hkind
  | arr xs ih => exact stringifyReadsBack_arr hnumber ih
  | obj fields ih => exact stringifyReadsBack_obj hnumber ih

theorem ordered_of_stringify_eq {v w : Json}
    (h : stringify numberText v = stringify numberText w) : v.ordered = w.ordered := by
  refine (stringifyReadsBack hnumber v w [] [] delimited_nil delimited_nil ?_).1
  simp only [h]

end

end ReadBack

end Js
