import NemoClaw.Js.DeepEqual
import NemoClaw.Js.Merge

/- Objects that stand at several places of a document.

A parser that follows aliases makes one object a part of the document at every place where an
alias of it stands. What is assigned to such an object is seen at all of them. A document is a
tree here, with the list of the other places at which the object under a key stands.

What is provided:
  1. `get`, `put` — the part of a value at a place, and the value with another one there.
  2. `editInPlace` — a document whose object under a key has been edited.
  3. `editInPlace_again` — of two edits the second decides.
  4. `editInPlace_keeps_iff` — the other sections are as they were exactly if the object stands
     nowhere else or is as it was.

An object that is a part of itself has no tree and is left out.
-/
namespace Js

open List

/-- One step down: to a property, or to an element. -/
inductive Step where
  | key (name : String)
  | index (i : ℕ)
  deriving DecidableEq

abbrev Place := List Step

/-- Values with parts; `Proper` values have each part under a step of its own. -/
class HasParts (V : Type) where
  child : V → Step → Option V
  mapParts : (Step → V → V) → V → V
  Proper : V → Prop
  proper_child {v w : V} {s : Step} : Proper v → child v s = some w → Proper w
  child_mapParts (f : Step → V → V) (v : V) (s : Step) :
    child (mapParts f v) s = (child v s).map (f s)
  mapParts_mapParts (f g : Step → V → V) (v : V) :
    mapParts g (mapParts f v) = mapParts (fun s => g s ∘ f s) v
  mapParts_same {f : Step → V → V} {v : V} : Proper v →
    (∀ s w, child v s = some w → f s w = w) → mapParts f v = v

open HasParts

section Parts

variable {V : Type} [HasParts V] {f g : V → V} {s t : Step} {v : V}

def modify (f : V → V) (s : Step) (v : V) : V := mapParts (fun t w => if t = s then f w else w) v

lemma child_modify : child (modify f s v) t = if t = s then (child v s).map f else child v t := by
  rw [modify, child_mapParts]
  by_cases hstep : t = s
  · simp [hstep]
  · simp [hstep]

lemma modify_modify : modify g s (modify f s v) = modify (g ∘ f) s v := by
  rw [modify, modify, modify, mapParts_mapParts]
  congr 1
  funext t w
  by_cases hstep : t = s <;> simp [hstep]

lemma modify_comm (h : s ≠ t) : modify g t (modify f s v) = modify f s (modify g t v) := by
  rw [modify, modify, modify, modify, mapParts_mapParts, mapParts_mapParts]
  congr 1
  funext r w
  by_cases hstep : r = s
  · simp [hstep, h]
  · simp [hstep]

lemma modify_same (hv : Proper v) (h : ∀ w, child v s = some w → f w = w) : modify f s v = v := by
  refine mapParts_same hv fun t w hw => ?_
  split
  · next hstep => exact h w (hstep ▸ hw)
  · rfl

end Parts

lemma map_keyed_same {α : Type} {f : String → α → α} {fields : List (String × α)}
    (hkeys : (fields.map (·.1)).Nodup)
    (h : ∀ name value, fields.lookup name = some value → f name value = value) :
    (fields.map fun member => (member.1, f member.1 member.2)) = fields := by
  conv_rhs => rw [← map_id fields]
  exact map_congr_left fun member hmember =>
    Prod.ext rfl (h member.1 member.2 (lookup_of_mem hkeys hmember))

lemma mapIdx_same {α : Type} {f : ℕ → α → α} {elements : List α}
    (h : ∀ i element, elements[i]? = some element → f i element = element) :
    elements.mapIdx f = elements := by
  refine ext_getElem? fun i => ?_
  rw [getElem?_mapIdx]
  cases helement : elements[i]? with
  | none => rfl
  | some element => exact congrArg some (h i element helement)

instance : HasParts Json where
  child v s :=
    match v, s with
    | .obj fields, .key name => fields.lookup name
    | .arr elements, .index i => elements[i]?
    | _, _ => none
  mapParts f v :=
    match v with
    | .obj fields => .obj (fields.map fun member => (member.1, f (.key member.1) member.2))
    | .arr elements => .arr (elements.mapIdx fun i => f (.index i))
    | v => v
  Proper := Json.Keyed
  proper_child {v w s} hv hw := by
    cases v <;> cases s <;> first | cases hw | skip
    · exact hv.element (mem_of_getElem? hw)
    · exact hv.lookup hw
  child_mapParts f v s := by
    cases v <;> cases s <;> try rfl
    · exact getElem?_mapIdx
    · exact lookup_map_keyed (fun name => f (.key name)) _ _
  mapParts_mapParts f g v := by
    cases v <;> try rfl
    · exact congrArg Json.arr mapIdx_mapIdx
    · exact congrArg Json.obj map_map
  mapParts_same {f v} hv h := by
    cases v <;> try rfl
    · exact congrArg Json.arr (mapIdx_same fun i w hw => h (.index i) w hw)
    · exact congrArg Json.obj (map_keyed_same hv.keys_nodup fun name w hw => h (.key name) w hw)

section Places

variable {V : Type} [HasParts V] {v x y : V} {p q : Place} {places : List Place}

/-- What stands at a place. -/
def get : V → Place → Option V
  | v, [] => some v
  | v, s :: p => (child v s).bind fun w => get w p

/-- The value with `x` at a place, if it has that place. -/
def put (x : V) : Place → V → V
  | [], _ => x
  | s :: p, v => modify (put x p) s v

/-- Neither place is below the other. -/
def Apart (p q : Place) : Prop := ¬ p <+: q ∧ ¬ q <+: p

lemma Apart.tail {s : Step} (h : Apart (s :: p) (s :: q)) : Apart p q := by
  simpa [Apart, cons_prefix_cons] using h

lemma put_put : put y p (put x p v) = put y p v := by
  induction p generalizing v with
  | nil => rfl
  | cons s p ih =>
    have hboth : put y p ∘ put x p = put y p := funext fun w => ih
    rw [put, put, put, modify_modify, hboth]

lemma put_comm (h : Apart p q) : put y q (put x p v) = put x p (put y q v) := by
  induction p generalizing q v with
  | nil => exact absurd nil_prefix h.1
  | cons s p ih =>
    cases q with
    | nil => exact absurd nil_prefix h.2
    | cons t q =>
      rw [put, put, put, put]
      by_cases hstep : s = t
      · subst hstep
        have hboth : put y q ∘ put x p = put x p ∘ put y q := funext fun w => ih h.tail
        rw [modify_modify, modify_modify, hboth]
      · exact modify_comm hstep

lemma get_put (h : (get v p).isSome) : get (put x p v) p = some x := by
  induction p generalizing v with
  | nil => rfl
  | cons s p ih =>
    rw [get] at h ⊢
    rw [put, child_modify, if_pos rfl]
    cases hchild : child v s with
    | none => rw [hchild] at h; cases h
    | some w =>
      rw [hchild] at h; exact ih h

lemma get_put_apart (h : Apart p q) : get (put x p v) q = get v q := by
  induction p generalizing q v with
  | nil => exact absurd nil_prefix h.1
  | cons s p ih =>
    cases q with
    | nil => exact absurd nil_prefix h.2
    | cons t q =>
      rw [get, get, put, child_modify]
      by_cases hstep : t = s
      · subst hstep
        rw [if_pos rfl]
        cases child v t with
        | none => rfl
        | some w => exact ih h.tail
      · rw [if_neg hstep]

lemma put_same (hv : Proper v) (h : get v p = some x) : put x p v = v := by
  induction p generalizing v with
  | nil => exact (Option.some.inj h).symm
  | cons s p ih =>
    refine modify_same hv fun w hw => ih (proper_child hv hw) ?_
    rw [get, hw] at h; exact h

/-- The value with `x` at every place of a list. -/
def putAll (x : V) (places : List Place) (v : V) : V := places.foldl (fun v p => put x p v) v

lemma putAll_put (h : ∀ q ∈ places, Apart p q) :
    put y p (putAll x places v) = putAll x places (put y p v) := by
  induction places generalizing v with
  | nil => rfl
  | cons q rest ih =>
    rw [putAll, foldl_cons, ← putAll, ih fun q hq => h q (mem_cons_of_mem _ hq),
      ← put_comm (h q mem_cons_self)]
    rfl

lemma putAll_putAll (h : places.Pairwise Apart) :
    putAll y places (putAll x places v) = putAll y places v := by
  induction places generalizing v with
  | nil => rfl
  | cons p rest ih =>
    obtain ⟨hfirst, hrest⟩ := pairwise_cons.mp h
    show putAll y rest (put y p (putAll x rest (put x p v))) = putAll y rest (put y p v)
    rw [putAll_put hfirst, ih hrest, put_put]

lemma get_putAll_apart (h : ∀ q ∈ places, Apart q p) : get (putAll x places v) p = get v p := by
  induction places generalizing v with
  | nil => rfl
  | cons q rest ih =>
    show get (putAll x rest (put x q v)) p = get v p
    rw [ih fun q hq => h q (mem_cons_of_mem _ hq), get_put_apart (h q mem_cons_self)]

lemma get_putAll (h : places.Pairwise Apart) (hp : p ∈ places) (hsome : (get v p).isSome) :
    get (putAll x places v) p = some x := by
  induction places generalizing v with
  | nil => cases hp
  | cons q rest ih =>
    obtain ⟨hfirst, hrest⟩ := pairwise_cons.mp h
    show get (putAll x rest (put x q v)) p = some x
    rcases mem_cons.mp hp with rfl | hp
    · rw [get_putAll_apart fun q hq => ⟨(hfirst q hq).2, (hfirst q hq).1⟩, get_put hsome]
    · refine ih hrest hp ?_
      rw [get_put_apart (hfirst p hp)]; exact hsome

lemma putAll_same (hv : Proper v) (h : ∀ p ∈ places, get v p = some x) :
    putAll x places v = v := by
  induction places with
  | nil => rfl
  | cons p rest ih =>
    rw [putAll, foldl_cons, put_same hv (h p mem_cons_self)]
    exact ih fun q hq => h q (mem_cons_of_mem _ hq)

end Places

/-! ## Documents -/

/-- Another place of an object: the section, and the place in it. -/
abbrev Alias := String × Place

def placesIn (aliases : List Alias) (key : String) : List Place :=
  (aliases.filter fun place => place.1 = key).map (·.2)

lemma map_setOwn {α : Type} (f : String → α → α) (object : List (String × α)) (key : String)
    (value : α) :
    (setOwn object key value).map (fun member => (member.1, f member.1 member.2)) =
      setOwn (object.map fun member => (member.1, f member.1 member.2)) key (f key value) := by
  unfold setOwn
  rw [lookup_map_keyed, Option.isSome_map]
  split
  · rw [map_map, map_map]
    refine map_congr_left fun member _ => ?_
    by_cases hkey : member.1 = key <;> simp [hkey]
  · rw [map_append]; rfl

lemma setOwn_setOwn {α : Type} (object : List (String × α)) (key : String) (value value' : α) :
    setOwn (setOwn object key value) key value' = setOwn object key value' := by
  have hown : ((setOwn object key value).lookup key).isSome := by
    rw [lookup_setOwn, if_pos rfl]; rfl
  rw [setOwn, if_pos hown]
  unfold setOwn
  split
  · rw [map_map]
    refine map_congr_left fun kv _ => ?_
    by_cases hkey : kv.1 = key <;> simp [hkey]
  · next habsent =>
    rw [map_append]
    congr 1
    · conv_rhs => rw [← map_id object]
      refine map_congr_left fun kv hkv => if_neg ?_
      rintro rfl
      obtain ⟨found, hfound⟩ := lookup_of_mem_keys (mem_map_of_mem hkv)
      rw [hfound] at habsent; exact habsent rfl
    · simp

section Documents

variable {V : Type} [HasParts V] {document : List (String × V)} {key : String} {x y : V}
  {aliases : List Alias}

/-- `document[key]` after its properties have been assigned, so that it is `x` now. -/
def editInPlace (document : List (String × V)) (key : String) (x : V) (aliases : List Alias) :
    List (String × V) :=
  setOwn (document.map fun member => (member.1, putAll x (placesIn aliases member.1) member.2))
    key x

/-- The places are those of the object under the key, which is no part of itself. -/
structure Shared (document : List (String × V)) (key : String) (aliases : List Alias) : Prop where
  elsewhere : ∀ place ∈ aliases, place.1 ≠ key
  holds : ∀ place ∈ aliases, ∃ value, document.lookup place.1 = some value ∧
    (document.lookup key).isSome ∧ get value place.2 = document.lookup key
  apart : ∀ other, (placesIn aliases other).Pairwise Apart

lemma Shared.nil (document : List (String × V)) (key : String) : Shared document key [] :=
  ⟨by simp, by simp, fun _ => Pairwise.nil⟩

lemma Shared.whole {other : String} (hne : other ≠ key) (hkey : document.lookup key = some x)
    (hother : document.lookup other = some x) : Shared document key [(other, [])] := by
  refine ⟨by simpa using hne, by simp [hkey, hother, get], fun name => ?_⟩
  by_cases hname : other = name <;> simp [placesIn, hname]

lemma Shared.filter (h : Shared document key aliases) (p : Alias → Bool) :
    Shared document key (aliases.filter p) where
  elsewhere place hplace := h.elsewhere place (mem_of_mem_filter hplace)
  holds place hplace := h.holds place (mem_of_mem_filter hplace)
  apart other := (h.apart other).sublist ((filter_sublist.filter _).map _)

lemma mem_placesIn {place : Alias} (h : place ∈ aliases) :
    place.2 ∈ placesIn aliases place.1 :=
  mem_map.mpr ⟨place, mem_filter.mpr ⟨h, decide_eq_true rfl⟩, rfl⟩

lemma placesIn_eq_nil (h : ∀ place ∈ aliases, place.1 ≠ key) : placesIn aliases key = [] := by
  unfold placesIn
  rw [filter_eq_nil_iff.mpr fun place hplace => by simpa using h place hplace]; rfl

@[simp] lemma lookup_editInPlace_self :
    (editInPlace document key x aliases).lookup key = some x := by
  rw [editInPlace, lookup_setOwn, if_pos rfl]

lemma lookup_editInPlace {other : String} (h : other ≠ key) :
    (editInPlace document key x aliases).lookup other =
      (document.lookup other).map (putAll x (placesIn aliases other)) := by
  rw [editInPlace, lookup_setOwn, if_neg h,
    lookup_map_keyed fun other value => putAll x (placesIn aliases other) value]

lemma editInPlace_nil : editInPlace document key x [] = setOwn document key x := by
  have hsame : (document.map fun member => (member.1, putAll x (placesIn [] member.1) member.2)) =
      document := by
    conv_rhs => rw [← map_id document]
    exact map_congr_left fun member _ => rfl
  rw [editInPlace, hsame]

lemma nodup_editInPlace (h : (document.map (·.1)).Nodup) :
    ((editInPlace document key x aliases).map (·.1)).Nodup := by
  refine nodup_setOwn ?_ key x
  rw [map_map]; exact h

lemma editInPlace_again (h : Shared document key aliases) :
    editInPlace (editInPlace document key x aliases) key y aliases =
      editInPlace document key y aliases := by
  have hown : ∀ value : V, putAll y (placesIn aliases key) value = value := by
    intro value
    rw [placesIn_eq_nil h.elsewhere]; rfl
  unfold editInPlace
  rw [map_setOwn fun other value => putAll y (placesIn aliases other) value, hown, setOwn_setOwn,
    map_map]
  refine congrArg (fun sections => setOwn sections key y) ?_
  exact map_congr_left fun member _ => congrArg (Prod.mk member.1) (putAll_putAll (h.apart _))

lemma editInPlace_same (h : Shared document key aliases) (hkeys : (document.map (·.1)).Nodup)
    (hproper : ∀ member ∈ document, Proper member.2) (hkey : document.lookup key = some x) :
    editInPlace document key x aliases = document := by
  have hsame : (document.map fun member =>
      (member.1, putAll x (placesIn aliases member.1) member.2)) = document := by
    refine map_keyed_same (f := fun other => putAll x (placesIn aliases other)) hkeys ?_
    refine fun other value hother => putAll_same (hproper _ (mem_of_lookup hother)) fun p hp => ?_
    obtain ⟨place, hplace, rfl⟩ := mem_map.mp hp
    obtain ⟨hmem, hsection⟩ := mem_filter.mp hplace
    obtain ⟨value', hvalue, -, hget⟩ := h.holds place hmem
    rw [of_decide_eq_true hsection, hother] at hvalue
    rw [Option.some.inj hvalue, hget, hkey]
  rw [editInPlace, hsame, setOwn_same hkeys hkey]

/-- An edit is seen in another section, unless the object stands in none or is as it was. -/
lemma editInPlace_keeps_iff (h : Shared document key aliases)
    (hkeys : (document.map (·.1)).Nodup)
    (hproper : ∀ member ∈ document, Proper member.2) :
    (∀ other, other ≠ key →
      (editInPlace document key x aliases).lookup other = document.lookup other) ↔
      aliases = [] ∨ document.lookup key = some x := by
  constructor
  · intro hsame
    by_contra hboth
    rw [not_or] at hboth
    obtain ⟨place, rest, hplaces⟩ := exists_cons_of_ne_nil hboth.1
    have hmem : place ∈ aliases := by simp [hplaces]
    obtain ⟨value, hvalue, hsome, hget⟩ := h.holds place hmem
    have hkept := hsame place.1 (h.elsewhere place hmem)
    rw [lookup_editInPlace (h.elsewhere place hmem), hvalue] at hkept
    have hput := get_putAll (v := value) (x := x) (h.apart _) (mem_placesIn hmem)
      (by rw [hget]; exact hsome)
    rw [Option.some.inj hkept, hget] at hput
    exact hboth.2 hput
  · rintro (rfl | hkey) other hother
    · rw [editInPlace_nil, lookup_setOwn, if_neg hother]
    · rw [editInPlace_same h hkeys hproper hkey]

end Documents

end Js
