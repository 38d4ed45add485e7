import NemoClaw.Js.Stringify
import NemoClaw.Js.Value

/- A canonical JSON text, and when two values have the same one.

The properties of an object are written in the order of their names, those that are
undefined left out. How a number is written is the parameter `numberText`, of which only
what `NumberText` says is used.

What is proved:
  1. `sameText` — values that differ by the order of properties and by
     undefined ones have one text.
  2. `readsBack` — what stands behind a text shows where the text ends, so that a value is
     read back from it.
  3. `canonicalJson_eq_iff` — one text, one value, up to order and undefined properties.
-/
namespace Js

open Value List

def Value.isUndefined : Value → Bool
  | other => true
  | _ => false

section Text

variable (numberText : ℚ → String)

mutual

def canonicalJson : Value → String
  | .null => "null"
  | .bool b => boolText b
  | .num q => numberText q
  | .str s => quote s
  | .other => "null"
  | .arr xs => "[" ++ ",".intercalate (canonicalJsons xs) ++ "]"
  | .obj fields => objectText ((canonicalFields fields).insertionSort fun a b => compareLe a.1 b.1)

def canonicalJsons : List Value → List String
  | [] => []
  | x :: xs => canonicalJson x :: canonicalJsons xs

/-- The properties that are not undefined, with their texts. -/
def canonicalFields : List (String × Value) → List (String × String)
  | [] => []
  | (k, x) :: rest =>
    if x.isUndefined then canonicalFields rest else (k, canonicalJson x) :: canonicalFields rest

end

end Text

/-- How numbers are written: no two alike, and with the characters of a number. -/
def isNumberChar (c : Char) : Bool := c.isDigit || c = '-' || c = '+' || c = '.' || c = 'e'

structure NumberText (numberText : ℚ → String) : Prop where
  injective : Function.Injective numberText
  chars : ∀ q, ∀ c ∈ (numberText q).toList, isNumberChar c
  nonempty : ∀ q, (numberText q).toList ≠ []

/-- Values as records hold them: properties with distinct names, and nothing undefined in an
array. -/
inductive Value.Plain : Value → Prop where
  | null : Plain null
  | bool (b : Bool) : Plain (bool b)
  | num (q : ℚ) : Plain (num q)
  | str (s : String) : Plain (str s)
  | other : Plain other
  | arr (xs : List Value) (h : ∀ x ∈ xs, Plain x)
    (hdefined : ∀ x ∈ xs, x.isUndefined = false) : Plain (arr xs)
  | obj (fields : List (String × Value)) (hkeys : (fields.map (·.1)).Nodup)
    (h : ∀ kv ∈ fields, Plain kv.2) : Plain (obj fields)

inductive Value.Same : Value → Value → Prop where
  | null : Same null null
  | bool (b : Bool) : Same (bool b) (bool b)
  | num (q : ℚ) : Same (num q) (num q)
  | str (s : String) : Same (str s) (str s)
  | other : Same other other
  | arr (xs ys : List Value) (h : Forall₂ Same xs ys) : Same (arr xs) (arr ys)
  | obj (fields fields' : List (String × Value))
    (h : ∀ k, Same ((fields.lookup k).getD other) ((fields'.lookup k).getD other)) :
    Same (obj fields) (obj fields')

lemma Value.Same.isUndefined {v w : Value} (h : Same v w) : v.isUndefined = w.isUndefined := by
  cases h <;> rfl

lemma Value.eq_other {v : Value} (h : v.isUndefined) : v = other := by
  cases v <;> first | rfl | cases h

section Fields

variable {numberText : ℚ → String}

lemma canonicalJsons_eq (xs : List Value) :
    canonicalJsons numberText xs = xs.map (canonicalJson numberText) := by
  induction xs with
  | nil => rfl
  | cons x xs ih => rw [canonicalJsons, ih, map_cons]

lemma canonicalFields_eq (fields : List (String × Value)) :
    canonicalFields numberText fields = (fields.filter fun kv => !kv.2.isUndefined).map
      fun kv => (kv.1, canonicalJson numberText kv.2) := by
  induction fields with
  | nil => rfl
  | cons kv rest ih =>
    obtain ⟨k, x⟩ := kv
    rw [canonicalFields, ih, filter_cons]; cases x.isUndefined <;> rfl

/-- The defined properties in the order of their names. -/
def sortedDefined (fields : List (String × Value)) : List (String × Value) :=
  (fields.filter fun kv => !kv.2.isUndefined).insertionSort fun a b => compareLe a.1 b.1

lemma mem_sortedDefined {fields : List (String × Value)} {kv : String × Value} :
    kv ∈ sortedDefined fields ↔ kv ∈ fields ∧ kv.2.isUndefined = false := by
  unfold sortedDefined
  rw [mem_insertionSort, mem_filter, Bool.not_eq_true']

lemma sortedDefined_nodup {fields : List (String × Value)} (hkeys : (fields.map (·.1)).Nodup) :
    ((sortedDefined fields).map (·.1)).Nodup := by
  have hperm : ((sortedDefined fields).map (·.1)).Perm
      ((fields.filter fun kv => !kv.2.isUndefined).map (·.1)) :=
    (perm_insertionSort _ _).map _
  exact hperm.nodup_iff.mpr (hkeys.sublist (filter_sublist.map _))

lemma canonicalJson_obj (fields : List (String × Value)) :
    canonicalJson numberText (.obj fields) = objectText ((sortedDefined fields).map
      fun kv => (kv.1, canonicalJson numberText kv.2)) := by
  have hmap : ∀ rest : List (String × Value),
      (rest.insertionSort fun a b => compareLe a.1 b.1).map
        (fun kv => (kv.1, canonicalJson numberText kv.2)) =
      (rest.map fun kv => (kv.1, canonicalJson numberText kv.2)).insertionSort
        fun a b => compareLe a.1 b.1 := fun rest =>
    map_insertionSort _ _ _ rest fun a _ b _ => Iff.rfl
  rw [canonicalJson, canonicalFields_eq]
  unfold sortedDefined
  rw [hmap]

lemma lookup_sortedDefined {fields : List (String × Value)} (hkeys : (fields.map (·.1)).Nodup)
    (k : String) : ((sortedDefined fields).lookup k).getD .other = (fields.lookup k).getD .other := by
  cases hlookup : (sortedDefined fields).lookup k with
  | some x =>
    have hmem := mem_sortedDefined.mp (mem_of_lookup hlookup)
    rw [lookup_of_mem hkeys hmem.1]
  | none =>
    cases hfield : fields.lookup k with
    | none => rfl
    | some x =>
    cases hx : x.isUndefined with
    | true => exact (Value.eq_other hx).symm
    | false =>
      have hmem := mem_sortedDefined.mpr ⟨mem_of_lookup hfield, hx⟩
      rw [lookup_of_mem (sortedDefined_nodup hkeys) hmem] at hlookup; cases hlookup

end Fields

section SameText

variable {numberText : ℚ → String}

lemma insertionSort_eq_of_mem {fields fields' : List (String × String)}
    (hkeys : (fields.map (·.1)).Nodup) (hkeys' : (fields'.map (·.1)).Nodup)
    (h : ∀ kv, kv ∈ fields ↔ kv ∈ fields') :
    fields.insertionSort (fun a b => compareLe a.1 b.1) =
      fields'.insertionSort fun a b => compareLe a.1 b.1 := by
  have hperm : fields.Perm fields' := (perm_ext_iff_of_nodup (Nodup.of_map _ hkeys)
    (Nodup.of_map _ hkeys')).mpr h
  refine Perm.eq_of_pairwise ?_ (pairwise_insertionSort _ _)
    (pairwise_insertionSort _ _)
    (((perm_insertionSort _ _).trans hperm).trans (perm_insertionSort _ _).symm)
  intro a b ha hb hab hba
  have hname : a.1 = b.1 := codeUnits_injective (le_antisymm hab hba)
  exact inj_on_of_nodup_map hkeys ((mem_insertionSort _).mp ha)
    ((h b).mpr ((mem_insertionSort _).mp hb)) hname

lemma mem_canonicalFields {fields : List (String × Value)} {k text : String} :
    (k, text) ∈ canonicalFields numberText fields ↔
      ∃ x, (k, x) ∈ fields ∧ x.isUndefined = false ∧ text = canonicalJson numberText x := by
  rw [canonicalFields_eq, mem_map]
  constructor
  · intro ⟨kv, hkv, heq⟩
    obtain ⟨hin, hdefined⟩ := mem_filter.mp hkv
    obtain ⟨rfl, rfl⟩ := Prod.mk.inj heq
    exact ⟨kv.2, hin, by simpa using hdefined, rfl⟩
  · intro ⟨x, hin, hdefined, htext⟩
    exact ⟨(k, x), mem_filter.mpr ⟨hin, by simpa using hdefined⟩, by rw [htext]⟩

lemma canonicalFields_nodup {fields : List (String × Value)}
    (hkeys : (fields.map (·.1)).Nodup) :
    ((canonicalFields numberText fields).map (·.1)).Nodup := by
  rw [canonicalFields_eq, map_map]; exact hkeys.sublist (filter_sublist.map _)

def SameText (numberText : ℚ → String) (v : Value) : Prop :=
  ∀ w, v.Plain → w.Plain → v.Same w → canonicalJson numberText v = canonicalJson numberText w

lemma map_sameText {xs ys : List Value} (hall : Forall₂ Value.Same xs ys)
    (h : ∀ x ∈ xs, SameText numberText x) (hplain : ∀ x ∈ xs, x.Plain)
    (hplain' : ∀ y ∈ ys, y.Plain) :
    xs.map (canonicalJson numberText) = ys.map (canonicalJson numberText) := by
  induction hall with
  | nil => rfl
  | @cons x y xs ys hxy hrest ih =>
    rw [map_cons, map_cons, h x mem_cons_self y (hplain x mem_cons_self)
      (hplain' y mem_cons_self) hxy]
    rw [ih (fun x' hx' => h x' (mem_cons_of_mem x hx'))
      (fun x' hx' => hplain x' (mem_cons_of_mem x hx'))
      fun y' hy' => hplain' y' (mem_cons_of_mem y hy')]

lemma sameText_arr {xs : List Value} (h : ∀ x ∈ xs, SameText numberText x) :
    SameText numberText (.arr xs) := by
  intro w hv hw hsame
  cases hsame with
  | arr _ ys hall =>
    cases hv with
    | arr _ hplain _ =>
      cases hw with
      | arr _ hplain' _ =>
        rw [canonicalJson, canonicalJson, canonicalJsons_eq, canonicalJsons_eq,
          map_sameText hall h hplain hplain']

lemma sameText_obj {fields : List (String × Value)}
    (h : ∀ kv ∈ fields, SameText numberText kv.2) : SameText numberText (.obj fields) := by
  intro w hv hw hsame
  cases hsame with
  | obj _ fields' hall =>
    cases hv with
    | obj _ hkeys hplain =>
      cases hw with
      | obj _ hkeys' hplain' =>
        have hmem : ∀ kv, kv ∈ canonicalFields numberText fields ↔
            kv ∈ canonicalFields numberText fields' := by
          intro kv
          obtain ⟨k, text⟩ := kv
          rw [mem_canonicalFields, mem_canonicalFields]
          constructor
          · intro ⟨x, hx, hdefined, htext⟩
            have hk := hall k
            rw [lookup_of_mem hkeys hx, Option.getD_some] at hk
            cases hlookup : fields'.lookup k with
            | none =>
              rw [hlookup, Option.getD_none] at hk
              rw [hk.isUndefined] at hdefined; cases hdefined
            | some y =>
              rw [hlookup, Option.getD_some] at hk
              have hy := mem_of_lookup hlookup
              refine ⟨y, hy, by rw [← hk.isUndefined, hdefined], ?_⟩
              rw [htext, h (k, x) hx y (hplain _ hx) (hplain' _ hy) hk]
          · intro ⟨y, hy, hdefined, htext⟩
            have hk := hall k
            rw [lookup_of_mem hkeys' hy, Option.getD_some] at hk
            cases hlookup : fields.lookup k with
            | none =>
              rw [hlookup, Option.getD_none] at hk
              rw [← hk.isUndefined] at hdefined; cases hdefined
            | some x =>
              rw [hlookup, Option.getD_some] at hk
              have hx := mem_of_lookup hlookup
              refine ⟨x, hx, by rw [hk.isUndefined, hdefined], ?_⟩
              rw [htext, h (k, x) hx y (hplain _ hx) (hplain' _ hy) hk]
        rw [canonicalJson, canonicalJson, insertionSort_eq_of_mem (canonicalFields_nodup hkeys)
          (canonicalFields_nodup hkeys') hmem]

mutual

theorem sameText : ∀ v : Value, SameText numberText v
  | .null => fun _ _ _ hsame => by cases hsame; rfl
  | .bool _ => fun _ _ _ hsame => by cases hsame; rfl
  | .num _ => fun _ _ _ hsame => by cases hsame; rfl
  | .str _ => fun _ _ _ hsame => by cases hsame; rfl
  | .other => fun _ _ _ hsame => by cases hsame; rfl
  | .arr xs => sameText_arr (sameText_all xs)
  | .obj fields => sameText_obj (sameText_fields fields)

lemma sameText_all : ∀ xs : List Value, ∀ x ∈ xs, SameText numberText x
  | [] => nofun
  | x :: xs => fun y hy => by
    rcases mem_cons.mp hy with heq | hrest
    · rw [heq]
      exact sameText x
    · exact sameText_all xs y hrest

lemma sameText_fields : ∀ fields : List (String × Value),
    ∀ kv ∈ fields, SameText numberText kv.2
  | [] => nofun
  | (k, x) :: rest => fun kv hkv => by
    rcases mem_cons.mp hkv with heq | hrest
    · rw [heq]
      exact sameText x
    · exact sameText_fields rest kv hrest

end

end SameText

/-! ## Where a string literal ends -/

/-- What may stand behind a value: the end, or a character that closes or separates. -/
def Delimited (rest : List Char) : Prop :=
  ∀ c, rest.head? = some c → c = ',' ∨ c = ']' ∨ c = '}'

lemma delimited_nil : Delimited [] := nofun

lemma delimited_cons {c : Char} (h : c = ',' ∨ c = ']' ∨ c = '}') (rest : List Char) :
    Delimited (c :: rest) := by
  intro d hd
  rw [← Option.some.inj hd]; exact h

def hexValue (c : Char) : ℕ := if c.toNat < 58 then c.toNat - 48 else c.toNat - 87

/-- The character an escape stands for, behind the backslash. -/
def unescapeTail : List Char → Option (Char × List Char)
  | 'u' :: _ :: _ :: h :: l :: rest => some (Char.ofNat (16 * hexValue h + hexValue l), rest)
  | 'b' :: rest => some (Char.ofNat 8, rest)
  | 't' :: rest => some (Char.ofNat 9, rest)
  | 'n' :: rest => some (Char.ofNat 10, rest)
  | 'f' :: rest => some (Char.ofNat 12, rest)
  | 'r' :: rest => some (Char.ofNat 13, rest)
  | c :: rest => some (c, rest)
  | [] => none

/-- The first character that a text of a string literal stands for. -/
def unescape : List Char → Option (Char × List Char)
  | [] => none
  | c :: rest => if c = '\\' then unescapeTail rest else some (c, rest)

lemma unescape_escapeChar (c : Char) (rest : List Char) :
    unescape (escapeChar c ++ rest) = some (c, rest) := by
  unfold escapeChar
  split
  · next h =>
    subst h; rfl
  · split
    · next h =>
      subst h; rfl
    · next hbackslash =>
      have hchar : c = Char.ofNat c.toNat := (Char.ofNat_toNat c).symm
      by_cases hcontrol : c.toNat < 32
      · -- A control character is one of thirty-two.
        generalize c.toNat = n at hchar hcontrol
        subst hchar
        interval_cases n <;> rfl
      · rw [if_neg (by omega), if_neg (by omega), if_neg (by omega), if_neg (by omega),
          if_neg (by omega), if_neg hcontrol]
        show unescape (c :: rest) = some (c, rest)
        rw [unescape, if_neg hbackslash]

/-- No character is written with a quotation mark in front. -/
lemma escapeChar_head (c : Char) : ∃ d ds, escapeChar c = d :: ds ∧ d ≠ '"' := by
  unfold escapeChar
  split
  · exact ⟨_, _, rfl, by decide⟩
  next hquote =>
  split
  · exact ⟨_, _, rfl, by decide⟩
  · split_ifs
    all_goals first | exact ⟨_, _, rfl, hquote⟩ | exact ⟨_, _, rfl, by decide⟩

variable {rest : List Char}

lemma escaped_append {cs ds : List Char} {rest' : List Char}
    (h : cs.flatMap escapeChar ++ '"' :: rest = ds.flatMap escapeChar ++ '"' :: rest') :
    cs = ds ∧ rest = rest' := by
  induction cs generalizing ds with
  | nil =>
    cases ds with
    | nil => exact ⟨rfl, (cons.inj h).2⟩
    | cons d ds =>
      obtain ⟨e, es, he, hne⟩ := escapeChar_head d
      rw [flatMap_nil, nil_append, flatMap_cons, he] at h
      exact absurd (cons.inj h).1.symm hne
  | cons c cs ih =>
    cases ds with
    | nil =>
      obtain ⟨e, es, he, hne⟩ := escapeChar_head c
      rw [flatMap_nil, nil_append, flatMap_cons, he] at h
      exact absurd (cons.inj h).1 hne
    | cons d ds =>
      rw [flatMap_cons, flatMap_cons, append_assoc, append_assoc] at h
      have hread := congrArg unescape h
      rw [unescape_escapeChar, unescape_escapeChar] at hread
      obtain ⟨rfl, hrest⟩ := Prod.mk.inj (Option.some.inj hread)
      obtain ⟨heq, hrest⟩ := ih hrest; exact ⟨by rw [heq], hrest⟩

lemma toList_quote (s : String) :
    (quote s).toList = '"' :: (s.toList.flatMap escapeChar ++ ['"']) := by
  unfold quote
  rw [String.toList_append, String.toList_append]
  show ['"'] ++ (String.ofList (s.toList.flatMap escapeChar)).toList ++ ['"'] = _
  rw [String.toList_ofList]; rfl

lemma quote_append {s t : String} {rest' : List Char}
    (h : (quote s).toList ++ rest = (quote t).toList ++ rest') : s = t ∧ rest = rest' := by
  rw [toList_quote, toList_quote, cons_append, cons_append, append_assoc,
    append_assoc] at h
  obtain ⟨hchars, hrest⟩ := escaped_append (cons.inj h).2
  exact ⟨String.toList_injective hchars, hrest⟩

lemma takeWhile_delimited (h : Delimited rest) : rest.takeWhile isNumberChar = [] := by
  cases rest with
  | nil => rfl
  | cons c rest =>
    rw [takeWhile_cons_of_neg]
    rcases h c rfl with rfl | rfl | rfl <;> decide

lemma numberText_append {numberText : ℚ → String} (hnumber : NumberText numberText) {q q' : ℚ}
    {rest' : List Char} (hrest : Delimited rest) (hrest' : Delimited rest')
    (h : (numberText q).toList ++ rest = (numberText q').toList ++ rest') :
    q = q' ∧ rest = rest' := by
  have hread := congrArg (List.takeWhile isNumberChar) h
  rw [takeWhile_append_of_pos (hnumber.chars q), takeWhile_append_of_pos
    (hnumber.chars q'), takeWhile_delimited hrest, takeWhile_delimited hrest', append_nil,
    append_nil] at hread
  refine ⟨hnumber.injective (String.toList_injective hread), ?_⟩
  rw [hread] at h; exact append_cancel_left h

section Lists

variable {α : Type} {text : α → List Char} {R : α → α → Prop} {close : Char}

def behindCommas (text : α → List Char) (xs : List α) : List Char :=
  xs.flatMap fun x => ',' :: text x

def joined (text : α → List Char) : List α → List Char
  | [] => []
  | x :: xs => text x ++ behindCommas text xs

def ReadBy (text : α → List Char) (R : α → α → Prop) (x y : α) : Prop :=
  ∀ rest rest', Delimited rest → Delimited rest' → text x ++ rest = text y ++ rest' →
    R x y ∧ rest = rest'

lemma delimited_behindCommas (hclose : close = ']' ∨ close = '}') (xs : List α)
    (rest : List Char) : Delimited (behindCommas text xs ++ close :: rest) := by
  cases xs with
  | nil => exact delimited_cons (.inr hclose) rest
  | cons x xs => exact delimited_cons (.inl rfl) _

lemma behindCommas_append (hclose : close = ']' ∨ close = '}') {xs ys : List α}
    (h : ∀ x ∈ xs, ∀ y ∈ ys, ReadBy text R x y) {rest rest' : List Char}
    (heq : behindCommas text xs ++ close :: rest = behindCommas text ys ++ close :: rest') :
    Forall₂ R xs ys ∧ rest = rest' := by
  have hcomma : close ≠ ',' := by
    rcases hclose with rfl | rfl <;> decide
  induction xs generalizing ys with
  | nil =>
    cases ys with
    | nil => exact ⟨.nil, (cons.inj heq).2⟩
    | cons y ys => exact absurd (cons.inj heq).1 hcomma
  | cons x xs ih =>
    cases ys with
    | nil => exact absurd (cons.inj heq).1.symm hcomma
    | cons y ys =>
    have heq : text x ++ (behindCommas text xs ++ close :: rest) =
        text y ++ (behindCommas text ys ++ close :: rest') := by
      rw [← append_assoc, ← append_assoc]; exact (cons.inj heq).2
    obtain ⟨hxy, heq⟩ := h x mem_cons_self y mem_cons_self _ _
      (delimited_behindCommas hclose xs rest) (delimited_behindCommas hclose ys rest') heq
    obtain ⟨hall, hrest⟩ := ih (fun x' hx' y' hy' => h x' (mem_cons_of_mem x hx') y'
      (mem_cons_of_mem y hy')) heq
    exact ⟨.cons hxy hall, hrest⟩

lemma joined_append (hclose : close = ']' ∨ close = '}') {xs ys : List α}
    (h : ∀ x ∈ xs, ∀ y ∈ ys, ReadBy text R x y)
    (hstart : ∀ x, x ∈ xs ∨ x ∈ ys → ∃ c cs, text x = c :: cs ∧ c ≠ close)
    {rest rest' : List Char}
    (heq : joined text xs ++ close :: rest = joined text ys ++ close :: rest') :
    Forall₂ R xs ys ∧ rest = rest' := by
  cases xs with
  | nil =>
    cases ys with
    | nil => exact ⟨.nil, (cons.inj heq).2⟩
    | cons y ys =>
      obtain ⟨c, cs, htext, hne⟩ := hstart y (.inr mem_cons_self)
      rw [joined, joined, htext] at heq; exact absurd (cons.inj heq).1.symm hne
  | cons x xs =>
    cases ys with
    | nil =>
      obtain ⟨c, cs, htext, hne⟩ := hstart x (.inl mem_cons_self)
      rw [joined, joined, htext] at heq; exact absurd (cons.inj heq).1 hne
    | cons y ys =>
      rw [joined, joined, append_assoc, append_assoc] at heq
      obtain ⟨hxy, heq⟩ := h x mem_cons_self y mem_cons_self _ _
        (delimited_behindCommas hclose xs rest) (delimited_behindCommas hclose ys rest') heq
      obtain ⟨hall, hrest⟩ := behindCommas_append hclose (fun x' hx' y' hy' =>
        h x' (mem_cons_of_mem x hx') y' (mem_cons_of_mem y hy')) heq
      exact ⟨.cons hxy hall, hrest⟩

lemma toList_intercalate (texts : List String) :
    (",".intercalate texts).toList = joined String.toList texts := by
  induction texts with
  | nil => rfl
  | cons text texts ih =>
    cases texts with
    | nil => simp [joined, behindCommas]
    | cons next rest =>
      rw [String.intercalate_cons_cons, String.toList_append, String.toList_append, ih]
      rw [append_assoc]; rfl

lemma joined_map {β : Type} (f : β → α) (xs : List β) :
    joined text (xs.map f) = joined (fun x => text (f x)) xs := by
  cases xs with
  | nil => rfl
  | cons x xs =>
    rw [map_cons, joined, joined]
    unfold behindCommas
    rw [flatMap_map]

end Lists

def Value.kind : Value → ℕ
  | null => 0
  | bool _ => 1
  | num _ => 2
  | str _ => 3
  | arr _ => 4
  | obj _ => 5
  | other => 0

def kindOfChar (c : Char) : ℕ :=
  if isNumberChar c then 2 else if c = 'n' then 0 else if c = 't' ∨ c = 'f' then 1
  else if c = '"' then 3 else if c = '[' then 4 else if c = '\x7b' then 5 else 6

section ReadBack

variable {numberText : ℚ → String}

lemma toList_arr (xs : List Value) : (canonicalJson numberText (.arr xs)).toList =
    '[' :: (joined (fun x => (canonicalJson numberText x).toList) xs ++ [']']) := by
  rw [canonicalJson, canonicalJsons_eq, String.toList_append, String.toList_append,
    toList_intercalate, joined_map]
  rfl

/-- A property as it is written. -/
def memberText (numberText : ℚ → String) (kv : String × Value) : List Char :=
  (quote kv.1).toList ++ ':' :: (canonicalJson numberText kv.2).toList

lemma toList_obj (fields : List (String × Value)) :
    (canonicalJson numberText (.obj fields)).toList =
      '\x7b' :: (joined (memberText numberText) (sortedDefined fields) ++ ['\x7d']) := by
  have hmember : ∀ kv : String × Value,
      (quote kv.1 ++ ":" ++ canonicalJson numberText kv.2).toList = memberText numberText kv := by
    intro kv
    rw [String.toList_append, String.toList_append, append_assoc]; rfl
  rw [canonicalJson_obj]
  unfold objectText
  rw [String.toList_append, String.toList_append, map_map, toList_intercalate, joined_map]
  simp only [Function.comp_apply, hmember]; rfl

lemma toList_null : (canonicalJson numberText .null).toList = ['n', 'u', 'l', 'l'] := by
  rw [canonicalJson]; rfl

lemma toList_true :
    (canonicalJson numberText (.bool true)).toList = ['t', 'r', 'u', 'e'] := by
  rw [canonicalJson]; rfl

lemma toList_false :
    (canonicalJson numberText (.bool false)).toList = ['f', 'a', 'l', 's', 'e'] := by
  rw [canonicalJson]; rfl

lemma toList_starts (hnumber : NumberText numberText) (v : Value) :
    ∃ c cs, (canonicalJson numberText v).toList = c :: cs ∧ kindOfChar c = v.kind := by
  cases v with
  | null => exact ⟨'n', _, toList_null, by decide⟩
  | bool b =>
    cases b with
    | true => exact ⟨'t', _, toList_true, by decide⟩
    | false => exact ⟨'f', _, toList_false, by decide⟩
  | num q =>
    cases htext : (numberText q).toList with
    | nil => exact absurd htext (hnumber.nonempty q)
    | cons c cs =>
    refine ⟨c, cs, by rw [canonicalJson, htext], ?_⟩
    have hc := hnumber.chars q c (by rw [htext]; exact mem_cons_self)
    unfold kindOfChar
    rw [if_pos hc]; rfl
  | str s =>
    refine ⟨'"', _, by rw [canonicalJson, toList_quote], ?_⟩
    show kindOfChar '"' = 3; decide
  | arr xs =>
    refine ⟨'[', _, toList_arr xs, ?_⟩
    show kindOfChar '[' = 4
    decide
  | obj fields =>
    refine ⟨'\x7b', _, toList_obj fields, ?_⟩
    show kindOfChar '\x7b' = 5; decide
  | other => exact ⟨'n', ['u', 'l', 'l'], by rw [canonicalJson]; rfl, by decide⟩

lemma kind_eq (hnumber : NumberText numberText) {v w : Value} {rest rest' : List Char}
    (h : (canonicalJson numberText v).toList ++ rest =
      (canonicalJson numberText w).toList ++ rest') : v.kind = w.kind := by
  obtain ⟨c, cs, hv, hc⟩ := toList_starts hnumber v
  obtain ⟨d, ds, hw, hd⟩ := toList_starts hnumber w
  rw [hv, hw] at h
  rw [← hc, ← hd, (cons.inj h).1]

lemma toList_open (hnumber : NumberText numberText) (v : Value) {close : Char}
    (hclose : close = ']' ∨ close = '\x7d') :
    ∃ c cs, (canonicalJson numberText v).toList = c :: cs ∧ c ≠ close := by
  obtain ⟨c, cs, htext, hkind⟩ := toList_starts hnumber v
  refine ⟨c, cs, htext, fun heq => ?_⟩
  have hsix : kindOfChar close = 6 := by
    rcases hclose with rfl | rfl <;> decide
  rw [← heq, hkind] at hsix
  cases v <;> cases hsix

def ReadsBack (numberText : ℚ → String) (v : Value) : Prop :=
  ∀ w, v.Plain → w.Plain → v.isUndefined = false → w.isUndefined = false →
    ReadBy (fun v => (canonicalJson numberText v).toList) Value.Same v w

lemma readsBack_arr (hnumber : NumberText numberText) {xs : List Value}
    (h : ∀ x ∈ xs, ReadsBack numberText x) : ReadsBack numberText (.arr xs) := by
  intro w hv hw _ hdefined rest rest' _ _ heq
  have hkind := kind_eq hnumber heq
  cases hw with
  | arr ys hplain' hdefined' =>
    cases hv with
    | arr _ hplain hdefined'' =>
      simp only [toList_arr] at heq
      rw [cons_append, cons_append, append_assoc, append_assoc] at heq
      obtain ⟨hall, hrest⟩ := joined_append (R := Value.Same) (.inl rfl)
        (fun x hx y hy => h x hx y (hplain x hx) (hplain' y hy) (hdefined'' x hx) (hdefined' y hy))
        (fun x _ => toList_open hnumber x (.inl rfl)) (cons.inj heq).2
      exact ⟨.arr xs ys hall, hrest⟩
  | other => cases hdefined
  | _ => cases hkind

/-- A property is read back with its name. -/
def SameMember (kv kv' : String × Value) : Prop := kv.1 = kv'.1 ∧ kv.2.Same kv'.2

lemma readBy_member {kv kv' : String × Value}
    (h : ReadBy (fun v => (canonicalJson numberText v).toList) Value.Same kv.2 kv'.2) :
    ReadBy (memberText numberText) SameMember kv kv' := by
  intro rest rest' hrest hrest' heq
  unfold memberText at heq
  rw [append_assoc, append_assoc] at heq
  obtain ⟨hname, heq⟩ := quote_append heq
  obtain ⟨hvalue, heq⟩ := h rest rest' hrest hrest' (cons.inj heq).2
  exact ⟨⟨hname, hvalue⟩, heq⟩

lemma lookup_sameMember {fields fields' : List (String × Value)}
    (h : Forall₂ SameMember fields fields') (k : String) :
    ((fields.lookup k).getD .other).Same ((fields'.lookup k).getD .other) := by
  induction h with
  | nil => exact .other
  | @cons kv kv' rest rest' hmember hrest ih =>
    obtain ⟨name, x⟩ := kv
    obtain ⟨name', y⟩ := kv'
    obtain ⟨hname, hvalue⟩ := hmember
    obtain rfl : name = name' := hname
    rw [lookup_cons_if, lookup_cons_if]
    split
    · exact hvalue
    · exact ih

section

variable (hnumber : NumberText numberText)
include hnumber

lemma readsBack_obj {fields : List (String × Value)}
    (h : ∀ kv ∈ fields, ReadsBack numberText kv.2) : ReadsBack numberText (.obj fields) := by
  intro w hv hw _ hdefined rest rest' _ _ heq
  have hkind := kind_eq hnumber heq
  cases hw with
  | obj fields' hkeys' hplain' =>
    cases hv with
    | obj _ hkeys hplain =>
      simp only [toList_obj] at heq
      rw [cons_append, cons_append, append_assoc, append_assoc] at heq
      have hread : ∀ kv ∈ sortedDefined fields, ∀ kv' ∈ sortedDefined fields',
          ReadBy (memberText numberText) SameMember kv kv' := by
        intro kv hkv kv' hkv'
        obtain ⟨hmem, hkvdefined⟩ := mem_sortedDefined.mp hkv
        obtain ⟨hmem', hkvdefined'⟩ := mem_sortedDefined.mp hkv'
        exact readBy_member (h kv hmem kv'.2 (hplain kv hmem) (hplain' kv' hmem') hkvdefined
          hkvdefined')
      have hstart : ∀ kv, kv ∈ sortedDefined fields ∨ kv ∈ sortedDefined fields' →
          ∃ c cs, memberText numberText kv = c :: cs ∧ c ≠ '\x7d' := by
        intro kv _
        unfold memberText
        rw [toList_quote]; exact ⟨'"', _, rfl, by decide⟩
      obtain ⟨hall, hrest⟩ := joined_append (.inr rfl) hread hstart (cons.inj heq).2
      refine ⟨.obj fields fields' fun k => ?_, hrest⟩
      rw [← lookup_sortedDefined hkeys, ← lookup_sortedDefined hkeys']
      exact lookup_sameMember hall k
  | other => cases hdefined
  | _ => cases hkind

lemma readsBack_atom {v : Value}
    (h : ∀ w, w.kind = v.kind → w.isUndefined = false →
      ReadBy (fun v => (canonicalJson numberText v).toList) Value.Same v w) :
    ReadsBack numberText v := by
  intro w _ _ _ hdefined rest rest' hrest hrest' heq
  exact h w (kind_eq hnumber heq).symm hdefined rest rest' hrest hrest' heq

lemma readsBack_null : ReadsBack numberText .null := by
  refine readsBack_atom hnumber fun w hkind hdefined rest rest' _ _ heq => ?_
  cases w with
  | null => exact ⟨.null, append_cancel_left heq⟩
  | other => cases hdefined
  | _ => cases hkind

lemma readsBack_bool (b : Bool) : ReadsBack numberText (.bool b) := by
  refine readsBack_atom hnumber fun w hkind _ rest rest' _ _ heq => ?_
  cases w with
  | bool b' =>
    cases b with
    | true =>
      cases b' with
      | true => exact ⟨.bool true, append_cancel_left heq⟩
      | false =>
        simp only [toList_true, toList_false] at heq
        exact absurd (cons.inj heq).1 (by decide)
    | false =>
      cases b' with
      | true =>
        simp only [toList_true, toList_false] at heq
        exact absurd (cons.inj heq).1 (by decide)
      | false => exact ⟨.bool false, append_cancel_left heq⟩
  | _ => cases hkind

lemma readsBack_num (q : ℚ) : ReadsBack numberText (.num q) := by
  refine readsBack_atom hnumber fun w hkind _ rest rest' hrest hrest' heq => ?_
  cases w with
  | num q' =>
    obtain ⟨rfl, hrest⟩ := numberText_append hnumber hrest hrest' heq
    exact ⟨.num q, hrest⟩
  | _ => cases hkind

lemma readsBack_str (s : String) : ReadsBack numberText (.str s) := by
  refine readsBack_atom hnumber fun w hkind _ rest rest' _ _ heq => ?_
  cases w with
  | str t => obtain ⟨rfl, hrest⟩ := quote_append heq; exact ⟨.str s, hrest⟩
  | _ => cases hkind

end

mutual

theorem readsBack (hnumber : NumberText numberText) : ∀ v : Value, ReadsBack numberText v
  | .null => readsBack_null hnumber
  | .bool b => readsBack_bool hnumber b
  | .num q => readsBack_num hnumber q
  | .str s => readsBack_str hnumber s
  | .other => fun _ _ _ hdefined _ => by cases hdefined
  | .arr xs => readsBack_arr hnumber (readsBack_all hnumber xs)
  | .obj fields => readsBack_obj hnumber (readsBack_fields hnumber fields)

lemma readsBack_all (hnumber : NumberText numberText) :
    ∀ xs : List Value, ∀ x ∈ xs, ReadsBack numberText x
  | [] => nofun
  | x :: xs => fun y hy => by
    rcases mem_cons.mp hy with heq | hrest
    · rw [heq]
      exact readsBack hnumber x
    · exact readsBack_all hnumber xs y hrest

lemma readsBack_fields (hnumber : NumberText numberText) :
    ∀ fields : List (String × Value), ∀ kv ∈ fields, ReadsBack numberText kv.2
  | [] => nofun
  | (k, x) :: rest => fun kv hkv => by
    rcases mem_cons.mp hkv with heq | hrest
    · rw [heq]
      exact readsBack hnumber x
    · exact readsBack_fields hnumber rest kv hrest

end

theorem canonicalJson_eq_iff (hnumber : NumberText numberText) {v w : Value} (hv : v.Plain)
    (hw : w.Plain) (hdefined : v.isUndefined = false) (hdefined' : w.isUndefined = false) :
    canonicalJson numberText v = canonicalJson numberText w ↔ v.Same w := by
  constructor
  · intro h
    refine (readsBack hnumber v w hv hw hdefined hdefined' [] [] delimited_nil delimited_nil
      ?_).1
    simp only [h]
  · exact sameText v w hv hw

end ReadBack

end Js
