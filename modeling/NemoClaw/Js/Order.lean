import Mathlib.Data.List.Lex
import Mathlib.Data.List.Sort
import Mathlib.Data.String.Basic
import Mathlib.Tactic

/- The order of strings by their UTF-16 code units, and sorting by it.

What is provided:
  1. `codeUnits`, `codeUnits_injective` — two strings with the same code units are one.
  2. `compareLe` — `<` and `===` on strings; `sortStrings` — `sort` with the comparison
     that gives -1, 1 and 0 for less, greater and equal.
  3. `sortStrings_perm` — the order in which the strings are given does not matter.
-/
namespace Js

open List

/-- The UTF-16 code units of a character. -/
def unitsOfChar (c : Char) : List ℕ :=
  if c.toNat < 0x10000 then [c.toNat]
  else [0xD800 + (c.toNat - 0x10000) / 0x400, 0xDC00 + (c.toNat - 0x10000) % 0x400]

def codeUnits (s : String) : List ℕ := s.toList.flatMap unitsOfChar

/-- A character is no surrogate, so its first code unit says how many there are. -/
lemma not_surrogate (c : Char) : c.toNat < 0xD800 ∨ 0xE000 ≤ c.toNat := by
  have hvalid := c.valid
  unfold Char.toNat; omega

lemma toNat_lt (c : Char) : c.toNat < 0x110000 := by
  have hvalid := c.valid
  unfold Char.toNat; omega

lemma unitsOfChar_append {c d : Char} {xs ys : List ℕ}
    (h : unitsOfChar c ++ xs = unitsOfChar d ++ ys) : c = d ∧ xs = ys := by
  have hc := not_surrogate c
  have hd := not_surrogate d
  have hc' := toNat_lt c
  have hd' := toNat_lt d
  have heq : c.toNat = d.toNat → c = d := fun h => Char.toNat_inj.mp h
  unfold unitsOfChar at h
  split at h <;> split at h <;>
    simp only [cons_append, nil_append, List.cons.injEq] at h
  · exact ⟨heq h.1, h.2⟩
  · omega
  · omega
  · exact ⟨heq (by omega), h.2.2⟩

theorem codeUnits_injective {s t : String} (h : codeUnits s = codeUnits t) : s = t := by
  have hlists : ∀ cs ds : List Char,
      cs.flatMap unitsOfChar = ds.flatMap unitsOfChar → cs = ds := by
    intro cs
    induction cs with
    | nil =>
      intro ds hds
      cases ds with
      | nil => rfl
      | cons d ds =>
      rw [flatMap_cons, flatMap_nil] at hds
      have hne : unitsOfChar d ≠ [] := by
        unfold unitsOfChar
        split <;> simp
      exact absurd (append_eq_nil_iff.mp hds.symm).1 hne
    | cons c cs ih =>
      intro ds hds
      cases ds with
      | nil =>
        rw [flatMap_cons, flatMap_nil] at hds
        have hne : unitsOfChar c ≠ [] := by
          unfold unitsOfChar
          split <;> simp
        exact absurd (append_eq_nil_iff.mp hds).1 hne
      | cons d ds =>
        rw [flatMap_cons, flatMap_cons] at hds
        obtain ⟨rfl, hrest⟩ := unitsOfChar_append hds
        rw [ih ds hrest]
  exact String.toList_injective (hlists _ _ h)

/-- `!(t < s)`. -/
def compareLe (s t : String) : Prop := codeUnits s ≤ codeUnits t

instance : DecidableRel compareLe := fun s t =>
  inferInstanceAs (Decidable (codeUnits s ≤ codeUnits t))

instance : Std.Total compareLe := ⟨fun s t => le_total (codeUnits s) (codeUnits t)⟩

instance : IsTrans String compareLe := ⟨fun _ _ _ h h' => le_trans h h'⟩

instance {α : Type} : Std.Total fun a b : String × α => compareLe a.1 b.1 :=
  ⟨fun a b => Std.Total.total a.1 b.1⟩

instance {α : Type} : IsTrans (String × α) fun a b => compareLe a.1 b.1 :=
  ⟨fun _ _ _ h h' => le_trans h h'⟩

instance : Std.Antisymm compareLe := ⟨fun _ _ h h' => codeUnits_injective (le_antisymm h h')⟩

/-- `[...strings].sort(compareStrings)`. -/
def sortStrings (strings : List String) : List String := strings.insertionSort compareLe

lemma perm_sortStrings (strings : List String) : (sortStrings strings).Perm strings :=
  perm_insertionSort _ _

lemma mem_sortStrings {s : String} {strings : List String} :
    s ∈ sortStrings strings ↔ s ∈ strings := (perm_sortStrings strings).mem_iff

lemma pairwise_sortStrings (strings : List String) :
    (sortStrings strings).Pairwise compareLe := pairwise_insertionSort _ _

theorem sortStrings_perm {strings strings' : List String} (h : strings.Perm strings') :
    sortStrings strings = sortStrings strings' := by
  refine Perm.eq_of_pairwise ?_ (pairwise_sortStrings _) (pairwise_sortStrings _)
    (((perm_sortStrings strings).trans h).trans (perm_sortStrings strings').symm)
  intro s t _ _ hst hts; exact codeUnits_injective (le_antisymm hst hts)

lemma sortStrings_of_pairwise {strings : List String} (h : strings.Pairwise compareLe) :
    sortStrings strings = strings := h.insertionSort_eq

end Js
