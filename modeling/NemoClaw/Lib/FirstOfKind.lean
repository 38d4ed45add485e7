import Mathlib.Tactic

/- Lists of which only the first element of every kind is kept.

An element may have a kind; one without is always kept. Where a list is made of rows, what
is kept of a row are the elements whose kind is in no row before it.

What is provided:
  1. `firsts`, and what is kept of two lists after each other.
  2. `newRows` — the same row by row; `firsts_flatten`.
  3. `StandsIn` — a place of the joined rows belongs to a row.
-/
namespace FirstOfKind

open List

variable {α κ : Type} [DecidableEq κ] (kind : α → Option κ)

def firsts (seen : List κ) : List α → List α
  | [] => []
  | x :: xs =>
    match kind x with
    | none => x :: firsts seen xs
    | some k => if k ∈ seen then firsts seen xs else x :: firsts (k :: seen) xs

def isNew (seen : List κ) (x : α) : Bool := (kind x).all (· ∉ seen)

def newRows (seen : List κ) : List (List α) → List (List α)
  | [] => []
  | row :: rows => row.filter (isNew kind seen) :: newRows (seen ++ row.filterMap kind) rows

/-- The element in that place of the joined rows is of row `k`. -/
def StandsIn (rows : List (List α)) (i k : ℕ) : Prop :=
  (rows.take k).flatten.length ≤ i ∧ i < (rows.take (k + 1)).flatten.length

variable {kind} {seen seen' : List κ} {xs ys : List α} {rows : List (List α)}

lemma firsts_cons_none {x : α} (h : kind x = none) :
    firsts kind seen (x :: xs) = x :: firsts kind seen xs := by
  rw [firsts, h]

lemma firsts_cons_seen {x : α} {k : κ} (h : kind x = some k) (hseen : k ∈ seen) :
    firsts kind seen (x :: xs) = firsts kind seen xs := by
  simp only [firsts, h, if_pos hseen]

lemma firsts_cons_new {x : α} {k : κ} (h : kind x = some k) (hseen : k ∉ seen) :
    firsts kind seen (x :: xs) = x :: firsts kind (k :: seen) xs := by
  simp only [firsts, h, if_neg hseen]

lemma firsts_congr (h : ∀ k, k ∈ seen ↔ k ∈ seen') : firsts kind seen xs = firsts kind seen' xs := by
  induction xs generalizing seen seen' with
  | nil => rfl
  | cons x xs ih =>
    cases hkind : kind x with
    | none => rw [firsts_cons_none hkind, firsts_cons_none hkind, ih h]
    | some k =>
    by_cases hseen : k ∈ seen
    · rw [firsts_cons_seen hkind hseen, firsts_cons_seen hkind ((h k).mp hseen), ih h]
    have hcons : ∀ k', k' ∈ k :: seen ↔ k' ∈ k :: seen' := by
      intro k'
      rw [mem_cons, mem_cons, h k']
    rw [firsts_cons_new hkind hseen, firsts_cons_new hkind fun h' => hseen ((h k).mpr h'),
      ih hcons]

lemma firsts_append :
    firsts kind seen (xs ++ ys) =
      firsts kind seen xs ++ firsts kind (seen ++ xs.filterMap kind) ys := by
  induction xs generalizing seen with
  | nil => simp [firsts]
  | cons x xs ih =>
    rw [cons_append]
    cases hkind : kind x with
    | none =>
      rw [firsts_cons_none hkind, firsts_cons_none hkind, ih, filterMap_cons_none hkind,
        cons_append]
    | some k =>
      rw [filterMap_cons_some hkind]
      by_cases hseen : k ∈ seen
      · rw [firsts_cons_seen hkind hseen, firsts_cons_seen hkind hseen, ih]
        refine congrArg _ (firsts_congr fun k' => ?_)
        simp only [mem_append, mem_cons]
        constructor
        · rintro (h | h)
          · exact .inl h
          · exact .inr (.inr h)
        · rintro (h | rfl | h)
          · exact .inl h
          · exact .inl hseen
          · exact .inr h
      · rw [firsts_cons_new hkind hseen, firsts_cons_new hkind hseen, ih, cons_append]
        refine congrArg _ (congrArg _ (firsts_congr fun k' => ?_))
        simp only [mem_append, mem_cons]
        tauto

lemma firsts_of_nodup (h : (xs.filterMap kind).Nodup) :
    firsts kind seen xs = xs.filter (isNew kind seen) := by
  induction xs generalizing seen with
  | nil => rfl
  | cons x xs ih =>
    cases hkind : kind x with
    | none =>
      rw [filterMap_cons_none hkind] at h
      rw [firsts_cons_none hkind, filter_cons_of_pos (by simp [isNew, hkind]), ih h]
    | some k =>
      rw [filterMap_cons_some hkind, nodup_cons] at h
      by_cases hseen : k ∈ seen
      · rw [firsts_cons_seen hkind hseen,
          filter_cons_of_neg (by simp [isNew, hkind, hseen]), ih h.2]
      rw [firsts_cons_new hkind hseen,
        filter_cons_of_pos (by simp [isNew, hkind, hseen]), ih h.2]
      refine congrArg _ (filter_congr fun y hy => ?_)
      unfold isNew
      cases hy' : kind y with
      | none => rfl
      | some k' =>
      have hne : k' ≠ k := by
        rintro rfl; exact h.1 (mem_filterMap.mpr ⟨y, hy, hy'⟩)
      simp [hne]

theorem firsts_flatten (h : ∀ row ∈ rows, (row.filterMap kind).Nodup) :
    firsts kind seen rows.flatten = (newRows kind seen rows).flatten := by
  induction rows generalizing seen with
  | nil => rfl
  | cons row rows ih =>
    obtain ⟨hrow, hrows⟩ := forall_mem_cons.mp h
    rw [flatten_cons, firsts_append, firsts_of_nodup hrow, ih hrows]; rfl

lemma getElem?_newRows (i : ℕ) : (newRows kind seen rows)[i]? = rows[i]?.map
    (List.filter (isNew kind (seen ++ (rows.take i).flatten.filterMap kind))) := by
  induction rows generalizing seen i with
  | nil => rfl
  | cons row rows ih =>
    cases i with
    | zero => simp [newRows]
    | succ i => simp [newRows, ih, append_assoc]

lemma length_flatten_take (k : ℕ) :
    (rows.take k).flatten.length = ∑ j ∈ Finset.range k, (rows.getD j []).length := by
  induction k with
  | zero => rfl
  | succ k ih =>
    have hrow : rows[k]?.toList.flatten = rows.getD k [] := by
      rw [getD_eq_getElem?_getD]
      cases rows[k]? with
      | none => rfl
      | some row => exact flatten_singleton
    rw [Finset.sum_range_succ, ← ih, take_add_one, flatten_append, length_append, hrow]

lemma standsIn_iff {i k : ℕ} : StandsIn rows i k ↔
    ∑ j ∈ Finset.range k, (rows.getD j []).length ≤ i ∧
      i < ∑ j ∈ Finset.range (k + 1), (rows.getD j []).length := by
  rw [StandsIn, length_flatten_take, length_flatten_take]

end FirstOfKind
