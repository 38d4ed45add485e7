import Mathlib.Data.List.Sort
import Mathlib.Data.List.Basic
import Mathlib.Tactic

/- The elements of highest priority of a list.

The list is sorted so that higher priorities come first, and those are kept that have the
priority of the first.

What is provided:
  1. `leaders`, `mem_leaders` — what is kept has the highest priority of all.
  2. `leaders_perm` — the order of the list does not matter.
  3. `leaders_eq_singleton` — one element is alone at the top if all others are below it.
-/
namespace Priority

open List

variable {α P : Type} [LinearOrder P] (priority : α → P) (before : α → α → Prop)
  [DecidableRel before]

/-- The sorted elements that have the priority of the first. -/
def leaders (l : List α) : List α :=
  match l.insertionSort before with
  | [] => []
  | first :: rest => (first :: rest).filter fun a => priority a = priority first

def IsTop (l : List α) (a : α) : Prop := ∀ b ∈ l, priority b ≤ priority a

instance (l : List α) (a : α) : Decidable (IsTop priority l a) :=
  inferInstanceAs (Decidable (∀ b ∈ l, priority b ≤ priority a))

variable {priority before}

variable [Std.Total before] [IsTrans α before]
  (hbefore : ∀ a b, before a b → priority b ≤ priority a)

include hbefore

lemma leaders_perm_filter (l : List α) :
    (leaders priority before l).Perm (l.filter fun a => IsTop priority l a) := by
  have hperm := perm_insertionSort before l
  have hsorted := pairwise_insertionSort before l
  unfold leaders
  cases hsort : l.insertionSort before with
  | nil =>
    rw [hsort] at hperm
    rw [hperm.symm.eq_nil]; exact .refl _
  | cons first rest =>
    rw [hsort] at hperm hsorted
    have htop : ∀ b ∈ l, priority b ≤ priority first := by
      intro b hb
      rcases mem_cons.mp (hperm.mem_iff.mpr hb) with rfl | hin
      · exact le_refl _
      · exact hbefore first b (rel_of_pairwise_cons hsorted hin)
    have hfirst : first ∈ l := hperm.mem_iff.mp mem_cons_self
    have hsame : ∀ a ∈ first :: rest,
        decide (priority a = priority first) = decide (IsTop priority l a) := by
      intro a ha
      rw [decide_eq_decide]
      constructor
      · intro heq b hb
        rw [heq]; exact htop b hb
      · intro hall; exact le_antisymm (htop a (hperm.mem_iff.mp ha)) (hall first hfirst)
    show ((first :: rest).filter fun a => decide (priority a = priority first)).Perm _
    rw [filter_congr hsame]; exact hperm.filter _

theorem mem_leaders {l : List α} {a : α} :
    a ∈ leaders priority before l ↔ a ∈ l ∧ IsTop priority l a := by
  rw [(leaders_perm_filter hbefore l).mem_iff, mem_filter, decide_eq_true_eq]

theorem leaders_perm {l l' : List α} (h : l.Perm l') :
    (leaders priority before l).Perm (leaders priority before l') := by
  refine ((leaders_perm_filter hbefore l).trans ?_).trans (leaders_perm_filter hbefore l').symm
  have hsame : ∀ a ∈ l', decide (IsTop priority l a) = decide (IsTop priority l' a) := by
    intro a _
    rw [decide_eq_decide]
    exact ⟨fun hall b hb => hall b (h.mem_iff.mpr hb), fun hall b hb => hall b (h.mem_iff.mp hb)⟩
  refine (h.filter _).trans ?_
  rw [filter_congr hsame]

/-- One element is alone at the top if all others are below it. -/
theorem leaders_eq_singleton {l : List α} (hnodup : l.Nodup) {a : α} :
    leaders priority before l = [a] ↔
      a ∈ l ∧ ∀ b ∈ l, b ≠ a → priority b < priority a := by
  have hperm := leaders_perm_filter hbefore l
  constructor
  · intro heq
    have ha : a ∈ leaders priority before l := by
      rw [heq]; exact mem_singleton_self a
    obtain ⟨hin, htop⟩ := (mem_leaders hbefore).mp ha
    refine ⟨hin, fun b hb hne => lt_of_le_of_ne (htop b hb) fun hsame => hne ?_⟩
    have hb' : b ∈ leaders priority before l :=
      (mem_leaders hbefore).mpr ⟨hb, fun c hc => hsame ▸ htop c hc⟩
    rw [heq] at hb'; exact mem_singleton.mp hb'
  · intro ⟨hin, hbelow⟩
    have htop : IsTop priority l a := by
      intro b hb
      by_cases hb' : b = a
      · rw [hb']
      · exact le_of_lt (hbelow b hb hb')
    have hall : ∀ b, b ∈ leaders priority before l ↔ b ∈ [a] := by
      intro b
      rw [mem_leaders hbefore, mem_singleton]
      constructor
      · intro ⟨hb, hb'⟩
        by_contra hne; exact absurd (hb' a hin) (not_le_of_gt (hbelow b hb hne))
      · rintro rfl; exact ⟨hin, htop⟩
    have hnodup' : (leaders priority before l).Nodup :=
      hperm.nodup_iff.mpr (hnodup.filter _)
    exact perm_singleton.mp
      ((perm_ext_iff_of_nodup hnodup' (nodup_singleton a)).mpr hall)

end Priority
