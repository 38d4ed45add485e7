import Mathlib.Tactic

/- A value under a version counter.

Writers may change the value only with the counter; they may count without
changing it. Whoever finds the counter where it was may conclude that the value
never changed in between, which is what compare-and-set on the counter rests on.
-/
namespace Versioned

variable {α σ : Type}

/-- Across a step the version does not fall, and rises when the value changes. -/
def Moves (before after : α × ℕ) : Prop :=
  before.2 ≤ after.2 ∧ (before.1 ≠ after.1 → before.2 < after.2)

lemma Moves.refl (v : α × ℕ) : Moves v v := ⟨le_refl _, fun h => absurd rfl h⟩

lemma Moves.trans {u v w : α × ℕ} (huv : Moves u v) (hvw : Moves v w) : Moves u w := by
  obtain ⟨hle, hlt⟩ := huv
  obtain ⟨hle', hlt'⟩ := hvw
  refine ⟨hle.trans hle', fun hne => ?_⟩
  by_cases h : u.1 = v.1
  · exact lt_of_le_of_lt hle (hlt' (h ▸ hne))
  · exact lt_of_lt_of_le (hlt h) hle'

lemma Moves.of_lt {u v : α × ℕ} (h : u.2 < v.2) : Moves u v := ⟨h.le, fun _ => h⟩

/-- A step that keeps the value keeps the law as long as the version does not fall. -/
lemma Moves.of_eq {u v : α × ℕ} (h : u.1 = v.1) (hle : u.2 ≤ v.2) : Moves u v :=
  ⟨hle, fun hne => absurd h hne⟩

lemma Moves.eq_of_version {u v : α × ℕ} (h : Moves u v) (hversion : u.2 = v.2) :
    u.1 = v.1 := by
  by_contra hne
  have := h.2 hne; omega

lemma moves_foldl {ω : Type} {step : σ → ω → σ} {view : σ → α × ℕ}
    (hstep : ∀ s op, Moves (view s) (view (step s op))) (ops : List ω) (s : σ) :
    Moves (view s) (view (ops.foldl step s)) := by
  induction ops generalizing s with
  | nil => exact .refl _
  | cons op ops ih => exact (hstep s op).trans (ih (step s op))

end Versioned
