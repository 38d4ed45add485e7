import Mathlib.Tactic

/- Runs of a system that takes one action at a time.

`step` says what an action does where it can be taken. A run is a list of actions,
each taken where the one before it left the system, and an interleaving of several
parties is a run whose actions say who takes them.

What is provided:
  1. `run` and how runs compose.
  2. `Along` — every action of a run meets a condition where it is taken.
  3. `Along.invariant` — the rule for invariants of such runs.
-/
namespace Runs

variable {σ α : Type} (step : σ → α → Option σ)

/-- The state after a list of actions, if each of them can be taken. -/
def run : σ → List α → Option σ
  | s, [] => some s
  | s, a :: as => (step s a).bind fun s' => run s' as

/-- Each action of the run meets the condition in the state it is taken in. -/
def Along (cond : σ → α → Prop) : σ → List α → Prop
  | _, [] => True
  | s, a :: as => cond s a ∧ ∀ s', step s a = some s' → Along cond s' as

instance Along.decidable (cond : σ → α → Prop) [∀ s a, Decidable (cond s a)] :
    (s : σ) → (as : List α) → Decidable (Along step cond s as)
  | _, [] => isTrue trivial
  | s, a :: as =>
    have : Decidable (∀ s', step s a = some s' → Along step cond s' as) :=
      match step s a with
      | none => isTrue fun _ h' => nomatch h'
      | some t =>
        match Along.decidable cond t as with
        | isTrue ht => isTrue fun _ h' => Option.some.inj h' ▸ ht
        | isFalse ht => isFalse fun hall => ht (hall t rfl)
    inferInstanceAs (Decidable (_ ∧ _))

variable {step}

variable {as : List α} {cond : σ → α → Prop}

lemma run_cons {s t : σ} {a : α} (h : run step s (a :: as) = some t) :
    ∃ s', step s a = some s' ∧ run step s' as = some t := Option.bind_eq_some_iff.mp h

lemma Along.of_forall (h : ∀ a ∈ as, ∀ s, cond s a) (s : σ) : Along step cond s as := by
  induction as generalizing s with
  | nil => trivial
  | cons a as ih =>
    exact ⟨h a (by simp) s, fun s' _ => ih (fun b hb => h b (by simp [hb])) s'⟩

lemma Along.and {cond' : σ → α → Prop} {s : σ} (h : Along step cond s as)
    (h' : Along step cond' s as) : Along step (fun s a => cond s a ∧ cond' s a) s as := by
  induction as generalizing s with
  | nil => trivial
  | cons a as ih => exact ⟨⟨h.1, h'.1⟩, fun s' hs' => ih (h.2 s' hs') (h'.2 s' hs')⟩

lemma Along.append {s t : σ} {a : α} (h : Along step cond s (as ++ [a]))
    (hrun : run step s as = some t) : Along step cond s as ∧ cond t a := by
  induction as generalizing s with
  | nil => cases hrun; exact ⟨trivial, h.1⟩
  | cons b as ih =>
    obtain ⟨s', hb, hrest⟩ := run_cons hrun
    refine ⟨⟨h.1, fun s'' hs'' => ?_⟩, (ih (h.2 s' hb) hrest).2⟩
    rw [hb] at hs''
    cases hs''; exact (ih (h.2 s' hb) hrest).1

/-- What every action that meets the condition preserves holds after the run. -/
theorem Along.invariant {I : σ → Prop} {s t : σ} (h : Along step cond s as)
    (hrun : run step s as = some t) (hstep : ∀ s a s', step s a = some s' → cond s a → I s → I s')
    (hs : I s) : I t := by
  induction as generalizing s with
  | nil => cases hrun; exact hs
  | cons a as ih =>
    obtain ⟨s', ha, hrest⟩ := run_cons hrun
    exact ih (h.2 s' ha) hrest (hstep s a s' ha h.1 hs)

lemma run_invariant {I : σ → Prop} {s t : σ} (hrun : run step s as = some t)
    (hstep : ∀ s a s', step s a = some s' → I s → I s') (hs : I s) : I t := by
  induction as generalizing s with
  | nil => cases hrun; exact hs
  | cons a as ih =>
    obtain ⟨s', ha, hrest⟩ := run_cons hrun; exact ih hrest (hstep s a s' ha hs)

end Runs
