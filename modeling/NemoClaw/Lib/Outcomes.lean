import NemoClaw.Lib.CallTree

/- Programs whose calls can come to several things.

`can s q s' x` says that a call `q` in the store `s` can leave the store `s'` and be
answered `x`: a call that can fail, or be answered by somebody else, has several ends. A
program is judged by all of them.

What is provided:
  1. `Ends`, `Passes` — the runs of a program, to their end or to where they are cut.
  2. `Always` — an invariant at every point of every run, and a condition at its end; the
     rules for composing.
  3. `Split` — a condition at the end, for the value and for the error.
  4. `Always.ends`, `Always.passes` — what that says of the runs.
-/
namespace CallTree

variable {Q : Type} {A : Q → Type} {ε α β σ : Type}

section Runs

variable (can : σ → (q : Q) → σ → A q → Prop)

inductive Ends : σ → Tree Q A ε α → σ → Except ε α → Prop
  | done {s : σ} {r : Except ε α} : Ends s (.done r) s r
  | call {s s' s'' : σ} {q : Q} {k : A q → Tree Q A ε α} {x : A q} {r : Except ε α} :
    can s q s' x → Ends s' (k x) s'' r → Ends s (.call q k) s'' r

/-- A run that is cut after any number of calls. -/
inductive Passes : σ → Tree Q A ε α → σ → Prop
  | here {s : σ} {t : Tree Q A ε α} : Passes s t s
  | call {s s' s'' : σ} {q : Q} {k : A q → Tree Q A ε α} {x : A q} :
    can s q s' x → Passes s' (k x) s'' → Passes s (.call q k) s''

theorem Ends.passes {can : σ → (q : Q) → σ → A q → Prop} {s s' : σ} {t : Tree Q A ε α}
    {r : Except ε α} (h : Ends can s t s' r) : Passes can s t s' := by
  induction h with
  | done => exact .here
  | call hcan _ ih => exact .call hcan ih

lemma Ends.mono {can can' : σ → (q : Q) → σ → A q → Prop}
    (himp : ∀ s q s' x, can s q s' x → can' s q s' x) {s s' : σ} {t : Tree Q A ε α}
    {r : Except ε α} (h : Ends can s t s' r) : Ends can' s t s' r := by
  induction h with
  | done => exact .done
  | call hcan _ ih => exact .call (himp _ _ _ _ hcan) ih

/-- A store that answers as it can, where the calls of the program are made, gives a run. -/
lemma Ends.of_finish {can : σ → (q : Q) → σ → A q → Prop} {exec : σ → (q : Q) → σ × A q}
    {cond : σ → Q → Prop} (h : ∀ s q, cond s q → can s q (exec s q).1 (exec s q).2) {s : σ}
    {t : Tree Q A ε α} (hmeets : t.Meets exec cond s) :
    Ends can s t (t.finish exec s).1 (t.finish exec s).2 := by
  induction t generalizing s with
  | done r => exact .done
  | call q k ih => exact .call (h s q hmeets.1) (ih _ hmeets.2)

/-- Whatever the calls come to, the invariant holds all along and `post` at the end. -/
def Always (inv : σ → Prop) (post : σ → Except ε α → Prop) : Tree Q A ε α → σ → Prop
  | .done r, s => inv s ∧ post s r
  | .call q k, s => inv s ∧ ∀ s' x, can s q s' x → Always inv post (k x) s'

end Runs

/-- One condition on the values of a program and one on its errors. -/
def Split (ok : σ → α → Prop) (error : σ → ε → Prop) (s : σ) : Except ε α → Prop
  | .ok a => ok s a
  | .error e => error s e

section Always

variable {can : σ → (q : Q) → σ → A q → Prop} {inv : σ → Prop}
  {post post' : σ → Except ε α → Prop} {t : Tree Q A ε α} {s s' : σ}

lemma Always.here (h : Always can inv post t s) : inv s := by
  cases t <;> exact h.1

theorem Always.ends {r : Except ε α} (h : Always can inv post t s) (hends : Ends can s t s' r) :
    post s' r := by
  induction hends with
  | done => exact h.2
  | call hcan _ ih => exact ih (h.2 _ _ hcan)

theorem Always.passes (h : Always can inv post t s) (hpasses : Passes can s t s') : inv s' := by
  induction hpasses with
  | here => exact h.here
  | call hcan _ ih => exact ih (h.2 _ _ hcan)

lemma Always.done {r : Except ε α} (hinv : inv s) (h : post s r) :
    Always can inv post (.done r) s := ⟨hinv, h⟩

lemma Always.mono (h : Always can inv post t s) (himp : ∀ s r, inv s → post s r → post' s r) :
    Always can inv post' t s := by
  induction t generalizing s with
  | done r => exact ⟨h.1, himp s r h.1 h.2⟩
  | call q k ih => exact ⟨h.1, fun s' x hcan => ih x (h.2 s' x hcan)⟩

lemma Always.relax {inv' : σ → Prop} (h : Always can inv post t s)
    (himp : ∀ s, inv s → inv' s) :
    Always can inv' (fun s r => inv s ∧ post s r) t s := by
  induction t generalizing s with
  | done r => exact ⟨himp s h.1, h⟩
  | call q k ih => exact ⟨himp s h.1, fun s' x hcan => ih x (h.2 s' x hcan)⟩

lemma Always.ask {q : Q} {post : σ → Except ε (A q) → Prop} (hinv : inv s)
    (h : ∀ s' x, can s q s' x → inv s' ∧ post s' (.ok x)) :
    Always can inv post (Tree.ask q) s := ⟨hinv, h⟩

lemma Always.bind {f : α → Tree Q A ε β} {post' : σ → Except ε β → Prop}
    (h : Always can inv post t s)
    (hok : ∀ s a, inv s → post s (.ok a) → Always can inv post' (f a) s)
    (herror : ∀ s e, inv s → post s (.error e) → post' s (.error e)) :
    Always can inv post' (t.bind f) s := by
  induction t generalizing s with
  | done r =>
    cases r with
    | ok a => exact hok s a h.1 h.2
    | error e => exact ⟨h.1, herror s e h.1 h.2⟩
  | call q k ih => exact ⟨h.1, fun s' x hcan => ih x (h.2 s' x hcan)⟩

lemma Always.lift {r : Except ε α} {f : α → Tree Q A ε β} {post' : σ → Except ε β → Prop}
    (hinv : inv s) (hok : ∀ a, r = .ok a → Always can inv post' (f a) s)
    (herror : ∀ e, r = .error e → post' s (.error e)) :
    Always can inv post' ((Tree.lift r).bind f) s := by
  cases r with
  | ok a => exact hok a rfl
  | error e => exact ⟨hinv, herror e rfl⟩

/-- The value or the error of the first program decides how to go on. -/
lemma Always.attempt_bind {f : Except ε α → Tree Q A ε β} {post' : σ → Except ε β → Prop}
    (h : Always can inv post t s)
    (hnext : ∀ s r, inv s → post s r → Always can inv post' (f r) s) :
    Always can inv post' (t.attempt.bind f) s := by
  induction t generalizing s with
  | done r => exact hnext s r h.1 h.2
  | call q k ih => exact ⟨h.1, fun s' x hcan => ih x (h.2 s' x hcan)⟩

lemma Always.handle {g : ε → Tree Q A ε α} (h : Always can inv post t s)
    (hok : ∀ s a, inv s → post s (.ok a) → post' s (.ok a))
    (herror : ∀ s e, inv s → post s (.error e) → Always can inv post' (g e) s) :
    Always can inv post' (t.handle g) s := by
  induction t generalizing s with
  | done r =>
    cases r with
    | ok a => exact ⟨h.1, hok s a h.1 h.2⟩
    | error e => exact herror s e h.1 h.2
  | call q k ih => exact ⟨h.1, fun s' x hcan => ih x (h.2 s' x hcan)⟩

lemma Always.ite {p : Prop} [Decidable p] {t' : Tree Q A ε α}
    (h : p → Always can inv post t s) (h' : ¬p → Always can inv post t' s) :
    Always can inv post (if p then t else t') s := by
  split
  · next hp => exact h hp
  · next hp => exact h' hp

/-- Calls that are answered by programs of other calls, in ways they can be answered. -/
lemma Always.interpret {Q' : Type} {A' : Q' → Type} {can' : σ → (q : Q') → σ → A' q → Prop}
    {answer : (q : Q) → Tree Q' A' ε (A q)}
    (hanswer : ∀ s q, inv s → (∀ s' x, can s q s' x → inv s') →
      Always can' inv (fun s' r => ∃ x, r = .ok x ∧ can s q s' x) (answer q) s)
    (h : Always can inv post t s) : Always can' inv post (t.interpret answer) s := by
  induction t generalizing s with
  | done r => exact h
  | call q k ih =>
    refine (hanswer s q h.1 fun s' x hcan => (h.2 s' x hcan).here).bind
      (fun s' x _ hx => ?_) fun s' e _ he => ?_
    · obtain ⟨y, heq, hcan⟩ := hx
      cases heq; exact ih x (h.2 s' x hcan)
    · obtain ⟨_, heq, -⟩ := he; cases heq

lemma Always.of_calls {kind : Q → Prop} {P : σ → Prop} (ht : t.Calls kind)
    (hinv : ∀ s, P s → inv s) (hcall : ∀ s q s' x, kind q → can s q s' x → P s → P s')
    (hs : P s) : Always can inv (fun s _ => P s) t s := by
  induction t generalizing s with
  | done r => exact ⟨hinv s hs, hs⟩
  | call q k ih =>
    exact ⟨hinv s hs, fun s' x hcan => ih x (ht.2 x) (hcall s q s' x ht.1 hcan hs)⟩

end Always

end CallTree
