import Mathlib.Tactic

/- Synchronous calls that mutate a state and may throw.

A `Call σ α` runs from a state to either a value or a thrown message, together
with the state it leaves behind: what was assigned before a throw stays
assigned. `exec` runs a call, and the `exec_…` lemmas say what each
construct does.

What is provided:
  1. `Silent` — a call that never changes the state — and `Atomic` — one that
     leaves the state as it was whenever it throws — with their combinators.
  2. `Ends` — a postcondition on the outcome and the final state — with one rule
     per construct.
  3. `runCalls` — a sequence of calls made one after the other, each error
     caught — and the rule that an invariant of every call is an invariant of
     the run; `Meets` — every call of it meets a condition where it is made.
  4. `require` — an assertion with its message — and the inversion of a chain
     of assertions that did not throw.
  5. `uniq` — the elements of a list without repetitions, in order of first
     occurrence, as spreading a `Set` gives them.
-/
namespace Js

/-- A call on a state `σ`. -/
abbrev Call (σ α : Type) := ExceptT String (StateM σ) α

namespace Call

variable {σ α β : Type}

/-- The outcome of a call and the state after it. -/
def exec (x : Call σ α) (s : σ) : Except String α × σ := StateT.run (ExceptT.run x) s

/-- A pure computation that may throw. -/
def ofExcept (x : Except String α) : Call σ α :=
  match x with
  | .ok a => pure a
  | .error e => throw e

@[simp] lemma exec_pure (a : α) (s : σ) : exec (pure a : Call σ α) s = (.ok a, s) := rfl

@[simp] lemma exec_throw (e : String) (s : σ) :
    exec (throw e : Call σ α) s = (.error e, s) := rfl

@[simp] lemma exec_get (s : σ) : exec (get : Call σ σ) s = (.ok s, s) := rfl

@[simp] lemma exec_set (s s' : σ) : exec (set s' : Call σ PUnit) s = (.ok ⟨⟩, s') := rfl

@[simp] lemma exec_ofExcept_ok (a : α) (s : σ) :
    exec (ofExcept (.ok a) : Call σ α) s = (.ok a, s) := rfl

@[simp] lemma exec_ofExcept_error (e : String) (s : σ) :
    exec (ofExcept (.error e) : Call σ α) s = (.error e, s) := rfl

variable {s : σ} {x : Call σ α} {f : α → Call σ β} {Q : Except String β → σ → Prop}

lemma ofExcept_inv {x : Except String α} {s' : σ} {a : α}
    (h : exec (ofExcept x : Call σ α) s = (.ok a, s')) : x = .ok a := by
  cases x with
  | ok b => cases h; rfl
  | error e => cases h

lemma exec_bind (x : Call σ α) (f : α → Call σ β) (s : σ) :
    exec (x >>= f) s =
      match exec x s with
      | (.ok a, s') => exec (f a) s'
      | (.error e, s') => (.error e, s') := by
  show StateT.run (ExceptT.run (x >>= f)) s = _
  rw [ExceptT.run_bind, StateT.run_bind]
  unfold exec
  cases h : StateT.run (ExceptT.run x) s with
  | mk r s' => cases r <;> rfl

lemma exec_bind_ok {s' : σ} {a : α} (h : exec x s = (.ok a, s')) :
    exec (x >>= f) s = exec (f a) s' := by
  rw [exec_bind, h]

lemma exec_bind_error {s' : σ} {e : String} (h : exec x s = (.error e, s')) :
    exec (x >>= f) s = (.error e, s') := by
  rw [exec_bind, h]

lemma exec_bind_inv {b : β} (h : (exec (x >>= f) s).1 = .ok b) :
    ∃ a s', exec x s = (.ok a, s') ∧ (exec (f a) s').1 = .ok b := by
  rw [exec_bind] at h
  cases hexec : exec x s with
  | mk r s' =>
    rw [hexec] at h
    cases r with
    | ok a => exact ⟨a, s', rfl, h⟩
    | error e => cases h

/-- A call on the first of two parts of the state. -/
def onFst {τ : Type} (x : Call σ α) : Call (σ × τ) α := do
  let (s, t) ← get
  match exec x s with
  | (.ok a, s') => set (s', t); pure a
  | (.error e, s') => set (s', t); throw e

/-- The call never changes the state. -/
def Silent (x : Call σ α) : Prop := ∀ s, (exec x s).2 = s

/-- A call that throws leaves the state as it was. -/
def Atomic (x : Call σ α) : Prop := ∀ s e, (exec x s).1 = .error e → (exec x s).2 = s

lemma Silent.atomic (h : Silent x) : Atomic x := fun s _ _ => h s

lemma silent_get : Silent (get : Call σ σ) := fun _ => rfl

lemma silent_ofExcept (x : Except String α) : Silent (ofExcept x : Call σ α) := by
  intro s
  cases x <;> rfl

lemma atomic_set (s : σ) : Atomic (set s : Call σ PUnit) := by
  intro s' e h; cases h

lemma Silent.bind (hx : Silent x) (hf : ∀ a, Atomic (f a)) : Atomic (x >>= f) := by
  intro s e h
  have hs := hx s
  rw [exec_bind] at h ⊢
  cases hexec : exec x s with
  | mk r s' =>
    rw [hexec] at h hs
    obtain rfl : s' = s := hs
    cases r with
    | ok a => exact hf a s' e h
    | error e' => rfl

/-! ## Postconditions -/

/-- The call, run from `s`, ends in an outcome and a state that satisfy `Q`. -/
def Ends (x : Call σ α) (s : σ) (Q : Except String α → σ → Prop) : Prop :=
  Q (exec x s).1 (exec x s).2

lemma ends_pure {a : α} {Q : Except String α → σ → Prop} (h : Q (.ok a) s) :
    Ends (pure a) s Q := h

lemma ends_throw {e : String} {Q : Except String α → σ → Prop} (h : Q (.error e) s) :
    Ends (throw e) s Q := h

lemma ends_set {s' : σ} {Q : Except String PUnit → σ → Prop} (h : Q (.ok ⟨⟩) s') :
    Ends (set s') s Q := h

lemma ends_get_bind {f : σ → Call σ β} (h : Ends (f s) s Q) : Ends (get >>= f) s Q := by
  unfold Ends at h ⊢; rwa [exec_bind_ok (exec_get s)]

lemma ends_set_bind {f : PUnit → Call σ β} {s' : σ} (h : Ends (f ⟨⟩) s' Q) :
    Ends (set s' >>= f) s Q := by
  unfold Ends at h ⊢; rwa [exec_bind_ok (exec_set s s')]

/-- Another answer keeps what is said of the state alone. -/
lemma ends_discard {Q : σ → Prop} {b : β} (h : Ends x s fun _ s' => Q s') :
    Ends (x >>= fun _ => pure b) s fun _ s' => Q s' := by
  unfold Ends at h ⊢
  rw [exec_bind]
  cases hexec : exec x s with
  | mk r s' =>
    rw [hexec] at h
    cases r <;> exact h

/-- A computation that may throw leaves the state alone either way. -/
lemma ends_ofExcept_bind {x : Except String α} (hok : ∀ a, x = .ok a → Ends (f a) s Q)
    (herror : ∀ e, x = .error e → Q (.error e) s) : Ends (ofExcept x >>= f) s Q := by
  unfold Ends
  cases x with
  | ok a => rw [exec_bind_ok (exec_ofExcept_ok a s)]; exact hok a rfl
  | error e => rw [exec_bind_error (exec_ofExcept_error e s)]; exact herror e rfl

/-- A call on the first part of the state leaves the second as it is. -/
lemma ends_onFst_bind {τ : Type} {f : α → Call (σ × τ) β} {t : τ}
    {Q : Except String β → σ × τ → Prop} (hok : ∀ a s', Ends (f a) (s', t) Q)
    (herror : ∀ e s', Q (.error e) (s', t)) : Ends (onFst x >>= f) (s, t) Q := by
  have hfst : exec (onFst x : Call (σ × τ) α) (s, t) =
      ((exec x s).1, ((exec x s).2, t)) := by
    unfold onFst
    rw [exec_bind_ok (exec_get _)]
    cases hexec : exec x s with
    | mk outcome s' =>
      simp only [hexec]
      cases outcome <;> rfl
  unfold Ends
  cases hexec : exec x s with
  | mk outcome s' =>
    rw [hexec] at hfst
    cases outcome with
    | ok a => rw [exec_bind_ok hfst]; exact hok a s'
    | error e => rw [exec_bind_error hfst]; exact herror e s'

/-- The state after a sequence of calls; the caller catches what they throw. -/
def runCalls (calls : List (Call σ α)) (s : σ) : σ :=
  calls.foldl (fun s x => (exec x s).2) s

@[simp] lemma runCalls_nil (s : σ) : runCalls ([] : List (Call σ α)) s = s := rfl

@[simp] lemma runCalls_cons (x : Call σ α) (xs : List (Call σ α)) (s : σ) :
    runCalls (x :: xs) s = runCalls xs (exec x s).2 := rfl

/-- What every call of a sequence preserves holds after the sequence. -/
lemma runCalls_invariant {I : σ → Prop} {calls : List (Call σ α)}
    (hcall : ∀ x ∈ calls, ∀ s, I s → I (exec x s).2) (hs : I s) : I (runCalls calls s) := by
  induction calls generalizing s with
  | nil => exact hs
  | cons x xs ih =>
    rw [runCalls_cons]
    exact ih (fun y hy => hcall y (by simp [hy])) (hcall x (by simp) s hs)

lemma runCalls_append (xs ys : List (Call σ α)) (s : σ) :
    runCalls (xs ++ ys) s = runCalls ys (runCalls xs s) := List.foldl_append

section Meets

variable {ω : Type} (perform : ω → Call σ α) (cond : ω → σ → Prop)

/-- Each operation of the sequence meets a condition in the state it is performed in. -/
def Meets : List ω → σ → Prop
  | [], _ => True
  | op :: ops, s => cond op s ∧ Meets ops (exec (perform op) s).2

variable {perform cond}

/-- What every operation that meets the condition preserves holds after the sequence. -/
lemma Meets.invariant {I : σ → Prop} {ops : List ω} {s : σ} (h : Meets perform cond ops s)
    (hstep : ∀ op s, cond op s → I s → I (exec (perform op) s).2) (hs : I s) :
    I (runCalls (ops.map perform) s) := by
  induction ops generalizing s with
  | nil => exact hs
  | cons op ops ih => exact ih h.2 (hstep op s h.1 hs)

end Meets

end Call

/-- `if (!p) throw new Error(message)`. -/
def require (p : Prop) [Decidable p] (message : String) : Except String Unit :=
  if p then .ok () else .error message

lemma require_eq_ok {p : Prop} [Decidable p] {message : String} {u : Unit}
    (h : require p message = .ok u) : p := by
  unfold require at h
  split at h
  · assumption
  · cases h

lemma require_eq_error {p : Prop} [Decidable p] {message e : String}
    (h : require p message = .error e) : ¬ p := by
  unfold require at h
  split at h
  · cases h
  · assumption

lemma require_bind_inv {β : Type} {p : Prop} [Decidable p] {message : String}
    {f : Unit → Except String β} {b : β} (h : (require p message >>= f) = .ok b) :
    p ∧ f () = .ok b := by
  unfold require at h
  split at h
  · next hp => exact ⟨hp, h⟩
  · cases h

lemma except_bind_inv {ε α β : Type} {x : Except ε α} {f : α → Except ε β} {b : β}
    (h : (x >>= f) = .ok b) : ∃ a, x = .ok a ∧ f a = .ok b := by
  cases x with
  | ok a => exact ⟨a, rfl, h⟩
  | error e => cases h

lemma except_bind_ok {ε α β : Type} {x : Except ε α} {f : α → Except ε β} {a : α} {b : β}
    (hx : x = .ok a) (hf : f a = .ok b) : (x >>= f) = .ok b := by
  rw [hx]; exact hf

lemma require_bind_ok {β : Type} {p : Prop} [Decidable p] {message : String}
    {f : Unit → Except String β} {b : β} (hp : p) (hf : f () = .ok b) :
    (require p message >>= f) = .ok b := by
  unfold require
  rw [if_pos hp]; exact hf

section Uniq

variable {α : Type} [DecidableEq α]

/-- `[...new Set(xs)]`. -/
def uniq : List α → List α
  | [] => []
  | a :: as => a :: (uniq as).filter (· ≠ a)

@[simp] lemma mem_uniq {a : α} {l : List α} : a ∈ uniq l ↔ a ∈ l := by
  induction l with
  | nil => simp [uniq]
  | cons b l ih =>
    by_cases h : a = b
    · simp [uniq, h]
    · simp [uniq, h, ih]

lemma nodup_uniq (l : List α) : (uniq l).Nodup := by
  induction l with
  | nil => exact List.nodup_nil
  | cons b l ih =>
    refine List.nodup_cons.mpr ⟨?_, ih.filter _⟩
    simp

end Uniq

end Js
