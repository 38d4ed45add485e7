import Mathlib.Tactic

/- Programs that call a shared store, one call at a time.

A program is a tree: it is done, with a value or an error, or it makes a call and goes
on with the answer. The store answers a call and changes in one step, so the calls of
several programs interleave, and a program can be cut between any two of its own.

What is provided:
  1. `Tree`, with sequencing and the catching of errors; `Calls` — what kind of calls a
     program makes.
  2. `Tree.after` — store and program after a number of calls; `Tree.finish`.
  3. `Safe` — what a program keeps at each call, whatever others do in between as far
     as the rely says, and what holds when it is done; the rules for composing.
  4. `Safe.after`, `Safe.finish`, `Safe.finish_of_meets` — what that says of a program
     that runs alone.
  5. `Reaches` — where one run of a program that runs alone ends.
-/
namespace CallTree

/-- A program with calls `Q`, answers `A`, errors `ε` and values `α`. -/
inductive Tree (Q : Type) (A : Q → Type) (ε α : Type) where
  | done (r : Except ε α)
  | call (q : Q) (k : A q → Tree Q A ε α)

namespace Tree

variable {Q : Type} {A : Q → Type} {ε α β : Type}

/-- The value goes on to the next program; an error ends both. -/
def bind (t : Tree Q A ε α) (f : α → Tree Q A ε β) : Tree Q A ε β :=
  match t with
  | done (.ok a) => f a
  | done (.error e) => done (.error e)
  | call q k => call q fun x => (k x).bind f

/-- An error goes to the handler. -/
def handle (t : Tree Q A ε α) (h : ε → Tree Q A ε α) : Tree Q A ε α :=
  match t with
  | done (.ok a) => done (.ok a)
  | done (.error e) => h e
  | call q k => call q fun x => (k x).handle h

instance : Monad (Tree Q A ε) where
  pure a := done (.ok a)
  bind := bind

instance : MonadExcept ε (Tree Q A ε) where
  throw e := done (.error e)
  tryCatch := handle

/-- One call, and its answer. -/
def ask (q : Q) : Tree Q A ε (A q) := call q fun x => done (.ok x)

/-- What is computed without a call. -/
def lift (r : Except ε α) : Tree Q A ε α := done r

/-- The program, with its error for a value. -/
def attempt : Tree Q A ε α → Tree Q A ε (Except ε α)
  | done r => done (.ok r)
  | call q k => call q fun x => (k x).attempt

/-- The first program, then the second whatever the first has come to; an error of the second takes
its place. -/
def tryFinally (t : Tree Q A ε α) (after : Tree Q A ε Unit) : Tree Q A ε α :=
  t.attempt.bind fun r => after.bind fun _ => done r

def interpret {Q' : Type} {A' : Q' → Type} (answer : (q : Q) → Tree Q' A' ε (A q)) :
    Tree Q A ε α → Tree Q' A' ε α
  | done r => done r
  | call q k => (answer q).bind fun x => (k x).interpret answer

@[simp] lemma pure_eq (a : α) : (pure a : Tree Q A ε α) = done (.ok a) := rfl

@[simp] lemma throw_eq (e : ε) : (throw e : Tree Q A ε α) = done (.error e) := rfl

@[simp] lemma bind_eq (t : Tree Q A ε α) (f : α → Tree Q A ε β) : t >>= f = t.bind f := rfl

@[simp] lemma tryCatch_eq (t : Tree Q A ε α) (h : ε → Tree Q A ε α) :
    tryCatch t h = t.handle h := rfl

@[simp] lemma bind_done_ok (a : α) (f : α → Tree Q A ε β) :
    (done (.ok a) : Tree Q A ε α).bind f = f a := rfl

@[simp] lemma bind_done_error (e : ε) (f : α → Tree Q A ε β) :
    (done (.error e) : Tree Q A ε α).bind f = done (.error e) := rfl

/-! ### The calls of a program -/

def Calls (kind : Q → Prop) : Tree Q A ε α → Prop
  | done _ => True
  | call q k => kind q ∧ ∀ x, (k x).Calls kind

section Calls

variable {kind : Q → Prop} {t : Tree Q A ε α}

lemma Calls.done {r : Except ε α} : (done r : Tree Q A ε α).Calls kind := trivial

lemma Calls.ask {q : Q} (h : kind q) : (ask q : Tree Q A ε (A q)).Calls kind :=
  ⟨h, fun _ => trivial⟩

lemma Calls.mono {kind' : Q → Prop} (h : t.Calls kind) (himp : ∀ q, kind q → kind' q) :
    t.Calls kind' := by
  induction t with
  | done r => trivial
  | call q k ih => exact ⟨himp q h.1, fun x => ih x (h.2 x)⟩

lemma Calls.bind {f : α → Tree Q A ε β} (h : t.Calls kind) (hf : ∀ a, (f a).Calls kind) :
    (t.bind f).Calls kind := by
  induction t with
  | done r =>
    cases r with
    | ok a => exact hf a
    | error e => trivial
  | call q k ih => exact ⟨h.1, fun x => ih x (h.2 x)⟩

lemma Calls.attempt (h : t.Calls kind) : t.attempt.Calls kind := by
  induction t with
  | done r => trivial
  | call q k ih => exact ⟨h.1, fun x => ih x (h.2 x)⟩

lemma Calls.handle {g : ε → Tree Q A ε α} (h : t.Calls kind) (hg : ∀ e, (g e).Calls kind) :
    (t.handle g).Calls kind := by
  induction t with
  | done r =>
    cases r with
    | ok a => trivial
    | error e => exact hg e
  | call q k ih => exact ⟨h.1, fun x => ih x (h.2 x)⟩

lemma Calls.ite {p : Prop} [Decidable p] {t' : Tree Q A ε α} (h : p → t.Calls kind)
    (h' : ¬p → t'.Calls kind) : (if p then t else t').Calls kind := by
  split
  · next hp => exact h hp
  · next hp => exact h' hp

end Calls

variable {σ : Type} (exec : σ → (q : Q) → σ × A q)

/-- Store and program after `n` calls, or fewer where the program is done. -/
def after : ℕ → σ → Tree Q A ε α → σ × Tree Q A ε α
  | 0, s, t => (s, t)
  | _ + 1, s, done r => (s, done r)
  | n + 1, s, call q k => after n (exec s q).1 (k (exec s q).2)

/-- The program runs to its end. -/
def finish : σ → Tree Q A ε α → σ × Except ε α
  | s, done r => (s, r)
  | s, call q k => finish (exec s q).1 (k (exec s q).2)

/-- Each call of the program is made where the condition allows it. -/
def Meets (cond : σ → Q → Prop) : σ → Tree Q A ε α → Prop
  | _, done _ => True
  | s, call q k => cond s q ∧ Meets cond (exec s q).1 (k (exec s q).2)

instance Meets.decidable (cond : σ → Q → Prop) [∀ s q, Decidable (cond s q)] :
    (s : σ) → (t : Tree Q A ε α) → Decidable (Meets exec cond s t)
  | _, done _ => isTrue trivial
  | s, call q k =>
    have : Decidable (Meets exec cond (exec s q).1 (k (exec s q).2)) :=
      Meets.decidable cond _ (k (exec s q).2)
    inferInstanceAs (Decidable (_ ∧ _))

end Tree

section Safe

variable {Q : Type} {A : Q → Type} {ε α β σ : Type}

/-- The store may change along `rely` before each call; a call is made only where `cond` allows it,
and the store then changes along `guar`. At the end `post` holds. -/
def Safe (exec : σ → (q : Q) → σ × A q) (rely : σ → σ → Prop) (cond : σ → Q → Prop)
    (guar : σ → σ → Prop) (post : σ → Except ε α → Prop) : Tree Q A ε α → σ → Prop
  | .done r, s => ∀ s', rely s s' → post s' r
  | .call q k, s => ∀ s', rely s s' → cond s' q →
      guar s' (exec s' q).1 ∧ Safe exec rely cond guar post (k (exec s' q).2) (exec s' q).1

variable {exec : σ → (q : Q) → σ × A q} {rely guar : σ → σ → Prop} {cond : σ → Q → Prop}
  {post post' : σ → Except ε α → Prop} {t : Tree Q A ε α} {s s' : σ}

lemma Safe.stable (htrans : ∀ {a b c}, rely a b → rely b c → rely a c) (hs : rely s s')
    (h : Safe exec rely cond guar post t s) : Safe exec rely cond guar post t s' := by
  cases t <;> exact fun s'' hs'' => h s'' (htrans hs hs'')

lemma Safe.mono (h : Safe exec rely cond guar post t s)
    (himp : ∀ s r, post s r → post' s r) : Safe exec rely cond guar post' t s := by
  induction t generalizing s with
  | done r => exact fun s' hs' => himp s' r (h s' hs')
  | call q k ih =>
    intro s' hs' hcond
    obtain ⟨hguar, hrest⟩ := h s' hs' hcond; exact ⟨hguar, ih _ hrest⟩

lemma Safe.done (h : ∀ s', rely s s' → post s' r) :
    Safe exec rely cond guar post (.done r) s := h

/-- Sequencing: the second program takes over where the first one ends. -/
lemma Safe.bind {f : α → Tree Q A ε β} {post' : σ → Except ε β → Prop}
    (hrefl : ∀ a, rely a a) (h : Safe exec rely cond guar post t s)
    (hok : ∀ s a, post s (.ok a) → Safe exec rely cond guar post' (f a) s)
    (herror : ∀ s e, post s (.error e) → post' s (.error e)) :
    Safe exec rely cond guar post' (t.bind f) s := by
  induction t generalizing s with
  | done r =>
    cases r with
    | ok a => exact hok s a (h s (hrefl s))
    | error e => exact fun s' hs' => herror s' e (h s' hs')
  | call q k ih =>
    intro s' hs' hcond
    obtain ⟨hguar, hrest⟩ := h s' hs' hcond; exact ⟨hguar, ih _ hrest⟩

lemma Safe.handle {g : ε → Tree Q A ε α} (hrefl : ∀ a, rely a a)
    (h : Safe exec rely cond guar post t s)
    (hok : ∀ s a, post s (.ok a) → post' s (.ok a))
    (herror : ∀ s e, post s (.error e) → Safe exec rely cond guar post' (g e) s) :
    Safe exec rely cond guar post' (t.handle g) s := by
  induction t generalizing s with
  | done r =>
    cases r with
    | ok a => exact fun s' hs' => hok s' a (h s' hs')
    | error e => exact herror s e (h s (hrefl s))
  | call q k ih =>
    intro s' hs' hcond
    obtain ⟨hguar, hrest⟩ := h s' hs' hcond; exact ⟨hguar, ih _ hrest⟩

lemma Safe.attempt {post' : σ → Except ε (Except ε α) → Prop}
    (h : Safe exec rely cond guar post t s) (himp : ∀ s r, post s r → post' s (.ok r)) :
    Safe exec rely cond guar post' t.attempt s := by
  induction t generalizing s with
  | done r => exact fun s' hs' => himp s' r (h s' hs')
  | call q k ih =>
    intro s' hs' hcond
    obtain ⟨hguar, hrest⟩ := h s' hs' hcond; exact ⟨hguar, ih _ hrest⟩

lemma Safe.of_calls {kind : Q → Prop} {P : σ → Prop} (ht : t.Calls kind)
    (hrely : ∀ s s', rely s s' → P s → P s')
    (hcall : ∀ s q, kind q → cond s q → P s → guar s (exec s q).1 ∧ P (exec s q).1)
    (hs : P s) : Safe exec rely cond guar (fun s _ => P s) t s := by
  induction t generalizing s with
  | done r => exact fun s' hs' => hrely s s' hs' hs
  | call q k ih =>
    intro s' hs' hcond
    obtain ⟨hguar, hP⟩ := hcall s' q ht.1 hcond (hrely s s' hs' hs)
    exact ⟨hguar, ih _ (ht.2 _) hP⟩

section

variable (h : Safe exec Eq (fun _ _ => True) guar post t s)
include h

/-- A program that runs alone: every state it leads through keeps what each call keeps. -/
theorem Safe.after {I : σ → Prop} (hkeep : ∀ s s', guar s s' → I s → I s') (hs : I s) (n : ℕ) :
    I (t.after exec n s).1 := by
  induction n generalizing s t with
  | zero => exact hs
  | succ n ih =>
    cases t with
    | done r => exact hs
    | call q k =>
      obtain ⟨hguar, hrest⟩ := h s rfl trivial
      exact ih hrest (hkeep _ _ hguar hs)

lemma Safe.finish_keeps {I : σ → Prop} (hkeep : ∀ s s', guar s s' → I s → I s') (hs : I s) :
    I (t.finish exec s).1 := by
  induction t generalizing s with
  | done r => exact hs
  | call q k ih =>
    obtain ⟨hguar, hrest⟩ := h s rfl trivial
    exact ih _ hrest (hkeep _ _ hguar hs)

theorem Safe.finish : post (t.finish exec s).1 (t.finish exec s).2 := by
  induction t generalizing s with
  | done r => exact h s rfl
  | call q k ih => exact ih _ (h s rfl trivial).2

end

/-- The end of a program whose calls all meet the condition. -/
theorem Safe.finish_of_meets (h : Safe exec Eq cond guar post t s)
    (hmeets : t.Meets exec cond s) : post (t.finish exec s).1 (t.finish exec s).2 := by
  induction t generalizing s with
  | done r => exact h s rfl
  | call q k ih => exact ih _ (h s rfl hmeets.1).2 hmeets.2

/-- The program, running alone, makes calls that all meet the condition, and ends where
`post` holds. -/
def Reaches (exec : σ → (q : Q) → σ × A q) (cond : σ → Q → Prop)
    (post : σ → Except ε α → Prop) (t : Tree Q A ε α) (s : σ) : Prop :=
  t.Meets exec cond s ∧ post (t.finish exec s).1 (t.finish exec s).2

section

variable (h : Reaches exec cond post t s)
include h

lemma Reaches.mono (himp : ∀ s r, post s r → post' s r) :
    Reaches exec cond post' t s := ⟨h.1, himp _ _ h.2⟩

lemma Reaches.bind {f : α → Tree Q A ε β} {post' : σ → Except ε β → Prop}
    (hok : ∀ s a, post s (.ok a) → Reaches exec cond post' (f a) s)
    (herror : ∀ s e, post s (.error e) → post' s (.error e)) :
    Reaches exec cond post' (t.bind f) s := by
  induction t generalizing s with
  | done r =>
    cases r with
    | ok a => exact hok s a h.2
    | error e => exact ⟨trivial, herror s e h.2⟩
  | call q k ih =>
    obtain ⟨hmeets, hpost⟩ := ih (exec s q).2 ⟨h.1.2, h.2⟩
    exact ⟨⟨h.1.1, hmeets⟩, hpost⟩

lemma Reaches.handle {g : ε → Tree Q A ε α} (hok : ∀ s a, post s (.ok a) → post' s (.ok a))
    (herror : ∀ s e, post s (.error e) → Reaches exec cond post' (g e) s) :
    Reaches exec cond post' (t.handle g) s := by
  induction t generalizing s with
  | done r =>
    cases r with
    | ok a => exact ⟨trivial, hok s a h.2⟩
    | error e => exact herror s e h.2
  | call q k ih =>
    obtain ⟨hmeets, hpost⟩ := ih (exec s q).2 ⟨h.1.2, h.2⟩
    exact ⟨⟨h.1.1, hmeets⟩, hpost⟩

end

end Safe

end CallTree
