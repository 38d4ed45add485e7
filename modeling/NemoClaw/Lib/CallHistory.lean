import NemoClaw.Lib.Outcomes

/- The history of a program: its calls and what each was answered.

The store of `Outcomes` is here the list of the calls made so far, so an invariant of a
program says what its calls follow upon, whoever answers them and however.

What is provided:
  1. `Event`, `recorded` — a call with its answer is put at the end of the history;
     `scripted`, `Ends.of_script` — answers given by a script.
  2. `Orderly` — each event of a history is allowed by what stands before it.
  3. `Always.call`, `Always.quiet` — one call, and a program of calls that are allowed
     anywhere.
-/
namespace CallTree

open List

variable {Q : Type} {A : Q → Type} {ε α β : Type}

structure Event (Q : Type) (A : Q → Type) where
  call : Q
  answer : A call

/-- Whatever the answer, the call is recorded with it. -/
def recorded (h : List (Event Q A)) (q : Q) (h' : List (Event Q A)) (x : A q) : Prop :=
  h' = h ++ [⟨q, x⟩]

def scripted (script : List (Event Q A) → (q : Q) → A q) (h : List (Event Q A)) (q : Q) :
    List (Event Q A) × A q := (h ++ [⟨q, script h q⟩], script h q)

theorem Ends.of_script (script : List (Event Q A) → (q : Q) → A q) (h : List (Event Q A))
    (t : Tree Q A ε α) :
    Ends recorded h t (t.finish (scripted script) h).1 (t.finish (scripted script) h).2 := by
  induction t generalizing h with
  | done r => exact .done
  | call q k ih => exact .call rfl (ih _ _)

def Orderly (allowed : List (Event Q A) → Event Q A → Prop) (h : List (Event Q A)) : Prop :=
  ∀ before e after, h = before ++ e :: after → allowed before e

section Orderly

variable {allowed : List (Event Q A) → Event Q A → Prop} {h h' : List (Event Q A)}

lemma orderly_nil : Orderly allowed [] := by
  intro before e after hsplit; simp at hsplit

lemma Orderly.snoc {e : Event Q A} (horderly : Orderly allowed h) (he : allowed h e) :
    Orderly allowed (h ++ [e]) := by
  intro before e' after hsplit
  rcases eq_nil_or_concat after with hnil | ⟨after', last, hlast⟩
  · subst hnil
    obtain ⟨hbefore, hlast⟩ := append_inj' hsplit rfl
    rw [← hbefore, ← head_eq_of_cons_eq hlast]; exact he
  · subst hlast
    rw [concat_eq_append, ← cons_append, ← append_assoc] at hsplit
    obtain ⟨hbefore, -⟩ := append_inj' hsplit rfl
    exact horderly before e' after' hbefore

variable {post : List (Event Q A) → Except ε α → Prop}

theorem Always.call {q : Q} {k : A q → Tree Q A ε α} (horderly : Orderly allowed h)
    (hallowed : ∀ x, allowed h ⟨q, x⟩)
    (hrest : ∀ x, Orderly allowed (h ++ [⟨q, x⟩]) →
      Always recorded (Orderly allowed) post (k x) (h ++ [⟨q, x⟩])) :
    Always recorded (Orderly allowed) post (.call q k) h := by
  refine ⟨horderly, fun h' x hrecorded => ?_⟩
  subst hrecorded; exact hrest x (horderly.snoc (hallowed x))

lemma Always.ask_bind {q : Q} {f : A q → Tree Q A ε α} (horderly : Orderly allowed h)
    (hallowed : ∀ x, allowed h ⟨q, x⟩)
    (hrest : ∀ x, Orderly allowed (h ++ [⟨q, x⟩]) →
      Always recorded (Orderly allowed) post (f x) (h ++ [⟨q, x⟩])) :
    Always recorded (Orderly allowed) post ((Tree.ask q).bind f) h :=
  Always.call horderly hallowed hrest

theorem Always.quiet {kind : Q → Prop} {t : Tree Q A ε α} (ht : t.Calls kind)
    (hallowed : ∀ h q x, kind q → allowed h ⟨q, x⟩) (horderly : Orderly allowed h) :
    Always recorded (Orderly allowed)
      (fun h' _ => ∃ new, h' = h ++ new ∧ ∀ e ∈ new, kind e.call) t h := by
  refine (Always.of_calls (P := fun h' => Orderly allowed h' ∧
    ∃ new, h' = h ++ new ∧ ∀ e ∈ new, kind e.call) ht (fun h' h => h.1) ?_
    ⟨horderly, [], by rw [append_nil], nofun⟩).mono
    fun h' r _ h => h.2
  intro h1 q h2 x hkind hrecorded hkept
  obtain ⟨horderly1, new, rfl, hnew⟩ := hkept
  subst hrecorded
  refine ⟨horderly1.snoc (hallowed _ _ _ hkind), new ++ [⟨q, x⟩], append_assoc _ _ _, ?_⟩
  intro e he
  rcases mem_append.mp he with hin | hlast
  · exact hnew e hin
  · rw [mem_singleton.mp hlast]; exact hkind

end Orderly

end CallTree
