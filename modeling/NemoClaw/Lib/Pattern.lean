import Mathlib.Tactic

/- Search patterns over a text.

A pattern is matched from a cursor, which has what stands before it and what stands
after it, so that a pattern may look back. The cursors at which a match can end are
computed as a list; a text matches if some cursor of it has one.

What is provided:
  1. `Pattern` — letters, sequences, alternatives, bounded repetitions, both ends of the
     text, word boundaries, and what stands before the cursor.
  2. `Pattern.ends` and `Pattern.test`.
  3. `Pattern.absent` — no match, with less to search for what is looked back for.
-/

/-- A pattern over letters `α`. -/
inductive Pattern (α : Type) where
  | letter (p : α → Bool)
  | empty
  | seq (a b : Pattern α)
  | alt (a b : Pattern α)
  /-- at least so many times, and at most so many if there is a bound -/
  | repeated (a : Pattern α) (least : ℕ) (most : Option ℕ)
  | start
  | stop
  /-- a word ends or begins here -/
  | boundary (word : α → Bool)
  /-- a match of `a` ends here -/
  | behind (a : Pattern α)

namespace Pattern

variable {α : Type}

/-- A place in a text: what stands before it, nearest first, and what stands after it. -/
structure Cursor (α : Type) where
  before : List α
  after : List α

def Cursor.back : List α → List α → List (Cursor α)
  | [], after => [⟨[], after⟩]
  | x :: before, after => ⟨x :: before, after⟩ :: back before (x :: after)

def Cursor.forward (before : List α) : List α → List (Cursor α)
  | [] => [⟨before, []⟩]
  | x :: after => ⟨before, x :: after⟩ :: forward (x :: before) after

/-- So many matches in a row. -/
def times (ends : Cursor α → List (Cursor α)) : ℕ → Cursor α → List (Cursor α)
  | 0, c => [c]
  | n + 1, c => (ends c).flatMap (times ends n)

/-- So many matches in a row or fewer. -/
def upTo (ends : Cursor α → List (Cursor α)) : ℕ → Cursor α → List (Cursor α)
  | 0, c => [c]
  | n + 1, c => c :: (ends c).flatMap (upTo ends n)

def atBoundary (word : α → Bool) (c : Cursor α) : Bool :=
  (c.before.head?.any word) != (c.after.head?.any word)

def ends : Pattern α → Cursor α → List (Cursor α)
  | letter p, c =>
    match c.after with
    | [] => []
    | x :: rest => if p x then [⟨x :: c.before, rest⟩] else []
  | empty, c => [c]
  | seq a b, c => (a.ends c).flatMap b.ends
  | alt a b, c => a.ends c ++ b.ends c
  | repeated a least most, c =>
    (times a.ends least c).flatMap
      (upTo a.ends ((most.map (· - least)).getD c.after.length))
  | start, c => if c.before.isEmpty then [c] else []
  | stop, c => if c.after.isEmpty then [c] else []
  | boundary word, c => if atBoundary word c then [c] else []
  | behind a, c =>
    if (Cursor.back c.before c.after).any fun b =>
        (a.ends b).any fun e => e.after.length == c.after.length then [c]
    else []

def test (r : Pattern α) (text : List α) : Bool :=
  (Cursor.forward [] text).any fun c => !(r.ends c).isEmpty

/-- One after the other. -/
def all : List (Pattern α) → Pattern α
  | [] => empty
  | [r] => r
  | r :: rest => seq r (all rest)

/-- One of them. -/
def any : List (Pattern α) → Pattern α
  | [] => letter fun _ => false
  | [r] => r
  | r :: rest => alt r (any rest)

def optional (r : Pattern α) : Pattern α := repeated r 0 (some 1)

def exactly [DecidableEq α] (letters : List α) : Pattern α :=
  all (letters.map fun x => letter (· = x))

lemma whole_of_mem_forward {before after : List α} {c : Cursor α}
    (h : c ∈ Cursor.forward before after) :
    c.before.reverse ++ c.after = before.reverse ++ after := by
  induction after generalizing before with
  | nil => rw [List.mem_singleton.mp h]
  | cons x after ih =>
    rcases List.mem_cons.mp h with rfl | h
    · rfl
    · rw [ih h]; simp

lemma mem_forward (moved before : List α) {after : List α} :
    ⟨moved.reverse ++ before, after⟩ ∈ Cursor.forward before (moved ++ after) := by
  induction moved generalizing before with
  | nil => cases after <;> simp [Cursor.forward]
  | cons x moved ih => simpa [Cursor.forward] using .inr (ih (x :: before))

lemma mem_forward_of_mem_back {before after : List α} {c : Cursor α}
    (h : c ∈ Cursor.back before after) : c ∈ Cursor.forward [] (before.reverse ++ after) := by
  induction before generalizing after with
  | nil => rw [List.mem_singleton.mp h]; exact mem_forward [] _
  | cons x before ih =>
    rcases List.mem_cons.mp h with rfl | h
    · simpa using mem_forward (x :: before).reverse []
    · simpa using ih h

/-- There is no match; what is looked back for is searched only once. -/
def absent : Pattern α → List α → Bool
  | seq (behind a) b, text =>
    ((Cursor.forward [] text).flatMap a.ends).all fun e => (Cursor.forward [] text).all fun c =>
      e.after.length != c.after.length || (b.ends c).isEmpty
  | r, text => !r.test text

lemma ends_of_absent {r : Pattern α} {text : List α} (h : r.absent text) :
    ∀ c ∈ Cursor.forward [] text, r.ends c = [] := by
  intro c hc
  unfold absent at h
  split at h
  · simp only [ends]
    split
    case isTrue hbehind =>
      obtain ⟨d, hd, hbehind⟩ := List.any_eq_true.mp hbehind
      obtain ⟨e, he, hlength⟩ := List.any_eq_true.mp hbehind
      have hd := mem_forward_of_mem_back hd
      rw [whole_of_mem_forward hc] at hd
      have hb := List.all_eq_true.mp
        (List.all_eq_true.mp h e (List.mem_flatMap.mpr ⟨d, hd, he⟩)) c hc
      simpa [beq_iff_eq.mp hlength] using hb
    case isFalse => rfl
  · simp only [test, Bool.not_eq_true', List.any_eq_false] at h
    simpa using h c hc

end Pattern
