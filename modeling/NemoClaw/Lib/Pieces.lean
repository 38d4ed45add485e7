import Mathlib.Data.List.DropRight
import Mathlib.Tactic

/- Texts that arrive in pieces.

A reader takes a text letter by letter and keeps the lines that are complete, the line it
is in, and whether it has just seen a carriage return. However the text is cut into pieces,
the reader ends in the same state, so what it has is a matter of the text alone.

What is provided:
  1. `rtake_append_rtake` — the last letters of a text need only the last letters of what
     came before.
  2. `Lines` — the lines of a text.
  3. `Reader` — `lines_finish`: its lines are those of the text.
-/
namespace Pieces

open List

variable {α : Type}

lemma length_rtake (xs : List α) (n : ℕ) : (xs.rtake n).length = min n xs.length := by
  rw [List.rtake, length_drop]; omega

lemma rtake_of_length_le {xs : List α} {n : ℕ} (h : xs.length ≤ n) : xs.rtake n = xs := by
  rw [List.rtake, Nat.sub_eq_zero_of_le h, drop_zero]

lemma rtake_append_of_le {xs ys : List α} {n : ℕ} (h : n ≤ ys.length) :
    (xs ++ ys).rtake n = ys.rtake n := by
  rw [List.rtake, List.rtake, length_append, drop_append]
  have hlen : xs.length ≤ xs.length + ys.length - n := by omega
  rw [drop_eq_nil_of_le hlen, nil_append]
  congr 1; omega

theorem rtake_append_rtake (xs ys : List α) (n : ℕ) :
    (xs.rtake n ++ ys).rtake n = (xs ++ ys).rtake n := by
  rcases Nat.le_total xs.length n with hle | hle
  · rw [rtake_of_length_le hle]
  have hsplit : xs = xs.take (xs.length - n) ++ xs.rtake n := (take_append_drop _ xs).symm
  have hlen : n ≤ (xs.rtake n ++ ys).length := by
    rw [length_append, length_rtake]; omega
  conv_rhs => rw [hsplit, append_assoc]
  exact (rtake_append_of_le hlen).symm

section Lines

variable (cr lf : α)

def Unbroken (text : List α) : Prop := ∀ x ∈ text, x ≠ cr ∧ x ≠ lf

/-- What ends a line before the rest of a text: both marks, or one alone. -/
inductive Ending (rest : List α) : List α → Prop
  | both : Ending rest [cr, lf]
  | feed : Ending rest [lf]
  | carriage (h : rest.head? ≠ some lf) : Ending rest [cr]

inductive Lines : List α → List (List α) → Prop
  | nil : Lines [] []
  | last {line : List α} (hne : line ≠ []) (h : Unbroken cr lf line) : Lines line [line]
  | line {line ending rest : List α} {lines : List (List α)} (h : Unbroken cr lf line)
      (hending : Ending cr lf rest ending) (hrest : Lines rest lines) :
      Lines (line ++ (ending ++ rest)) (line :: lines)

variable {cr lf}

lemma Ending.cons {rest ending : List α} (h : Ending cr lf rest ending) :
    ∃ x tail, ending = x :: tail ∧ (x = cr ∨ x = lf) := by
  cases h with
  | both => exact ⟨cr, [lf], rfl, .inl rfl⟩
  | feed => exact ⟨lf, [], rfl, .inr rfl⟩
  | carriage h => exact ⟨cr, [], rfl, .inl rfl⟩

end Lines

/-! ## Reading letter by letter -/

/-- A reader: the complete lines, the line it is in, and whether the last letter was a
carriage return. -/
structure Reader (α : Type) where
  lines : List (List α)
  current : List α
  afterCarriage : Bool

namespace Reader

variable [DecidableEq α] (cr lf : α)

def start : Reader α := ⟨[], [], false⟩

def endLine (r : Reader α) (afterCarriage : Bool) : Reader α :=
  ⟨r.lines ++ [r.current], [], afterCarriage⟩

def feed (r : Reader α) (x : α) : Reader α :=
  if x = lf then if r.afterCarriage then { r with afterCarriage := false } else r.endLine false
  else if x = cr then r.endLine true
  else ⟨r.lines, r.current ++ [x], false⟩

def read (r : Reader α) (text : List α) : Reader α := text.foldl (feed cr lf) r

/-- The lines at the end of the text. -/
def finish (r : Reader α) : List (List α) :=
  r.lines ++ if r.current = [] then [] else [r.current]

variable {cr lf}

@[simp] lemma read_cons (r : Reader α) (x : α) (text : List α) :
    r.read cr lf (x :: text) = (r.feed cr lf x).read cr lf text := rfl

lemma read_append (r : Reader α) (text text' : List α) :
    r.read cr lf (text ++ text') = (r.read cr lf text).read cr lf text' := foldl_append

lemma feed_carriage (hne : cr ≠ lf) (r : Reader α) : r.feed cr lf cr = r.endLine true := by
  simp [feed, hne]

lemma feed_lineFeed {r : Reader α} (h : r.afterCarriage = false) :
    r.feed cr lf lf = r.endLine false := by
  simp [feed, h]

lemma feed_letter (r : Reader α) {x : α} (hcr : x ≠ cr) (hlf : x ≠ lf) :
    r.feed cr lf x = ⟨r.lines, r.current ++ [x], false⟩ := by
  simp [feed, hcr, hlf]

lemma feed_of_ne (lines : List (List α)) (current : List α) {x : α} (hx : x ≠ lf) :
    (Reader.mk lines current true).feed cr lf x = (Reader.mk lines current false).feed cr lf x := by
  simp [feed, hx, endLine]

lemma read_unbroken {text : List α} (h : Unbroken cr lf text) (lines : List (List α))
    (current : List α) :
    (Reader.mk lines current false).read cr lf text = ⟨lines, current ++ text, false⟩ := by
  induction text generalizing current with
  | nil => simp [read]
  | cons x text ih =>
    obtain ⟨hcr, hlf⟩ := h x (by simp)
    rw [read_cons, feed_letter _ hcr hlf, ih fun y hy => h y (by simp [hy])]; simp

lemma unbroken_or_ended (cr lf : α) (text : List α) :
    Unbroken cr lf text ∨ ∃ line ending rest, Unbroken cr lf line ∧ Ending cr lf rest ending ∧
      text = line ++ (ending ++ rest) := by
  induction text with
  | nil => exact .inl (by simp [Unbroken])
  | cons x text ih =>
    by_cases hlf : x = lf
    · exact .inr ⟨[], [lf], text, by simp [Unbroken], .feed, by simp [hlf]⟩
    by_cases hcr : x = cr
    · right
      cases text with
      | nil => exact ⟨[], [cr], [], by simp [Unbroken], .carriage (by simp), by simp [hcr]⟩
      | cons y rest =>
      by_cases hy : y = lf
      · exact ⟨[], [cr, lf], rest, by simp [Unbroken], .both, by simp [hcr, hy]⟩
      · exact ⟨[], [cr], y :: rest, by simp [Unbroken], .carriage (by simpa using hy),
          by simp [hcr]⟩
    · rcases ih with ih | ⟨line, ending, rest, hline, hending, rfl⟩
      · left
        intro y hy
        rcases mem_cons.mp hy with rfl | hy
        · exact ⟨hcr, hlf⟩
        · exact ih y hy
      · refine .inr ⟨x :: line, ending, rest, ?_, hending, rfl⟩
        intro y hy
        rcases mem_cons.mp hy with rfl | hy
        · exact ⟨hcr, hlf⟩
        · exact hline y hy

lemma finish_ending (hne : cr ≠ lf) {ending rest : List α} (h : Ending cr lf rest ending)
    (lines : List (List α)) (current : List α) :
    ((Reader.mk lines current false).read cr lf (ending ++ rest)).finish =
      ((Reader.mk (lines ++ [current]) [] false).read cr lf rest).finish := by
  cases h with
  | both =>
    have hfeed : (Reader.mk (lines ++ [current]) [] true).feed cr lf lf =
        ⟨lines ++ [current], [], false⟩ := by simp [feed]
    rw [cons_append, read_cons, feed_carriage hne, singleton_append, read_cons, endLine,
      hfeed]
  | feed => simp [feed, endLine]
  | carriage hhead =>
    rw [singleton_append, read_cons, feed_carriage hne]
    cases rest with
    | nil => rfl
    | cons x rest =>
      have hx : x ≠ lf := by simpa using hhead
      rw [read_cons, endLine, feed_of_ne _ _ hx, read_cons]

theorem lines_finish (hne : cr ≠ lf) (text : List α) :
    Lines cr lf text (start.read cr lf text).finish := by
  suffices haux : ∀ lines, ∃ found, Lines cr lf text found ∧
      ((Reader.mk lines [] false).read cr lf text).finish = lines ++ found by
    obtain ⟨found, hfound, heq⟩ := haux []
    rw [start, heq]; exact hfound
  induction hlen : text.length using Nat.strong_induction_on generalizing text with
  | _ n ih =>
    intro lines
    rcases unbroken_or_ended cr lf text with h | ⟨line, ending, rest, hline,
      hending, rfl⟩
    · rw [read_unbroken h]
      by_cases htext : text = []
      · exact ⟨[], htext ▸ .nil, by simp [finish, htext]⟩
      · exact ⟨[text], .last htext h, by simp [finish, htext]⟩
    · have hshorter : rest.length < n := by
        obtain ⟨x, tail, rfl, -⟩ := hending.cons; simp at hlen; omega
      obtain ⟨found, hfound, heq⟩ := ih rest.length hshorter rest rfl (lines ++ [line])
      refine ⟨line :: found, .line hline hending hfound, ?_⟩
      rw [read_append, read_unbroken hline, finish_ending hne hending, nil_append, heq]
      simp

end Reader

end Pieces
