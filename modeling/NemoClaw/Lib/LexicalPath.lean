import Mathlib.Tactic

/- Where a path leads when only its text is read.

A path is followed segment by segment from the root or from where it is read: a segment
stays, goes up, or goes down to a name. What is reached is a location; two spellings of a
path are the same lexically if they lead to one location.

What is provided:
  1. `Location`, `follow` — the walk over the segments of a path.
  2. `follow_segments` — every location has a path of its own, its normal spelling.
  3. `mem_names_follow` — every name of a location is one of the path.
-/
namespace LexicalPath

open List

variable {α : Type}

inductive Segment (α : Type) where
  | here
  | up
  | name (a : α)
  deriving DecidableEq

/-- The root, or so many levels above the place where a relative path is read. -/
inductive Base where
  | root
  | above (levels : ℕ)
  deriving DecidableEq

structure Location (α : Type) where
  base : Base
  names : List α := []
  deriving DecidableEq

def Base.parent : Base → Base
  | .root => .root
  | .above levels => .above (levels + 1)

namespace Location

def step (l : Location α) : Segment α → Location α
  | .here => l
  | .up => if l.names = [] then { l with base := l.base.parent }
    else { l with names := l.names.dropLast }
  | .name a => { l with names := l.names ++ [a] }

variable (l : Location α)

lemma step_up : l.step .up =
    if l.names = [] then { l with base := l.base.parent }
    else { l with names := l.names.dropLast } := rfl

def follow (l : Location α) (path : List (Segment α)) : Location α := path.foldl step l

@[simp] lemma follow_nil : l.follow [] = l := rfl

@[simp] lemma follow_cons (segment : Segment α) (path : List (Segment α)) :
    l.follow (segment :: path) = (l.step segment).follow path := rfl

lemma follow_append (path path' : List (Segment α)) :
    l.follow (path ++ path') = (l.follow path).follow path' := foldl_append

/-- The levels that are gone up, and then the names. -/
def segments (l : Location α) : List (Segment α) :=
  (match l.base with
    | .root => []
    | .above levels => List.replicate levels .up) ++ l.names.map .name

lemma follow_names (names : List α) :
    l.follow (names.map .name) = { l with names := l.names ++ names } := by
  induction names generalizing l with
  | nil => simp
  | cons a names ih => rw [map_cons, follow_cons, ih]; simp [step]

lemma follow_ups (levels more : ℕ) :
    follow (⟨.above levels, []⟩ : Location α) (List.replicate more .up) =
      ⟨.above (levels + more), []⟩ := by
  induction more generalizing levels with
  | zero => rfl
  | succ more ih =>
    rw [replicate_succ, follow_cons]
    show follow ⟨.above (levels + 1), []⟩ _ = _
    rw [ih, Nat.add_right_comm]; rfl

/-- Where a path starts: at the root or where it is read. -/
def start (absolute : Bool) : Location α := ⟨if absolute then .root else .above 0, []⟩

theorem follow_segments : (start (l.base = .root)).follow l.segments = l := by
  unfold segments start
  rw [follow_append]
  cases hbase : l.base with
  | root => rw [decide_eq_true rfl, if_pos rfl, follow_nil, follow_names, ← hbase]; rfl
  | above levels =>
    rw [decide_eq_false (by simp), if_neg (by decide), follow_ups, Nat.zero_add, follow_names,
      ← hbase]
    rfl

theorem mem_names_follow {l : Location α} {path : List (Segment α)} {a : α}
    (h : a ∈ (l.follow path).names) : a ∈ l.names ∨ .name a ∈ path := by
  induction path generalizing l with
  | nil => exact .inl h
  | cons segment path ih =>
    rw [follow_cons] at h
    rcases ih h with hstep | hpath
    · cases segment with
      | here => exact .inl hstep
      | up =>
        rw [step_up] at hstep
        split at hstep
        · exact .inl hstep
        · exact .inl (mem_of_mem_dropLast hstep)
      | name b =>
        rcases mem_append.mp hstep with hold | hnew
        · exact .inl hold
        · rw [mem_singleton.mp hnew]; exact .inr mem_cons_self
    · exact .inr (mem_cons_of_mem _ hpath)

lemma base_step (segment : Segment α) : (l.step segment).base = .root ↔ l.base = .root := by
  cases segment with
  | here => exact Iff.rfl
  | up =>
    rw [step_up]
    split
    · cases hbase : l.base with
      | root => exact iff_of_true rfl rfl
      | above levels => exact iff_of_false nofun nofun
    · exact Iff.rfl
  | name a => exact Iff.rfl

/-- A path that starts at the root stays below it, and no other path reaches it. -/
lemma base_follow (path : List (Segment α)) : (l.follow path).base = .root ↔ l.base = .root := by
  induction path generalizing l with
  | nil => exact Iff.rfl
  | cons segment path ih => exact (ih _).trans (base_step l segment)

end Location

end LexicalPath
