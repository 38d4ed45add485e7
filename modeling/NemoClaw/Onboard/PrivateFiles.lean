import Mathlib.Data.List.AList
import NemoClaw.Lib.CallTree

/- The private files of a journal directory.

A journal store writes a file under a temporary name and then links it at its own name,
where there must be none, or renames it over what is there. A file that is linked at
both names has two links until the temporary name is removed, and a reader refuses it.

Correspondence (managed-bootstrap/docker-journal.ts and podman-bootstrap-journal.ts,
which have the same text ↔ Lean): `readPrivateFile` and `atomicWrite` keep their names.
What is in a temporary file is known to its writer only, so the calls that put it in
place carry its contents. Calls that change no name and no contents (fsync, close,
chmod) are left out. Temporary names are not used twice: they hold a random UUID, or
the process ID and the time.
-/
namespace NemoClaw.PrivateFiles

open CallTree List

/-- A file: its contents, and the temporary names that it is linked at as well. -/
structure File (C : Type) where
  content : C
  temporaries : List ℕ
  deriving DecidableEq

def File.nlink {C : Type} (f : File C) : ℕ := f.temporaries.length + 1

/-- The files by name, the temporary names of files that have no other, and the number of
the next temporary name. -/
structure Files (T C : Type) where
  files : AList fun _ : T => File C
  loose : List (T × ℕ)
  next : ℕ

/-- A name in the directory. -/
inductive Entry (T : Type) where
  | file (x : T)
  | temporary (x : T) (n : ℕ)

inductive FsCall (T C : Type) where
  /-- open, fstat and read -/
  | read (x : T)
  | openTemporary (x : T)
  | write (x : T) (n : ℕ) (c : C)
  | link (x : T) (n : ℕ) (c : C)
  | unlinkTemporary (x : T) (n : ℕ)
  | rename (x : T) (n : ℕ) (c : C)
  | unlink (x : T)
  | readdir

/-- A boolean answer says whether there was no EEXIST or no ENOENT. -/
def FsCall.Answer {T C : Type} : FsCall T C → Type
  | read _ => Option (File C)
  | openTemporary _ => ℕ
  | write .. => Unit
  | link .. => Bool
  | unlinkTemporary .. => Bool
  | rename .. => Unit
  | unlink _ => Bool
  | readdir => List (Entry T)

variable {T C : Type} [DecidableEq T]

namespace Files

def empty : Files T C := ⟨∅, [], 0⟩

/-- The temporary names of the file at a name that is about to be gone. -/
def left (d : Files T C) (x : T) : List (T × ℕ) :=
  ((d.files.lookup x).map (·.temporaries)).getD [] |>.map fun n => (x, n)

def entries (d : Files T C) : List (Entry T) :=
  d.files.entries.flatMap (fun e => .file e.1 :: e.2.temporaries.map (.temporary e.1)) ++
    d.loose.map fun e => .temporary e.1 e.2

def exec (d : Files T C) : (q : FsCall T C) → Files T C × q.Answer
  | .read x => (d, d.files.lookup x)
  | .openTemporary x => ({ d with loose := (x, d.next) :: d.loose, next := d.next + 1 }, d.next)
  | .write _ _ _ => (d, ())
  | .link x n c =>
    match d.files.lookup x with
    | some _ => (d, false)
    | none =>
      ({ d with files := d.files.insert x ⟨c, [n]⟩, loose := d.loose.filter (· ≠ (x, n)) }, true)
  | .unlinkTemporary x n =>
    if (x, n) ∈ d.loose then ({ d with loose := d.loose.filter (· ≠ (x, n)) }, true)
    else match d.files.lookup x with
      | none => (d, false)
      | some f =>
        if n ∈ f.temporaries then
          ({ d with files := d.files.insert x ⟨f.content, f.temporaries.filter (· ≠ n)⟩ }, true)
        else (d, false)
  | .rename x n c =>
    ({ d with
        files := d.files.insert x ⟨c, []⟩
        loose := d.left x ++ d.loose.filter (· ≠ (x, n)) }, ())
  | .unlink x =>
    match d.files.lookup x with
    | none => (d, false)
    | some _ => ({ d with files := d.files.erase x, loose := d.left x ++ d.loose }, true)
  | .readdir => (d, d.entries)

end Files

/-! ### Calls that only add -/

def Files.contents (d : Files T C) (x : T) : Option C := (d.files.lookup x).map (·.content)

/-- The call takes no file away. -/
def FsCall.Adds {T C : Type} : FsCall T C → Prop
  | rename _ _ _ | unlink _ => False
  | _ => True

lemma contents_insert_of {files : AList fun _ : T => File C} {x y : T} {f : File C} {c : C}
    (hf : ∀ g, files.lookup x = some g → g.content = f.content)
    (h : (files.lookup y).map (·.content) = some c) :
    ((files.insert x f).lookup y).map (·.content) = some c := by
  by_cases hy : y = x
  · subst hy
    obtain ⟨g, hg, rfl⟩ := Option.map_eq_some_iff.mp h
    rw [AList.lookup_insert, hf g hg]; rfl
  · rw [AList.lookup_insert_ne hy, h]

lemma Files.exec_contents {d : Files T C} {q : FsCall T C} (hq : q.Adds) {x : T} {c : C}
    (h : d.contents x = some c) : (d.exec q).1.contents x = some c := by
  cases q with
  | link y n c' =>
    simp only [Files.exec]
    split
    · exact h
    next hfree =>
    refine contents_insert_of (fun g hg => ?_) h
    rw [hfree] at hg; cases hg
  | unlinkTemporary y n =>
    simp only [Files.exec]
    split
    · exact h
    split
    · exact h
    next f hf =>
    split
    · refine contents_insert_of (fun g hg => ?_) h
      rw [hf] at hg
      cases hg; rfl
    · exact h
  | rename y n c' => exact hq.elim
  | unlink y => exact hq.elim
  | _ => exact h

lemma Files.exec_new {d : Files T C} {q : FsCall T C} (hq : q.Adds) {x : T} {c : C}
    (h : (d.exec q).1.contents x = some c) : d.contents x = some c ∨ ∃ n, q = .link x n c := by
  cases q with
  | link y n c' =>
    have hnew : ((d.exec (.link y n c')).1.files.lookup x).map (·.content) = some c := h
    simp only [Files.exec] at hnew
    split at hnew
    · exact .inl hnew
    by_cases hx : x = y
    · subst hx
      rw [AList.lookup_insert] at hnew
      cases hnew; exact .inr ⟨n, rfl⟩
    · rw [AList.lookup_insert_ne hx] at hnew; exact .inl hnew
  | unlinkTemporary y n =>
    have hnew : ((d.exec (.unlinkTemporary y n)).1.files.lookup x).map (·.content) = some c := h
    simp only [Files.exec] at hnew
    split at hnew
    · exact .inl hnew
    split at hnew
    · exact .inl hnew
    next f hf =>
    split at hnew
    · by_cases hx : x = y
      · subst hx
        rw [AList.lookup_insert] at hnew
        refine .inl ?_
        show (d.files.lookup x).map (·.content) = some c
        rw [hf]; exact hnew
      · rw [AList.lookup_insert_ne hx] at hnew; exact .inl hnew
    · exact .inl hnew
  | rename y n c' => exact hq.elim
  | unlink y => exact hq.elim
  | _ => exact .inl h

lemma Files.contents_of_link {d : Files T C} {x : T} {n : ℕ} {c : C}
    (h : (d.exec (.link x n c)).2 = true) : (d.exec (.link x n c)).1.contents x = some c := by
  cases hx : d.files.lookup x with
  | some f => simp only [Files.exec, hx] at h; cases h
  | none =>
    show ((d.exec (.link x n c)).1.files.lookup x).map (·.content) = some c
    simp only [Files.exec, hx]
    rw [AList.lookup_insert]; rfl

/-- What is thrown: the error of an exclusive publication that finds the name taken, that
of a missing file, or one with a text. -/
inductive Failure where
  | entryExists
  | noEntry
  | invalid (message : String)
  deriving DecidableEq

lemma bind_eq_ok {α β : Type} {x : Except Failure α} {f : α → Except Failure β} {b : β} :
    x >>= f = .ok b ↔ ∃ a, x = .ok a ∧ f a = .ok b := by
  cases x with
  | ok a =>
    constructor
    · intro h; exact ⟨a, rfl, h⟩
    · rintro ⟨a', ha, h⟩
      cases ha; exact h
  | error e =>
    constructor
    · intro h; cases h
    · rintro ⟨a, ha, -⟩; cases ha

lemma pure_eq_ok {α : Type} {a b : α} : (pure a : Except Failure α) = .ok b ↔ b = a := by
  constructor
  · intro h; exact (Except.ok.inj h).symm
  · rintro rfl; rfl

lemma error_ne_ok {α : Type} {e : Failure} {a : α} {p : Prop}
    (h : (Except.error e : Except Failure α) = .ok a) : p := by
  cases h

abbrev Program (T C α : Type) := Tree (FsCall T C) FsCall.Answer Failure α

def fail {α : Type} (message : String) : Program T C α := throw (.invalid message)

/-! Each call, with the type of its answer. -/

def readSync (x : T) : Program T C (Option (File C)) := Tree.ask (FsCall.read x)

def openSync (x : T) : Program T C ℕ := Tree.ask (FsCall.openTemporary x)

def writeFileSync (x : T) (n : ℕ) (c : C) : Program T C Unit := Tree.ask (FsCall.write x n c)

def linkSync (x : T) (n : ℕ) (c : C) : Program T C Bool := Tree.ask (FsCall.link x n c)

def renameSync (x : T) (n : ℕ) (c : C) : Program T C Unit := Tree.ask (FsCall.rename x n c)

def unlinkTemporary (x : T) (n : ℕ) : Program T C Bool := Tree.ask (FsCall.unlinkTemporary x n)

def unlinkName (x : T) : Program T C Bool := Tree.ask (FsCall.unlink x)

def readdirSync : Program T C (List (Entry T)) := Tree.ask FsCall.readdir

def readPrivateFile (x : T) (label : String) : Program T C (Option C) := do
  match ← readSync x with
  | none => return none
  | some f =>
    if f.nlink ≠ 1 then fail (label ++ " file ownership boundary is invalid")
    else return some f.content

/-- The temporary name is removed, if it is still there. -/
def cleanup (x : T) (n : ℕ) : Program T C Unit := do
  let _ ← unlinkTemporary x n
  return ()

/-- An error of a publication goes on to the caller after the cleanup. -/
def cleanupAndThrow (x : T) (n : ℕ) (e : Failure) : Program T C Unit := do
  cleanup x n
  throw e

def atomicWrite (x : T) (contents : C) (exclusive : Bool) : Program T C Unit := do
  let n ← openSync x
  writeFileSync x n contents
  if exclusive then
    if ← linkSync x n contents then
      if ← unlinkTemporary x n then cleanup x n
      else cleanupAndThrow x n .noEntry
    else cleanupAndThrow x n .entryExists
  else
    renameSync x n contents
    cleanup x n

/-- `fs.unlinkSync`. -/
def unlinkSync (x : T) : Program T C Unit := do
  if ← unlinkName x then return () else throw .noEntry

/-! ## Alone -/

/-- What a program keeps: the files, and that it makes names of the given kind only. -/
structure Keeps (ok : T → Prop) (P : (AList fun _ : T => File C) → Prop) (d d' : Files T C) :
    Prop where
  files : P d.files → P d'.files
  loose : (∀ e ∈ d.loose, ok e.1) → ∀ e ∈ d'.loose, ok e.1

/-- A program that runs alone, all of whose calls keep that. -/
abbrev Runs {α : Type} (ok : T → Prop) (P : (AList fun _ : T => File C) → Prop)
    (post : Files T C → Except Failure α → Prop) (t : Program T C α) (d : Files T C) : Prop :=
  Safe Files.exec Eq (fun _ _ => True) (Keeps ok P) post t d

section Runs

variable {α β : Type} {ok : T → Prop} {P : (AList fun _ : T => File C) → Prop} {d : Files T C}
  {post : Files T C → Except Failure α → Prop} {x : T} {c : C}

omit [DecidableEq T] in
lemma Keeps.same : Keeps ok P d d := ⟨fun hP => hP, fun hloose => hloose⟩

lemma Runs.done {r : Except Failure α} (h : post d r) : Runs ok P post (.done r) d := by
  rintro d' rfl; exact h

lemma Runs.bind {t : Program T C α} {f : α → Program T C β}
    {post' : Files T C → Except Failure β → Prop} (h : Runs ok P post t d)
    (hok : ∀ d a, post d (.ok a) → Runs ok P post' (f a) d)
    (herror : ∀ d e, post d (.error e) → post' d (.error e)) : Runs ok P post' (t.bind f) d :=
  Safe.bind (fun _ => rfl) h hok herror

lemma Runs.lift {r : Except Failure α} {f : α → Program T C β}
    {post' : Files T C → Except Failure β → Prop}
    (hok : ∀ a, r = .ok a → Runs ok P post' (f a) d)
    (herror : ∀ e, r = .error e → post' d (.error e)) :
    Runs ok P post' ((Tree.lift r).bind f) d := by
  cases r with
  | ok a => exact hok a rfl
  | error e => exact .done (herror e rfl)

lemma Runs.ask {q : FsCall T C} {post : Files T C → Except Failure q.Answer → Prop}
    (hkeep : Keeps ok P d (d.exec q).1) (h : post (d.exec q).1 (.ok (d.exec q).2)) :
    Runs ok P post (Tree.ask q) d := by
  rintro d' rfl -; exact ⟨hkeep, Runs.done h⟩

/-! Calls one by one. -/

lemma readSync_runs :
    Runs ok P (fun d' r => d' = d ∧ r = .ok (d.files.lookup x)) (readSync x) d :=
  Runs.ask .same ⟨rfl, rfl⟩

lemma openSync_runs (hx : ok x) :
    Runs ok P (fun d' r => d'.files = d.files ∧ ∃ n, r = .ok n ∧ (x, n) ∈ d'.loose)
      (openSync x) d := by
  refine Runs.ask ⟨fun hP => hP, fun hloose e he => ?_⟩ ⟨rfl, d.next, rfl, mem_cons_self⟩
  rcases mem_cons.mp he with rfl | he
  · exact hx
  · exact hloose e he

variable {n : ℕ}

lemma writeFileSync_runs : Runs ok P (fun d' r => d' = d ∧ r = .ok ()) (writeFileSync x n c) d :=
  Runs.ask .same ⟨rfl, rfl⟩

lemma loose_left {rest : List (T × ℕ)} (hx : ok x) (hrest : ∀ e ∈ rest, ok e.1) :
    ∀ e ∈ d.left x ++ rest, ok e.1 := by
  intro e he
  rcases mem_append.mp he with he | he
  · obtain ⟨n, -, rfl⟩ := mem_map.mp he; exact hx
  · exact hrest e he

omit [DecidableEq T] in
lemma loose_filter {p : T × ℕ → Bool} (h : ∀ e ∈ d.loose, ok e.1) :
    ∀ e ∈ d.loose.filter p, ok e.1 := fun e he => h e (mem_of_mem_filter he)

lemma renameSync_runs (hx : ok x) (hkeep : P d.files → P (d.files.insert x ⟨c, []⟩)) :
    Runs ok P (fun d' r => d'.files = d.files.insert x ⟨c, []⟩ ∧ r = .ok ())
      (renameSync x n c) d :=
  Runs.ask ⟨hkeep, fun hloose => loose_left hx (loose_filter hloose)⟩ ⟨rfl, rfl⟩

lemma linkSync_runs (hfree : d.files.lookup x = none)
    (hkeep : P d.files → P (d.files.insert x ⟨c, [n]⟩)) :
    Runs ok P
      (fun d' r => d'.files = d.files.insert x ⟨c, [n]⟩ ∧ (x, n) ∉ d'.loose ∧ r = .ok true)
      (linkSync x n c) d := by
  have hexec : d.exec (.link x n c) =
      ({ d with files := d.files.insert x ⟨c, [n]⟩, loose := d.loose.filter (· ≠ (x, n)) },
        true) := by
    simp only [Files.exec, hfree]; rfl
  have hloose : (x, n) ∉ d.loose.filter (· ≠ (x, n)) := by simp
  refine Runs.ask ?_ ?_
  · rw [hexec]; exact ⟨hkeep, loose_filter⟩
  · rw [hexec]; exact ⟨rfl, hloose, rfl⟩

lemma linkSync_taken {f : File C} (htaken : d.files.lookup x = some f) :
    Runs ok P (fun d' r => d' = d ∧ r = .ok false) (linkSync x n c) d := by
  have hexec : d.exec (.link x n c) = (d, false) := by
    simp only [Files.exec, htaken]; rfl
  refine Runs.ask ?_ ?_
  · rw [hexec]; exact .same
  · rw [hexec]; exact ⟨rfl, rfl⟩

lemma unlinkTemporary_runs (hloose : (x, n) ∉ d.loose) (hfile : d.files.lookup x = some ⟨c, [n]⟩)
    (hkeep : P d.files → P (d.files.insert x ⟨c, []⟩)) :
    Runs ok P (fun d' r => d'.files = d.files.insert x ⟨c, []⟩ ∧ r = .ok true)
      (unlinkTemporary x n) d := by
  have hexec : d.exec (.unlinkTemporary x n) =
      ({ d with files := d.files.insert x ⟨c, []⟩ }, true) := by
    simp only [Files.exec, if_neg hloose, hfile]
    rw [if_pos (by simp)]
    have hnil : [n].filter (· ≠ n) = [] := by simp
    rw [hnil]; rfl
  refine Runs.ask ?_ ?_
  · rw [hexec]; exact ⟨hkeep, fun hloose => hloose⟩
  · rw [hexec]; exact ⟨rfl, rfl⟩

/-- The removal of a temporary name that the file does not have leaves the files alone. -/
lemma cleanup_runs (h : (x, n) ∈ d.loose ∨ ∀ f ∈ d.files.lookup x, n ∉ f.temporaries) :
    Runs ok P (fun d' r => d'.files = d.files ∧ r = .ok ()) (cleanup x n) d := by
  have hsame : (d.exec (.unlinkTemporary x n)).1.files = d.files ∧
      (d.exec (.unlinkTemporary x n)).1.loose ⊆ d.loose := by
    simp only [Files.exec]
    split
    · exact ⟨rfl, filter_subset_self _⟩
    next habsent =>
    split
    · exact ⟨rfl, List.Subset.refl _⟩
    · next f hf =>
      rw [if_neg (h.resolve_left habsent f hf)]; exact ⟨rfl, List.Subset.refl _⟩
  have hask : Runs ok P (fun d' r => d'.files = d.files ∧ ∃ removed, r = .ok removed)
      (unlinkTemporary x n) d := by
    refine Runs.ask ⟨fun hP => ?_, fun hloose e he => hloose e (hsame.2 he)⟩ ⟨hsame.1, _, rfl⟩
    rwa [hsame.1]
  exact hask.bind (fun d' _ hd => .done ⟨hd.1, rfl⟩) fun d' e hd => nomatch hd.2

lemma cleanup_runs_named (hfile : d.files.lookup x = some ⟨c, []⟩) :
    Runs ok P (fun d' r => d'.files = d.files ∧ r = .ok ()) (cleanup x n) d := by
  refine cleanup_runs (.inr fun f hf => ?_)
  rw [hfile] at hf
  cases hf; exact not_mem_nil

lemma cleanupAndThrow_runs {e : Failure}
    (h : (x, n) ∈ d.loose ∨ ∀ f ∈ d.files.lookup x, n ∉ f.temporaries) :
    Runs ok P (fun d' r => d'.files = d.files ∧ r = .error e) (cleanupAndThrow x n e) d :=
  (cleanup_runs h).bind (fun _ _ hd => .done ⟨hd.1, rfl⟩) fun _ _ hd => nomatch hd.2

lemma readPrivateFile_same {label : String} :
    Runs ok P (fun d' _ => d' = d) (readPrivateFile x label) d := by
  refine readSync_runs.bind (fun d' file hd => ?_) fun _ _ hd => hd.1
  obtain ⟨rfl, -⟩ := hd
  cases file with
  | none => exact .done rfl
  | some f =>
  show Runs ok P _ (if f.nlink ≠ 1 then fail _ else pure (some f.content)) d'
  split <;> exact .done rfl

lemma readPrivateFile_runs {label : String}
    (h : ∀ f ∈ d.files.lookup x, f.temporaries = []) :
    Runs ok P (fun d' r => d' = d ∧ r = .ok ((d.files.lookup x).map (·.content)))
      (readPrivateFile x label) d := by
  refine readSync_runs.bind (fun d' file hd => ?_) fun _ _ hd => nomatch hd.2
  obtain ⟨rfl, hfile⟩ := hd
  cases hfile
  cases hfile : d'.files.lookup x with
  | none => exact .done ⟨rfl, rfl⟩
  | some f =>
  have hnlink : f.nlink = 1 := by
    unfold File.nlink
    rw [h f hfile]; rfl
  simp only [hnlink, ne_eq, not_true_eq_false, if_false]; exact .done ⟨rfl, rfl⟩

lemma readPrivateFile_linked {label : String} (h : d.files.lookup x = some ⟨c, [n]⟩) :
    Runs ok P
      (fun _ r => r = .error (.invalid (label ++ " file ownership boundary is invalid")))
      (readPrivateFile x label) d := by
  refine readSync_runs.bind (fun d' file hd => ?_) fun _ _ hd => nomatch hd.2
  obtain ⟨rfl, hfile⟩ := hd
  cases hfile
  rw [h]; exact .done rfl

lemma atomicWrite_replaces (hx : ok x) (hkeep : P d.files → P (d.files.insert x ⟨c, []⟩)) :
    Runs ok P (fun d' r => d'.files = d.files.insert x ⟨c, []⟩ ∧ r = .ok ())
      (atomicWrite x c false) d := by
  refine (openSync_runs hx).bind (fun d1 n hd1 => ?_) fun _ _ hd => nomatch hd.2
  obtain ⟨hfiles, -⟩ := hd1
  refine writeFileSync_runs.bind (fun d2 _ hd2 => ?_) fun _ _ hd => nomatch hd.2
  obtain ⟨rfl, -⟩ := hd2
  refine (renameSync_runs hx (hfiles ▸ hkeep)).bind (fun d3 _ hd3 => ?_)
    fun _ _ hd => nomatch hd.2
  have hfile : d3.files.lookup x = some ⟨c, []⟩ := by
    rw [hd3.1]; exact AList.lookup_insert _
  refine (cleanup_runs_named hfile).mono fun d4 r hd4 => ⟨?_, hd4.2⟩
  rw [hd4.1, hd3.1, hfiles]

/-- A free name is taken in one call, and the temporary name given up in the next. -/
lemma atomicWrite_publishes (hx : ok x) (hfree : d.files.lookup x = none)
    (hlink : ∀ n, P d.files → P (d.files.insert x ⟨c, [n]⟩))
    (hunlink : ∀ n, P (d.files.insert x ⟨c, [n]⟩) → P (d.files.insert x ⟨c, []⟩)) :
    Runs ok P (fun d' r => d'.files = d.files.insert x ⟨c, []⟩ ∧ r = .ok ())
      (atomicWrite x c true) d := by
  refine (openSync_runs hx).bind (fun d1 n hd1 => ?_) fun _ _ hd => nomatch hd.2
  obtain ⟨hfiles, -⟩ := hd1
  refine writeFileSync_runs.bind (fun d2 _ hd2 => ?_) fun _ _ hd => nomatch hd.2
  obtain ⟨rfl, -⟩ := hd2
  rw [← hfiles] at hfree hlink hunlink ⊢
  refine (linkSync_runs hfree (hlink n)).bind (fun d3 linked hd3 => ?_) fun _ _ hd => nomatch hd.2.2
  obtain ⟨hd3, hloose, hlinked⟩ := hd3
  cases hlinked
  have hinsert : d3.files.insert x ⟨c, []⟩ = d2.files.insert x ⟨c, []⟩ := by
    rw [hd3, AList.insert_insert]
  have hfile : d3.files.lookup x = some ⟨c, [n]⟩ := by
    rw [hd3]; exact AList.lookup_insert _
  have hkeep : P d3.files → P (d3.files.insert x ⟨c, []⟩) := by
    rw [hinsert, hd3]; exact hunlink n
  refine (unlinkTemporary_runs hloose hfile hkeep).bind (fun d4 removed hd4 => ?_)
    fun _ _ hd => nomatch hd.2
  obtain ⟨hd4, hremoved⟩ := hd4
  cases hremoved
  have hfile4 : d4.files.lookup x = some ⟨c, []⟩ := by
    rw [hd4]; exact AList.lookup_insert _
  refine (cleanup_runs_named hfile4).mono fun d5 r hd5 => ⟨?_, hd5.2⟩
  rw [hd5.1, hd4, hinsert]

lemma atomicWrite_exists (hx : ok x) {f : File C} (htaken : d.files.lookup x = some f) :
    Runs ok P (fun d' r => d'.files = d.files ∧ r = .error .entryExists)
      (atomicWrite x c true) d := by
  refine (openSync_runs hx).bind (fun d1 n hd1 => ?_) fun _ _ hd => nomatch hd.2
  obtain ⟨hfiles, n', hn', hloose⟩ := hd1
  cases hn'
  refine writeFileSync_runs.bind (fun d2 _ hd2 => ?_) fun _ _ hd => nomatch hd.2
  obtain ⟨rfl, -⟩ := hd2
  rw [← hfiles] at htaken ⊢
  refine (linkSync_taken htaken).bind (fun d3 linked hd3 => ?_) fun _ _ hd => nomatch hd.2
  obtain ⟨rfl, hlinked⟩ := hd3
  cases hlinked; exact cleanupAndThrow_runs (.inl hloose)

lemma unlinkSync_runs (hx : ok x) {f : File C} (hfile : d.files.lookup x = some f)
    (hkeep : P d.files → P (d.files.erase x)) :
    Runs ok P (fun d' r => d'.files = d.files.erase x ∧ r = .ok ()) (unlinkSync x) d := by
  have hexec : d.exec (.unlink x) =
      ({ d with files := d.files.erase x, loose := d.left x ++ d.loose }, true) := by
    simp only [Files.exec, hfile]; rfl
  have hask : Runs ok P (fun d' r => d'.files = d.files.erase x ∧ r = .ok true)
      (unlinkName x) d := by
    refine Runs.ask ?_ ?_
    · rw [hexec]; exact ⟨hkeep, fun hloose => loose_left hx hloose⟩
    · rw [hexec]; exact ⟨rfl, rfl⟩
  refine hask.bind (fun d' removed hd => ?_) fun _ _ hd => nomatch hd.2
  obtain ⟨hd, hremoved⟩ := hd
  cases hremoved; exact .done ⟨hd, rfl⟩

end Runs

end NemoClaw.PrivateFiles
