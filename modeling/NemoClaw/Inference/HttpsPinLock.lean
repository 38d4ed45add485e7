import NemoClaw.Inference.HttpsPinLifecycle
import NemoClaw.Lib.Runs

/- The lifecycle lock of the HTTPS pin adapter: a file.

Before each attempt to create the file, one that is older than the bound is removed: its
age is tested, and then whatever is at the path is unlinked. The holder unlinks the path
when its operation is over. Every call to the file system is one step, and the steps of any
number of processes interleave; a process may stop for good between any two of its steps.

What is proved:
  1. `Inv.step` — what each step preserves.
  2. `adapterLock_exclusive` — so nobody else is inside, and no change of the record is
     lost, in every run in which nobody keeps the lock longer than the bound and what is
     unlinked as stale is the file that was tested.
  3. `adapterLock_raced` — where it is another file, two processes are inside at once.

Correspondence (inference/https-pin-runtime-adapter.ts ↔ Lean): `clock`, `test` and
`unlinkStale` are `removeStaleLock`; `create`, `writeOwner` and `release` are
`tryAcquireAdapterLock` and what it returns. What is written into the file is never read
and is left out. Of the operation the changes of the record are modelled, each a read of
the state file and a write. Inode numbers are never reused.
-/
namespace NemoClaw.HttpsPinLock

open Js Runs HttpsPin List Function

/-- A process. -/
abbrev Proc := ℕ

/-- `STALE_LOCK_MS`. -/
def staleLockMs : ℕ := 30000

inductive RouteChange where
  | persist (routeId : String) (data : RoutePersistedMeta)
    (valid : isGeneration data.generation)
  | remove (routeId : String)

namespace RouteChange

def routeId : RouteChange → String
  | persist routeId _ _ => routeId
  | remove routeId => routeId

/-- The routes that `persistRouteState` or `removeRouteState` writes. -/
def routes (prior : Option AdapterState) : RouteChange → List (String × RoutePersistedMeta)
  | persist routeId data _ => setOwn (extractPersistedRoutes prior) routeId data
  | remove routeId => deleteKey (extractPersistedRoutes prior) routeId

def written (change : RouteChange) (prior : Option AdapterState) (state : AdapterState) :
    AdapterState := { state with routes := change.routes prior }

def apply (recorded : String → Option RoutePersistedMeta) :
    RouteChange → String → Option RoutePersistedMeta
  | persist routeId data _ => Function.update recorded routeId (some data)
  | remove routeId => Function.update recorded routeId none

lemma routes_valid (change : RouteChange) {prior : Option AdapterState} :
    ∀ entry ∈ change.routes prior, isGeneration entry.2.generation := by
  intro entry hentry
  have hprior : ∀ entry ∈ extractPersistedRoutes prior,
      isGeneration entry.2.generation := fun _ h => (mem_filter.mp h).2
  cases change with
  | persist routeId data valid =>
    cases mem_setOwn hentry with
    | inl hnew => exact hnew ▸ valid
    | inr hold => exact hprior entry hold
  | remove routeId => exact hprior entry (mem_of_mem_filter hentry)

lemma extract_routes (change : RouteChange) (prior : Option AdapterState)
    (state : AdapterState) (id : String) :
    (extractPersistedRoutes (some (change.written prior state))).lookup id =
      change.apply (fun id => (extractPersistedRoutes prior).lookup id) id := by
  have hread : extractPersistedRoutes (some (change.written prior state)) =
      change.routes prior := filter_eq_self.mpr change.routes_valid
  rw [hread]
  cases change with
  | persist routeId data valid => simp only [routes, apply, lookup_setOwn, update_apply]
  | remove routeId => simp only [routes, apply, lookup_deleteKey, update_apply]

lemma apply_other {change : RouteChange} {recorded : String → Option RoutePersistedMeta}
    {id : String} (h : change.routeId ≠ id) : change.apply recorded id = recorded id := by
  cases change <;> exact update_of_ne (Ne.symm h) _ _

lemma foldl_persisted {routeId : String} {data : RoutePersistedMeta}
    {valid : isGeneration data.generation} {later : List RouteChange}
    (h : ∀ change ∈ later, change.routeId ≠ routeId)
    (recorded : String → Option RoutePersistedMeta) (before : List RouteChange) :
    (before ++ persist routeId data valid :: later).foldl apply recorded routeId = some data := by
  rw [foldl_append, foldl_cons]
  have hset : apply (before.foldl apply recorded) (persist routeId data valid) routeId =
      some data := update_self _ _ _
  generalize apply (before.foldl apply recorded) (persist routeId data valid) = start at hset
  induction later generalizing start with
  | nil => exact hset
  | cons change rest ih =>
    rw [foldl_cons]
    refine ih (fun c hc => h c (mem_cons_of_mem _ hc)) _ ?_
    rw [apply_other (h change mem_cons_self)]; exact hset

end RouteChange

/-- The lock file; `creator` is who created it. -/
structure LockFile where
  ino : ℕ
  mtimeMs : ℕ
  creator : Proc

/-- The file system and the clock, with the changes that were made to the record. -/
structure Disk where
  nowMs : ℕ
  file : Option LockFile
  nextIno : ℕ
  stateFile : Option AdapterState
  changes : List RouteChange

def Disk.recorded (disk : Disk) (routeId : String) : Option RoutePersistedMeta :=
  (extractPersistedRoutes disk.stateFile).lookup routeId

/-- Where a process is. -/
inductive Local where
  | idle
  /-- has read the clock -/
  | clocked (nowMs : ℕ)
  /-- found this file too old -/
  | removing (ino : ℕ)
  | creating
  /-- created the file -/
  | created (ino : ℕ)
  /-- inside, with the state file as read -/
  | holding (ino : ℕ) (snapshot : Option (Option AdapterState))
  /-- the operation is over -/
  | releasing (ino : ℕ)
  | crashed

/-- One step of a process. -/
inductive Act where
  | clock
  | test
  | unlinkStale
  | create
  | writeOwner
  | writeFails
  | load
  | store (change : RouteChange) (state : AdapterState)
  | finish
  | release
  | releaseFails
  | crash

/-- What a step does to the file system and to the process that takes it. -/
def Act.perform (p : Proc) (disk : Disk) (l : Local) : Act → Option (Disk × Local)
  | clock =>
    match l with
    | .idle => some (disk, .clocked disk.nowMs)
    | _ => none
  | test =>
    match l with
    | .clocked nowMs =>
      match disk.file with
      | none => some (disk, .creating)
      | some file =>
        if file.mtimeMs + staleLockMs < nowMs then some (disk, .removing file.ino)
        else some (disk, .creating)
    | _ => none
  -- whatever is at the path, if there is anything
  | unlinkStale =>
    match l with
    | .removing _ => some ({ disk with file := none }, .creating)
    | _ => none
  | create =>
    match l with
    | .creating =>
      match disk.file with
      | some _ => some (disk, .idle)
      | none => some ({ disk with
          file := some ⟨disk.nextIno, disk.nowMs, p⟩
          nextIno := disk.nextIno + 1 }, .created disk.nextIno)
    | _ => none
  | writeOwner =>
    match l with
    | .created ino => some (disk, .holding ino none)
    | _ => none
  -- the file stays
  | writeFails =>
    match l with
    | .created _ => some (disk, .idle)
    | _ => none
  | load =>
    match l with
    | .holding ino _ => some (disk, .holding ino (some disk.stateFile))
    | _ => none
  | store change state =>
    match l with
    | .holding ino (some snapshot) => some ({ disk with
        stateFile := some (change.written snapshot state)
        changes := disk.changes ++ [change] }, .holding ino none)
    | _ => none
  | finish =>
    match l with
    | .holding ino _ => some (disk, .releasing ino)
    | _ => none
  | release =>
    match l with
    | .releasing _ => some ({ disk with file := none }, .idle)
    | _ => none
  | releaseFails =>
    match l with
    | .releasing _ => some (disk, .idle)
    | _ => none
  | crash =>
    match l with
    | .crashed => none
    | _ => some (disk, .crashed)

/-- The file system and every process. -/
structure World where
  disk : Disk
  procs : Proc → Local

/-- Time passes, or a process takes a step. -/
inductive Action where
  | tick (ms : ℕ)
  | act (p : Proc) (a : Act)

def World.step (w : World) : Action → Option World
  | .tick ms => some { w with disk := { w.disk with nowMs := w.disk.nowMs + ms } }
  | .act p a => (a.perform p w.disk (w.procs p)).map fun next =>
      { disk := next.1, procs := Function.update w.procs p next.2 }

def World.Inside (w : World) (p : Proc) : Prop :=
  ∃ ino snapshot, w.procs p = .holding ino snapshot

/-- The process created the file, and has not given it up. -/
def Local.Has (ino : ℕ) : Local → Prop
  | .created ino' | .holding ino' _ | .releasing ino' => ino' = ino
  | _ => False

/-- Nobody keeps the lock longer than the bound. -/
def KeptBriefly (w : World) : Action → Prop
  | .tick ms => ∀ p file, w.disk.file = some file → (w.procs p).Has file.ino →
      w.disk.nowMs + ms ≤ file.mtimeMs + staleLockMs
  | _ => True

def UnlinkedAsTested (w : World) : Action → Prop
  | .act p .unlinkStale => ∀ ino file, w.procs p = .removing ino → w.disk.file = some file →
      file.ino = ino
  | _ => True

/-! ## The invariant -/

/-- The process created the file that is there, and has not had it too long. -/
def Owns (disk : Disk) (p : Proc) (ino : ℕ) : Prop :=
  ∃ file, disk.file = some file ∧ file.ino = ino ∧ file.creator = p ∧
    disk.nowMs ≤ file.mtimeMs + staleLockMs

def Knows (w : World) (p : Proc) : Local → Prop
  | .idle | .creating | .crashed => True
  | .clocked nowMs => nowMs ≤ w.disk.nowMs
  -- the file is gone, or its creator has given it up
  | .removing ino => ino < w.disk.nextIno ∧ ∀ file, w.disk.file = some file → file.ino = ino →
      ¬(w.procs file.creator).Has ino
  | .created ino | .releasing ino => Owns w.disk p ino
  | .holding ino snapshot => Owns w.disk p ino ∧
      ∀ state, snapshot = some state → state = w.disk.stateFile

structure Inv (recorded0 : String → Option RoutePersistedMeta) (w : World) : Prop where
  fresh : ∀ file, w.disk.file = some file → file.ino < w.disk.nextIno
  procs : ∀ p, Knows w p (w.procs p)
  recorded : ∀ id, w.disk.recorded id = w.disk.changes.foldl RouteChange.apply recorded0 id

section Frame

variable {recorded0 : String → Option RoutePersistedMeta} {w w' : World} {p q : Proc}
  {disk : Disk} {l : Local}

lemma Knows.owns {ino : ℕ} (h : Knows w p (w.procs p)) (hhas : (w.procs p).Has ino) :
    Owns w.disk p ino := by
  cases hp : w.procs p with
  | created ino' => rw [hp] at h hhas; exact hhas ▸ h
  | holding ino' snapshot => rw [hp] at h hhas; exact hhas ▸ h.1
  | releasing ino' => rw [hp] at h hhas; exact hhas ▸ h
  | _ => rw [hp] at hhas; exact hhas.elim

/-- A step that leaves what `q` knows true. -/
structure Undisturbed (q : Proc) (w w' : World) : Prop where
  clock : w.disk.nowMs ≤ w'.disk.nowMs
  fresh : w.disk.nextIno ≤ w'.disk.nextIno
  same : ∀ file, w'.disk.file = some file → w.disk.file = some file ∨ w.disk.nextIno ≤ file.ino
  lost : ∀ c ino, ino < w.disk.nextIno → ¬(w.procs c).Has ino → ¬(w'.procs c).Has ino
  held : ∀ ino, (w.procs q).Has ino → Owns w.disk q ino →
    Owns w'.disk q ino ∧ w'.disk.stateFile = w.disk.stateFile

lemma Knows.frame (h : Undisturbed q w w') (hk : Knows w q (w.procs q)) :
    Knows w' q (w.procs q) := by
  have hheld := h.held
  cases hq : w.procs q with
  | idle | creating | crashed => trivial
  | clocked nowMs => rw [hq] at hk; exact le_trans hk h.clock
  | removing ino =>
    rw [hq] at hk
    refine ⟨hk.1.trans_le h.fresh, fun file hfile hino => h.lost _ _ hk.1 ?_⟩
    cases h.same file hfile with
    | inl hbefore => exact hk.2 file hbefore hino
    | inr hnew => have hlt := hk.1; omega
  | created ino => rw [hq] at hk hheld; exact (hheld ino rfl hk).1
  | releasing ino => rw [hq] at hk hheld; exact (hheld ino rfl hk).1
  | holding ino snapshot =>
    rw [hq] at hk hheld
    obtain ⟨howns, hstate⟩ := hheld ino rfl hk.1
    exact ⟨howns, fun state hsome => (hk.2 state hsome).trans hstate.symm⟩

/-- A step of `p` keeps the invariant if what `p` knows after it is true and the others are
undisturbed. -/
lemma Inv.of_act (hinv : Inv recorded0 w)
    (hfresh : ∀ file, disk.file = some file → file.ino < disk.nextIno)
    (hknows : Knows ⟨disk, Function.update w.procs p l⟩ p l)
    (hothers : ∀ q, q ≠ p → Undisturbed q w ⟨disk, Function.update w.procs p l⟩)
    (hrecorded : ∀ id, disk.recorded id = disk.changes.foldl RouteChange.apply recorded0 id) :
    Inv recorded0 ⟨disk, Function.update w.procs p l⟩ := by
  refine ⟨hfresh, fun q => ?_, hrecorded⟩
  show Knows _ q (Function.update w.procs p l q)
  by_cases hq : q = p
  · subst hq
    rw [update_self]; exact hknows
  · rw [update_of_ne hq]; exact (hinv.procs q).frame (hothers q hq)

/-- Only a file that is new can be had without having been had before. -/
lemma lost_update (h : ∀ ino, l.Has ino → ino < w.disk.nextIno → (w.procs p).Has ino)
    (c : Proc) (ino : ℕ) (hino : ino < w.disk.nextIno) (hnot : ¬(w.procs c).Has ino) :
    ¬(Function.update w.procs p l c).Has ino := by
  by_cases hc : c = p
  · subst hc
    rw [update_self]; exact fun hhas => hnot (h ino hhas hino)
  · rw [update_of_ne hc]; exact hnot

lemma Inv.of_local (hinv : Inv recorded0 w)
    (hhas : ∀ ino, l.Has ino → ino < w.disk.nextIno → (w.procs p).Has ino)
    (hknows : Knows ⟨w.disk, Function.update w.procs p l⟩ p l) :
    Inv recorded0 ⟨w.disk, Function.update w.procs p l⟩ :=
  hinv.of_act hinv.fresh hknows
    (fun _ _ => ⟨le_refl _, le_refl _, fun _ hfile => .inl hfile, lost_update hhas,
      fun _ _ howns => ⟨howns, rfl⟩⟩) hinv.recorded

/-- Nobody else is disturbed by the removal of a file that nobody else has. -/
lemma Inv.of_unlink (hinv : Inv recorded0 w) (hhas : ∀ ino, ¬l.Has ino)
    (hknows : Knows ⟨{ w.disk with file := none }, Function.update w.procs p l⟩ p l)
    (hfile : ∀ file, w.disk.file = some file → file.creator = p ∨
      ¬(w.procs file.creator).Has file.ino) :
    Inv recorded0 ⟨{ w.disk with file := none }, Function.update w.procs p l⟩ := by
  refine hinv.of_act nofun hknows (fun q hq => ?_) hinv.recorded
  refine ⟨le_refl _, le_refl _, nofun,
    lost_update fun ino h _ => absurd h (hhas ino), fun ino hother howns => ?_⟩
  obtain ⟨file, hthere, hino, hcreator, -⟩ := howns
  cases hfile file hthere with
  | inl hown => exact absurd (hcreator.symm.trans hown) hq
  | inr hnot => rw [hcreator, hino] at hnot; exact absurd hother hnot

end Frame

section Steps

variable {recorded0 : String → Option RoutePersistedMeta} {w : World} {p : Proc} {disk : Disk}
  {l : Local}

/-- What a step of each kind comes to. -/
inductive Performs (p : Proc) (disk : Disk) : Local → Act → Disk → Local → Prop
  | clock : Performs p disk .idle .clock disk (.clocked disk.nowMs)
  | absent {nowMs : ℕ} : disk.file = none →
    Performs p disk (.clocked nowMs) .test disk .creating
  | stale {nowMs : ℕ} {file : LockFile} : disk.file = some file →
    file.mtimeMs + staleLockMs < nowMs →
    Performs p disk (.clocked nowMs) .test disk (.removing file.ino)
  | young {nowMs : ℕ} : Performs p disk (.clocked nowMs) .test disk .creating
  | unlinkStale {ino : ℕ} :
    Performs p disk (.removing ino) .unlinkStale { disk with file := none } .creating
  | exists : Performs p disk .creating .create disk .idle
  | create : disk.file = none → Performs p disk .creating .create
    { disk with file := some ⟨disk.nextIno, disk.nowMs, p⟩, nextIno := disk.nextIno + 1 }
    (.created disk.nextIno)
  | writeOwner {ino : ℕ} : Performs p disk (.created ino) .writeOwner disk (.holding ino none)
  | writeFails {ino : ℕ} : Performs p disk (.created ino) .writeFails disk .idle
  | load {ino : ℕ} {snapshot : Option (Option AdapterState)} :
    Performs p disk (.holding ino snapshot) .load disk (.holding ino (some disk.stateFile))
  | store {ino : ℕ} {snapshot : Option AdapterState} {change : RouteChange}
    {state : AdapterState} : Performs p disk (.holding ino (some snapshot)) (.store change state)
      { disk with
        stateFile := some (change.written snapshot state)
        changes := disk.changes ++ [change] } (.holding ino none)
  | finish {ino : ℕ} {snapshot : Option (Option AdapterState)} :
    Performs p disk (.holding ino snapshot) .finish disk (.releasing ino)
  | release {ino : ℕ} :
    Performs p disk (.releasing ino) .release { disk with file := none } .idle
  | releaseFails {ino : ℕ} : Performs p disk (.releasing ino) .releaseFails disk .idle
  | crash {l : Local} : Performs p disk l .crash disk .crashed

lemma performs {disk' : Disk} {l' : Local} {a : Act}
    (h : a.perform p disk l = some (disk', l')) : Performs p disk l a disk' l' := by
  cases a <;> cases l <;> simp only [Act.perform, Option.some.injEq, Prod.mk.injEq, reduceCtorEq] at h
  case clock.idle =>
    obtain ⟨rfl, rfl⟩ := h; exact .clock
  case test.clocked nowMs =>
    split at h
    · next hfile =>
      cases h; exact .absent hfile
    · next file hfile =>
      split at h
      · next hstale =>
        cases h; exact .stale hfile hstale
      · cases h; exact .young
  case unlinkStale.removing =>
    obtain ⟨rfl, rfl⟩ := h; exact .unlinkStale
  case create.creating =>
    split at h
    · cases h; exact .exists
    · next hfile =>
      cases h; exact .create hfile
  case writeOwner.created =>
    obtain ⟨rfl, rfl⟩ := h; exact .writeOwner
  case writeFails.created =>
    obtain ⟨rfl, rfl⟩ := h; exact .writeFails
  case load.holding =>
    obtain ⟨rfl, rfl⟩ := h; exact .load
  case store.holding change state ino snapshot =>
    cases snapshot with
    | none => cases h
    | some snapshot => cases h; exact .store
  case finish.holding =>
    obtain ⟨rfl, rfl⟩ := h; exact .finish
  case release.releasing =>
    obtain ⟨rfl, rfl⟩ := h; exact .release
  case releaseFails.releasing =>
    obtain ⟨rfl, rfl⟩ := h; exact .releaseFails
  all_goals
    obtain ⟨rfl, rfl⟩ := h; exact .crash

section

variable (hinv : Inv recorded0 w)
include hinv

lemma store_inv {ino : ℕ} {change : RouteChange} {state : AdapterState}
    (hp : w.procs p = .holding ino (some w.disk.stateFile)) :
    Inv recorded0 ⟨{ w.disk with
        stateFile := some (change.written w.disk.stateFile state)
        changes := w.disk.changes ++ [change] }, Function.update w.procs p (.holding ino none)⟩ := by
  have hhas : (w.procs p).Has ino := by
    rw [hp]; exact rfl
  have howns : Owns w.disk p ino := (hinv.procs p).owns hhas
  refine hinv.of_act hinv.fresh ⟨howns, nofun⟩ (fun q hq => ?_) fun id => ?_
  · refine ⟨le_refl _, le_refl _, fun _ hfile => .inl hfile, lost_update fun ino' hnew _ => ?_,
      fun ino' _ hother => ?_⟩
    · have heq : ino = ino' := hnew; exact heq ▸ hhas
    · -- the file has one creator
      obtain ⟨file, hfile, -, hcreator, -⟩ := howns
      obtain ⟨file', hfile', -, hcreator', -⟩ := hother
      cases hfile.symm.trans hfile'; exact absurd (hcreator'.symm.trans hcreator) hq
  · have hrecorded : (fun id => (extractPersistedRoutes w.disk.stateFile).lookup id) =
        w.disk.changes.foldl RouteChange.apply recorded0 := funext hinv.recorded
    show (extractPersistedRoutes (some (change.written w.disk.stateFile state))).lookup id =
      (w.disk.changes ++ [change]).foldl RouteChange.apply recorded0 id
    rw [RouteChange.extract_routes, foldl_append, hrecorded]; rfl

lemma create_inv (hnone : w.disk.file = none) :
    Inv recorded0 ⟨{ w.disk with
        file := some ⟨w.disk.nextIno, w.disk.nowMs, p⟩, nextIno := w.disk.nextIno + 1 },
      Function.update w.procs p (.created w.disk.nextIno)⟩ := by
  refine hinv.of_act (fun file hfile => ?_) ⟨_, rfl, rfl, rfl, Nat.le_add_right _ _⟩
    (fun q _ => ?_) hinv.recorded
  · cases hfile; exact Nat.lt_succ_self _
  · refine ⟨le_refl _, Nat.le_succ _, fun file hfile => .inr ?_, lost_update fun ino hnew hino => ?_,
      fun ino _ howns => ?_⟩
    · cases hfile; exact le_refl _
    · have heq : w.disk.nextIno = ino := hnew; omega
    · obtain ⟨file, hfile, -⟩ := howns
      rw [hnone] at hfile; cases hfile

/-- A file is judged stale only if its creator has given it up, or it is gone already. -/
lemma stale_inv {nowMs : ℕ} {file : LockFile} (hp : w.procs p = .clocked nowMs)
    (hfile : w.disk.file = some file) (hstale : file.mtimeMs + staleLockMs < nowMs) :
    Inv recorded0 ⟨w.disk, Function.update w.procs p (.removing file.ino)⟩ := by
  have hclock := hinv.procs p
  rw [hp] at hclock
  have hnow : nowMs ≤ w.disk.nowMs := hclock
  refine hinv.of_local (fun ino h => h.elim) ⟨hinv.fresh file hfile, fun file' hthere hino => ?_⟩
  cases hfile.symm.trans hthere
  refine lost_update (l := .removing file.ino) (fun ino h => h.elim) file.creator file.ino (hinv.fresh file hfile) ?_
  intro hhas
  obtain ⟨own, hown, -, -, hyoung⟩ := (hinv.procs file.creator).owns hhas
  cases hfile.symm.trans hown; omega

lemma Inv.act {a : Act} (h : Performs p w.disk (w.procs p) a disk l)
    (htested : UnlinkedAsTested w (.act p a)) :
    Inv recorded0 ⟨disk, Function.update w.procs p l⟩ := by
  have hknows := hinv.procs p
  generalize hp : w.procs p = before at h hknows
  have hhad : ∀ {ino ino' : ℕ}, before.Has ino → ino = ino' → (w.procs p).Has ino' :=
    fun hhas heq => heq ▸ hp ▸ hhas
  cases h with
  | clock => exact hinv.of_local (fun _ h => h.elim) (le_refl w.disk.nowMs)
  | absent => exact hinv.of_local (fun _ h => h.elim) trivial
  | stale hfile hstale => exact stale_inv hinv hp hfile hstale
  | young => exact hinv.of_local (fun _ h => h.elim) trivial
  | unlinkStale =>
    refine hinv.of_unlink (fun _ h => h.elim) trivial fun file hfile => .inr ?_
    have hino := htested _ file hp hfile
    rw [hino]; exact hknows.2 file hfile hino
  | «exists» => exact hinv.of_local (fun _ h => h.elim) trivial
  | create hnone => exact create_inv hinv hnone
  | writeOwner => exact hinv.of_local (fun _ h _ => hhad rfl h) ⟨hknows, nofun⟩
  | writeFails => exact hinv.of_local (fun _ h => h.elim) trivial
  | load =>
    exact hinv.of_local (fun _ h _ => hhad rfl h)
      ⟨hknows.1, fun state h => (Option.some.inj h).symm⟩
  | store => obtain rfl := hknows.2 _ rfl; exact store_inv hinv hp
  | finish => exact hinv.of_local (fun _ h _ => hhad rfl h) hknows.1
  | release =>
    refine hinv.of_unlink (fun _ h => h.elim) trivial fun file hfile => .inl ?_
    obtain ⟨own, hown, -, hcreator, -⟩ := hknows
    cases hown.symm.trans hfile; exact hcreator
  | releaseFails => exact hinv.of_local (fun _ h => h.elim) trivial
  | crash => exact hinv.of_local (fun _ h => h.elim) trivial

lemma Inv.tick {ms : ℕ} (hbrief : KeptBriefly w (.tick ms)) :
    Inv recorded0 { w with disk := { w.disk with nowMs := w.disk.nowMs + ms } } := by
  refine ⟨hinv.fresh, fun q => ?_, hinv.recorded⟩
  have hstill : Undisturbed q w
      { w with disk := { w.disk with nowMs := w.disk.nowMs + ms } } := by
    refine ⟨Nat.le_add_right _ _, le_refl _, fun _ hfile => .inl hfile,
      fun _ _ _ hnot => hnot, fun ino hhas howns => ⟨?_, rfl⟩⟩
    obtain ⟨file, hfile, rfl, hcreator, -⟩ := howns
    exact ⟨file, hfile, rfl, hcreator, hbrief q file hfile hhas⟩
  exact Knows.frame (w := w) hstill (hinv.procs q)

theorem Inv.step {a : Action} {w' : World} (h : w.step a = some w') (hbrief : KeptBriefly w a)
    (htested : UnlinkedAsTested w a) : Inv recorded0 w' := by
  cases a with
  | tick ms => cases h; exact hinv.tick hbrief
  | act p a =>
    obtain ⟨next, hperform, rfl⟩ := Option.map_eq_some_iff.mp h
    exact hinv.act (performs hperform) htested

end

end Steps

structure Starts (w : World) : Prop where
  procs : ∀ p, w.procs p = .idle ∨ w.procs p = .crashed
  left : ∀ file, w.disk.file = some file → file.ino < w.disk.nextIno
  changes : w.disk.changes = []

lemma Starts.inv {w : World} (h : Starts w) : Inv w.disk.recorded w := by
  refine ⟨h.left, fun p => ?_, fun id => ?_⟩
  · cases h.procs p with
    | inl hidle => rw [hidle]; trivial
    | inr hcrashed => rw [hcrashed]; trivial
  · rw [h.changes]; rfl

lemma Inv.exclusive {recorded0 : String → Option RoutePersistedMeta} {w : World} {p q : Proc}
    (hinv : Inv recorded0 w) (hp : w.Inside p) (hq : w.Inside q) : p = q := by
  obtain ⟨ino, snapshot, hp⟩ := hp
  obtain ⟨ino', snapshot', hq⟩ := hq
  have hhas : (w.procs p).Has ino := by
    rw [hp]; exact rfl
  have hhas' : (w.procs q).Has ino' := by
    rw [hq]; exact rfl
  obtain ⟨file, hfile, -, hcreator, -⟩ := (hinv.procs p).owns hhas
  obtain ⟨file', hfile', -, hcreator', -⟩ := (hinv.procs q).owns hhas'
  cases hfile.symm.trans hfile'; exact hcreator.symm.trans hcreator'

/-- A route that was registered, and was not changed since, is recorded. -/
def NoneLost (w : World) : Prop :=
  ∀ before routeId data valid later,
    w.disk.changes = before ++ RouteChange.persist routeId data valid :: later →
    (∀ change ∈ later, change.routeId ≠ routeId) → w.disk.recorded routeId = some data

lemma Inv.noneLost {recorded0 : String → Option RoutePersistedMeta} {w : World}
    (hinv : Inv recorded0 w) : NoneLost w := by
  intro before routeId data valid later hchanges hlater
  rw [hinv.recorded routeId, hchanges]
  exact RouteChange.foldl_persisted hlater recorded0 before

/-- In every interleaving in which nobody keeps the lock longer than the bound, and what is
unlinked as stale is the file that was tested: nobody else is inside, and no route that was
registered is lost. -/
theorem adapterLock_exclusive {w0 w : World} {actions : List Action} (h0 : Starts w0)
    (hrun : run World.step w0 actions = some w)
    (hbrief : Along World.step KeptBriefly w0 actions)
    (htested : Along World.step UnlinkedAsTested w0 actions) :
    (∀ p q, w.Inside p → w.Inside q → p = q) ∧ NoneLost w := by
  have hinv : Inv w0.disk.recorded w :=
    (hbrief.and htested).invariant hrun
      (fun s a s' hstep hcond hs => hs.step hstep hcond.1 hcond.2) h0.inv
  exact ⟨fun p q hp hq => hinv.exclusive hp hq, hinv.noneLost⟩

/-- Process 7 crashed with the lock, more than the bound ago. -/
def leftWorld : World where
  disk := { nowMs := 30001, file := some ⟨0, 0, 7⟩, nextIno := 1, stateFile := none, changes := [] }
  procs := fun p => if p = 7 then .crashed else .idle

lemma leftWorld_starts : Starts leftWorld where
  procs := fun p => by
    by_cases h : p = 7
    · exact .inr (if_pos h)
    · exact .inl (if_neg h)
  left := fun file hfile => by
    cases hfile
    exact Nat.lt_succ_self _
  changes := rfl

def exampleData : RoutePersistedMeta where
  providerType := .openai
  generation := String.ofList (List.replicate 32 'a')
  registeredAt := "1970-01-01T00:00:00.000Z"
  orphanedAt := none

/-- Process 1 removes the file that was left, and registers a route. -/
def removeAndRegister : List Action :=
  [.act 1 .clock, .act 1 .test, .act 1 .unlinkStale, .act 1 .create, .act 1 .writeOwner,
    .act 1 .load, .act 1 (.store (.persist "a" exampleData (by decide)) ⟨none, "", none, []⟩)]

lemma keptBriefly_of_untimed {actions : List Action} {w : World}
    (h : ∀ a ∈ actions, ∀ ms, a ≠ .tick ms) : Along World.step KeptBriefly w actions := by
  refine .of_forall (fun a ha s => ?_) w
  cases a with
  | tick ms => exact absurd rfl (h _ ha ms)
  | act p a => trivial

lemma removeAndRegister_tested :
    Along World.step UnlinkedAsTested leftWorld removeAndRegister := by
  refine ⟨trivial, fun s hs => ?_⟩
  cases hs
  refine ⟨trivial, fun s hs => ?_⟩
  cases hs
  refine ⟨fun ino file hremoving hfile => ?_, fun s hs => ?_⟩
  · cases hremoving
    cases hfile; rfl
  cases hs
  refine ⟨trivial, fun s hs => ?_⟩
  cases hs
  refine ⟨trivial, fun s hs => ?_⟩
  cases hs
  refine ⟨trivial, fun s hs => ?_⟩
  cases hs; exact ⟨trivial, fun _ _ => trivial⟩

theorem adapterLock_exclusive_left :
    ∃ w, run World.step leftWorld removeAndRegister = some w ∧ w.Inside 1 ∧
      w.disk.recorded "a" = some exampleData ∧
      (∀ p q, w.Inside p → w.Inside q → p = q) ∧ NoneLost w := by
  refine ⟨_, rfl, ⟨_, _, rfl⟩, by decide +kernel, ?_⟩
  exact adapterLock_exclusive leftWorld_starts rfl (keptBriefly_of_untimed (by
    simp [removeAndRegister])) removeAndRegister_tested

/-- Both find the file too old; the slower one unlinks the file of the faster one. -/
def raced : List Action :=
  [.act 1 .clock, .act 1 .test, .act 2 .clock, .act 2 .test, .act 2 .unlinkStale,
    .act 2 .create, .act 2 .writeOwner, .act 1 .unlinkStale, .act 1 .create, .act 1 .writeOwner]

lemma raced_both :
    ∃ w, run World.step leftWorld raced = some w ∧ w.Inside 1 ∧ w.Inside 2 :=
  ⟨_, rfl, ⟨_, _, rfl⟩, ⟨_, _, rfl⟩⟩

/-- Nobody keeps the lock long, and still two are inside. -/
theorem adapterLock_raced :
    ¬∀ (w0 w : World) (actions : List Action), Starts w0 →
      run World.step w0 actions = some w → Along World.step KeptBriefly w0 actions →
        ∀ p q, w.Inside p → w.Inside q → p = q := by
  intro h
  obtain ⟨w, hrun, hone, htwo⟩ := raced_both
  have hboth := h leftWorld w raced leftWorld_starts hrun
    (keptBriefly_of_untimed (by simp [raced])) 1 2 hone htwo
  cases hboth

end NemoClaw.HttpsPinLock
