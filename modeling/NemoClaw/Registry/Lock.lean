import NemoClaw.Lib.Runs

/- The registry's advisory lock: a directory, and a file in it with its owner's pid.

Processes take the lock by making the directory, judge a directory they find by its
age and its owner, remove one they judge stale, and release by removing their own.
Every file-system call is one step, and the steps of any number of processes
interleave; a process may stop for good between any two of its steps.

What is proved:
  1. `classify_wait` — the lock of a live creator is waited for, as long as it is
     younger than the bound.
  2. `Inv.step` — what each step preserves.
  3. So two processes are never inside at once, and the registry is its operations
     applied one after the other, in every run in which live holders keep to the
     bound and each removal hits the directory that was rechecked.
  4. Without the first condition they can be.

Correspondence (state/registry/lock.ts ↔ Lean): `classifyExistingLock` keeps its name;
the steps of `acquireLock` and `releaseLock` are the actions. Inode numbers are never
reused. A waiter may give up at any attempt. The answers of the liveness probe and of
`/proc` are arguments of the step that asks.
-/
namespace NemoClaw.RegistryLock

open Runs

/-- A process; its number is its pid. -/
abbrev Proc := ℕ

def lockStaleMs : ℕ := 10000

inductive RegistryLockDecision where
  | «break»
  | wait
  deriving DecidableEq

def classifyExistingLock (ownerPid : Option Proc) (ownerAlive : Bool)
    (processStartMs : Option ℕ) (lockMtimeMs nowMs staleMs : ℕ) : RegistryLockDecision :=
  let byAge := if lockMtimeMs + staleMs < nowMs then .break else .wait
  match ownerPid with
  | none => byAge
  | some _ =>
    if ownerAlive = false then .break
    -- a live pid that started after the lock was taken was recycled
    else if processStartMs.any (fun start => lockMtimeMs + 1000 < start) then .break
    else byAge

/-! ## The state -/

/-- The lock directory; `creator` is who made it. -/
structure LockDir where
  ino : ℕ
  mtimeMs : ℕ
  owner : Option Proc
  creator : Proc
  deriving DecidableEq

structure LockStat where
  ino : ℕ
  mtimeMs : ℕ
  deriving DecidableEq

/-- The file system and the clock, with the registry and the operations committed to it. -/
structure Disk (R : Type) where
  nowMs : ℕ
  dir : Option LockDir
  nextIno : ℕ
  registry : R
  commits : List (R → Option R)

/-- Where a process is. -/
inductive Local (R : Type) where
  | idle
  /-- the directory exists -/
  | blocked
  | observed (stat : LockStat)
  | judged (stat : LockStat) (ownerPid : Option Proc)
  /-- judged stale; to be looked at again -/
  | breaking (stat : LockStat) (ownerPid : Option Proc)
  | confirming (stat : LockStat) (ownerPid : Proc)
  | removing (stat : LockStat)
  /-- made the directory -/
  | created (ino : ℕ)
  /-- inside, with the registry as loaded -/
  | holding (ino : ℕ) (snapshot : Option R)
  /-- could not write the owner file -/
  | closing (ino : ℕ)
  | releasing (ino : ℕ)
  | crashed

inductive Act (R : Type) where
  | mkdir
  | stat
  | readOwner
  | classify (ownerAlive : Bool) (processStartMs : Option ℕ)
  | recheckStat
  | recheckOwner
  | remove
  | writeOwner
  | ownerWriteFails
  | load
  | store (operation : R → Option R)
  | unlinkOwner
  | rmDir
  | crash

variable {R : Type}

/-- The owner file is gone, whoever wrote it. -/
def Disk.unlinkOwner (disk : Disk R) : Disk R :=
  { disk with dir := disk.dir.map fun d => { d with owner := none, mtimeMs := disk.nowMs } }

/-- What a step does to the file system and to the process that takes it. -/
def Act.perform (startedMs : Proc → ℕ) (p : Proc) (disk : Disk R) (l : Local R) :
    Act R → Option (Disk R × Local R)
  | mkdir =>
    match l with
    | .idle =>
      if startedMs p ≤ disk.nowMs then
        match disk.dir with
        | some _ => some (disk, .blocked)
        | none => some ({ disk with
            dir := some ⟨disk.nextIno, disk.nowMs, none, p⟩
            nextIno := disk.nextIno + 1 }, .created disk.nextIno)
      else none
    | _ => none
  | stat =>
    match l with
    | .blocked =>
      match disk.dir with
      | none => some (disk, .idle)
      | some d => some (disk, .observed ⟨d.ino, d.mtimeMs⟩)
    | _ => none
  | readOwner =>
    match l with
    | .observed st => some (disk, .judged st (disk.dir.bind (·.owner)))
    | _ => none
  | classify ownerAlive processStartMs =>
    match l with
    | .judged st owner =>
      match classifyExistingLock owner ownerAlive processStartMs st.mtimeMs disk.nowMs
        lockStaleMs with
      | .wait => some (disk, .idle)
      | .break => some (disk, .breaking st owner)
    | _ => none
  | recheckStat =>
    match l with
    | .breaking st owner =>
      match disk.dir with
      | none => some (disk, .idle)
      | some d =>
        if d.ino = st.ino ∧ d.mtimeMs = st.mtimeMs then
          match owner with
          | none => some (disk, .removing st)
          | some q => some (disk, .confirming st q)
        else some (disk, .idle)
    | _ => none
  | recheckOwner =>
    match l with
    | .confirming st q =>
      if disk.dir.bind (·.owner) = some q then some (disk, .removing st)
      else some (disk, .idle)
    | _ => none
  | remove =>
    match l with
    | .removing _ => some ({ disk with dir := none }, .idle)
    | _ => none
  | writeOwner =>
    match l with
    | .created ino =>
      match disk.dir with
      | none => some (disk, .closing ino)
      | some d =>
        some ({ disk with dir := some { d with owner := some p, mtimeMs := disk.nowMs } },
          .holding ino none)
    | _ => none
  | ownerWriteFails =>
    match l with
    | .created ino => some (disk, .closing ino)
    | _ => none
  | load =>
    match l with
    | .holding ino _ => some (disk, .holding ino (some disk.registry))
    | _ => none
  | store operation =>
    match l with
    | .holding ino (some snapshot) =>
      match operation snapshot with
      | none => some (disk, .holding ino none)
      | some next => some ({ disk with
          registry := next
          commits := disk.commits ++ [operation] }, .holding ino none)
    | _ => none
  | unlinkOwner =>
    match l with
    | .holding ino _ => some (disk.unlinkOwner, .releasing ino)
    | .closing ino => some (disk.unlinkOwner, .releasing ino)
    | _ => none
  | rmDir =>
    match l with
    | .releasing _ => some ({ disk with dir := none }, .idle)
    | _ => none
  | crash =>
    match l with
    | .crashed => none
    | _ => some (disk, .crashed)

attribute [local simp] Act.perform

/-- The file system and every process. -/
structure World (R : Type) where
  disk : Disk R
  procs : Proc → Local R

/-- Time passes, or a process takes a step. -/
inductive Action (R : Type) where
  | tick (ms : ℕ)
  | act (p : Proc) (a : Act R)

def World.step (startedMs : Proc → ℕ) (w : World R) : Action R → Option (World R)
  | .tick ms => some { w with disk := { w.disk with nowMs := w.disk.nowMs + ms } }
  | .act p a =>
    (a.perform startedMs p w.disk (w.procs p)).map fun next =>
      { disk := next.1, procs := Function.update w.procs p next.2 }

/-- The process has not stopped for good. -/
def World.Live (w : World R) (p : Proc) : Prop := w.procs p ≠ .crashed

/-- The process is between a successful acquisition and its release. -/
def World.Inside (w : World R) (p : Proc) : Prop :=
  ∃ ino snapshot, w.procs p = .holding ino snapshot

def applyOperation (registry : R) (operation : R → Option R) : R :=
  (operation registry).getD registry

def HeldBriefly (w : World R) : Action R → Prop
  | .act p (.classify _ _) => ∀ st owner d, w.procs p = .judged st owner →
      w.disk.dir = some d → d.ino = st.ino → w.Live d.creator →
        w.disk.nowMs ≤ st.mtimeMs + lockStaleMs
  | _ => True

def ProbedTruly (startedMs : Proc → ℕ) (w : World R) : Action R → Prop
  | .act p (.classify ownerAlive processStartMs) => ∀ st q, w.procs p = .judged st (some q) →
      w.Live q → ownerAlive ∧ ∀ t, processStartMs = some t → t ≤ startedMs q + 1000
  | _ => True

def RemovedAsRechecked (w : World R) : Action R → Prop
  | .act p .remove => ∀ st d, w.procs p = .removing st → w.disk.dir = some d → d.ino = st.ino
  | _ => True

structure Disciplined (startedMs : Proc → ℕ) (w : World R) (a : Action R) : Prop where
  brief : HeldBriefly w a
  truly : ProbedTruly startedMs w a
  rechecked : RemovedAsRechecked w a

/-- The process made the directory that is there. -/
def Owns (disk : Disk R) (p : Proc) (ino : ℕ) : Prop :=
  ∃ d, disk.dir = some d ∧ d.ino = ino ∧ d.creator = p

/-- What a process knows where it is. What it saw of a directory is still true of it
only if the directory is the one that is there. -/
def Knows (startedMs : Proc → ℕ) (w : World R) (p : Proc) : Local R → Prop
  | .idle | .blocked | .crashed => True
  | .observed st => st.ino < w.disk.nextIno ∧ ∀ d, w.disk.dir = some d → d.ino = st.ino →
      startedMs d.creator ≤ st.mtimeMs
  | .judged st owner => st.ino < w.disk.nextIno ∧ ∀ d, w.disk.dir = some d → d.ino = st.ino →
      startedMs d.creator ≤ st.mtimeMs ∧ (owner = none ∨ owner = some d.creator)
  | .breaking st _ | .confirming st _ | .removing st =>
    st.ino < w.disk.nextIno ∧ ∀ d, w.disk.dir = some d → d.ino = st.ino → ¬ w.Live d.creator
  | .created ino | .closing ino | .releasing ino => Owns w.disk p ino
  | .holding ino snapshot => Owns w.disk p ino ∧ ∀ r, snapshot = some r → r = w.disk.registry

structure Inv (startedMs : Proc → ℕ) (registry0 : R) (w : World R) : Prop where
  dir : ∀ d, w.disk.dir = some d → d.ino < w.disk.nextIno ∧ startedMs d.creator ≤ d.mtimeMs ∧
    d.mtimeMs ≤ w.disk.nowMs ∧ (d.owner = none ∨ d.owner = some d.creator)
  procs : ∀ p, Knows startedMs w p (w.procs p)
  registry : w.disk.registry = w.disk.commits.foldl applyOperation registry0

theorem classify_wait {owner : Option Proc} {ownerAlive : Bool} {start : Option ℕ}
    {mtimeMs nowMs : ℕ} (hyoung : nowMs ≤ mtimeMs + lockStaleMs)
    (hseen : ∀ q, owner = some q → ownerAlive ∧ ∀ t, start = some t → t ≤ mtimeMs + 1000) :
    classifyExistingLock owner ownerAlive start mtimeMs nowMs lockStaleMs = .wait := by
  have hage : ¬ mtimeMs + lockStaleMs < nowMs := by omega
  cases owner with
  | none => simp [classifyExistingLock, hage]
  | some q =>
  obtain ⟨halive, hstart⟩ := hseen q rfl
  have hnot : start.any (fun t => mtimeMs + 1000 < t) = false := by
    cases start with
    | none => rfl
    | some t => have := hstart t rfl; simpa using this
  simp [classifyExistingLock, hage, halive, hnot]

section Frame

variable {startedMs : Proc → ℕ} {w w' : World R} {p q : Proc}

/-- A step of another process that leaves what `q` knows true. -/
structure Undisturbed (q : Proc) (w w' : World R) : Prop where
  fresh : w.disk.nextIno ≤ w'.disk.nextIno
  same : ∀ d', w'.disk.dir = some d' →
    (∃ d, w.disk.dir = some d ∧ d.ino = d'.ino ∧ d.creator = d'.creator) ∨
      w.disk.nextIno ≤ d'.ino
  dead : ∀ c, ¬ w.Live c → ¬ w'.Live c
  held : ∀ ino, Owns w.disk q ino → w.Live q →
    Owns w'.disk q ino ∧ w'.disk.registry = w.disk.registry

lemma Undisturbed.seen (h : Undisturbed q w w') {P P' : LockDir → Prop} {ino : ℕ}
    (hP : ∀ d d', d.creator = d'.creator → P d → P' d')
    (hseen : ino < w.disk.nextIno ∧ ∀ d, w.disk.dir = some d → d.ino = ino → P d) :
    ino < w'.disk.nextIno ∧ ∀ d, w'.disk.dir = some d → d.ino = ino → P' d := by
  obtain ⟨hlt, hall⟩ := hseen
  refine ⟨hlt.trans_le h.fresh, fun d' hd' hino => ?_⟩
  rcases h.same d' hd' with ⟨d, hd, hdino, hcreator⟩ | hnew
  · exact hP d d' hcreator (hall d hd (hdino.trans hino))
  · omega

lemma Knows.frame (h : Undisturbed q w w') {l : Local R} (hl : w.procs q = l)
    (hk : Knows startedMs w q l) : Knows startedMs w' q l := by
  have howns : ∀ ino, Owns w.disk q ino → l ≠ .crashed → Owns w'.disk q ino ∧
      w'.disk.registry = w.disk.registry :=
    fun ino hino hne => h.held ino hino fun hcrashed => hne (hl.symm.trans hcrashed)
  cases l with
  | idle | blocked | crashed => trivial
  | observed st => exact h.seen (fun d d' hc hd => hc ▸ hd) hk
  | judged st owner => exact h.seen (fun d d' hc hd => hc ▸ hd) hk
  | breaking st owner => exact h.seen (fun d d' hc hd => hc ▸ h.dead _ hd) hk
  | confirming st owner => exact h.seen (fun d d' hc hd => hc ▸ h.dead _ hd) hk
  | removing st => exact h.seen (fun d d' hc hd => hc ▸ h.dead _ hd) hk
  | created ino => exact (howns ino hk (by simp)).1
  | closing ino => exact (howns ino hk (by simp)).1
  | releasing ino => exact (howns ino hk (by simp)).1
  | holding ino snapshot =>
    obtain ⟨hown, hregistry⟩ := howns ino hk.1 (by simp)
    exact ⟨hown, fun r hr => (hk.2 r hr).trans hregistry.symm⟩

lemma dead_update (hp : w.procs p ≠ .crashed) {disk : Disk R} {l : Local R} (c : Proc)
    (hc : ¬ w.Live c) : ¬ (World.mk disk (Function.update w.procs p l)).Live c := by
  have hcrashed : w.procs c = .crashed := not_not.mp hc
  have hne : c ≠ p := fun h => hp (h ▸ hcrashed)
  refine not_not.mpr ?_
  show Function.update w.procs p l c = .crashed
  rw [Function.update_of_ne hne, hcrashed]

lemma undisturbed_of_local (hp : w.procs p ≠ .crashed) (l : Local R) :
    Undisturbed q w ⟨w.disk, Function.update w.procs p l⟩ where
  fresh := le_refl _
  same := fun d' hd' => .inl ⟨d', hd', rfl, rfl⟩
  dead := dead_update hp
  held := fun _ hino _ => ⟨hino, rfl⟩

/-- A step of `p` keeps the invariant if what `p` knows after it is true and the others
are undisturbed. -/
lemma Inv.of_act {registry0 : R} {disk : Disk R} {l : Local R} (hinv : Inv startedMs registry0 w)
    (hdir : ∀ d, disk.dir = some d → d.ino < disk.nextIno ∧ startedMs d.creator ≤ d.mtimeMs ∧
      d.mtimeMs ≤ disk.nowMs ∧ (d.owner = none ∨ d.owner = some d.creator))
    (hknows : Knows startedMs ⟨disk, Function.update w.procs p l⟩ p l)
    (hothers : ∀ q, q ≠ p → Undisturbed q w ⟨disk, Function.update w.procs p l⟩)
    (hregistry : disk.registry = disk.commits.foldl applyOperation registry0) :
    Inv startedMs registry0 ⟨disk, Function.update w.procs p l⟩ := by
  refine ⟨hdir, fun q => ?_, hregistry⟩
  show Knows startedMs _ q (Function.update w.procs p l q)
  by_cases hq : q = p
  · subst hq
    rw [Function.update_self]; exact hknows
  · rw [Function.update_of_ne hq]; exact (hinv.procs q).frame (hothers q hq) rfl

/-- A step of `p` that touches no file keeps the invariant if what `p` knows is true. -/
lemma Inv.of_local {registry0 : R} {l : Local R} (hinv : Inv startedMs registry0 w)
    (hp : w.procs p ≠ .crashed)
    (hknows : Knows startedMs ⟨w.disk, Function.update w.procs p l⟩ p l) :
    Inv startedMs registry0 ⟨w.disk, Function.update w.procs p l⟩ :=
  hinv.of_act hinv.dir hknows (fun _ _ => undisturbed_of_local hp l) hinv.registry

end Frame

/-! ## The steps -/

section Steps

variable {startedMs : Proc → ℕ} {registry0 : R} {w : World R} {p : Proc} {l : Local R}

/-- The invariant holds after the act, if the process at `l` can take it. -/
def KeptBy (startedMs : Proc → ℕ) (registry0 : R) (w : World R) (p : Proc) (a : Act R)
    (l : Local R) : Prop :=
  ∀ disk l', a.perform startedMs p w.disk l = some (disk, l') →
    Inv startedMs registry0 ⟨disk, Function.update w.procs p l'⟩

/-- Removing the directory disturbs nobody, unless a live process other than the one
that removes it made it. -/
lemma undisturbed_of_removed {q : Proc} (hlive : w.procs p ≠ .crashed)
    (hnot : ∀ ino, Owns w.disk q ino → ¬ w.Live q) (l : Local R) :
    Undisturbed q w ⟨{ w.disk with dir := none }, Function.update w.procs p l⟩ where
  fresh := le_refl _
  same := fun d' hd' => by cases hd'
  dead := dead_update hlive
  held := fun ino hino hq => absurd hq (hnot ino hino)

/-- Changing the owner file disturbs nobody: it is the same directory. -/
lemma undisturbed_of_touched {q : Proc} {d : LockDir} {owner : Option Proc} {mtimeMs : ℕ}
    (hlive : w.procs p ≠ .crashed) (hdir : w.disk.dir = some d) (l : Local R) :
    Undisturbed q w ⟨{ w.disk with dir := some { d with owner, mtimeMs } },
      Function.update w.procs p l⟩ where
  fresh := le_refl _
  same := fun d' hd' => by
    cases hd'
    exact .inl ⟨d, hdir, rfl, rfl⟩
  dead := dead_update hlive
  held := fun ino howns _ => by
    obtain ⟨d', hdir', hino, hcreator⟩ := howns
    cases hdir.symm.trans hdir'
    exact ⟨⟨_, rfl, hino, hcreator⟩, rfl⟩

section

variable (hinv : Inv startedMs registry0 w)
include hinv

lemma unlinkOwner_owned {ino : ℕ} (hlive : w.procs p ≠ .crashed) (howns : Owns w.disk p ino) :
    Inv startedMs registry0
      ⟨w.disk.unlinkOwner, Function.update w.procs p (.releasing ino)⟩ := by
  obtain ⟨d, hdir, hino, hcreator⟩ := howns
  obtain ⟨hfresh, hstarted, hclock, -⟩ := hinv.dir d hdir
  have hdisk : w.disk.unlinkOwner =
      { w.disk with dir := some { d with owner := none, mtimeMs := w.disk.nowMs } } := by
    simp [Disk.unlinkOwner, hdir]
  rw [hdisk]
  refine hinv.of_act ?_ ⟨_, rfl, hino, hcreator⟩
    (fun q _ => undisturbed_of_touched hlive hdir _) hinv.registry
  intro d' hd'
  cases hd'; exact ⟨hfresh, hstarted.trans hclock, le_refl _, .inl rfl⟩

lemma crash_inv : KeptBy startedMs registry0 w p .crash (w.procs p) := by
  intro disk l' h
  simp only [Act.perform] at h
  split at h
  · cases h
  · next hlive =>
    cases h; exact hinv.of_local hlive trivial

lemma tick_inv (ms : ℕ) :
    Inv startedMs registry0 { w with disk := { w.disk with nowMs := w.disk.nowMs + ms } } := by
  refine ⟨fun d hd => ?_, fun q => ?_, hinv.registry⟩
  · obtain ⟨hfresh, hstarted, hclock, howner⟩ := hinv.dir d hd
    exact ⟨hfresh, hstarted, Nat.le_add_right_of_le hclock, howner⟩
  · exact (hinv.procs q).frame ⟨le_refl _, fun d' hd' => .inl ⟨d', hd', rfl, rfl⟩,
      fun _ hc => hc, fun _ hino _ => ⟨hino, rfl⟩⟩ rfl

section

variable (hlive : w.procs p ≠ .crashed)
  (hknows : Knows startedMs w p l)
include hlive hknows

lemma mkdir_inv : KeptBy startedMs registry0 w p .mkdir l := by
  intro disk l' h
  cases l with
  | idle =>
    simp only [Act.perform] at h
    split at h
    · next hstarted =>
      cases hdir : w.disk.dir with
      | some d =>
        simp only [hdir] at h
        cases h; exact hinv.of_local hlive trivial
      | none =>
        simp only [hdir] at h
        cases h
        refine hinv.of_act ?_ ⟨_, rfl, rfl, rfl⟩ (fun q hq => ?_) hinv.registry
        · intro d hd
          cases hd; exact ⟨Nat.lt_succ_self _, hstarted, le_refl _, .inl rfl⟩
        · refine ⟨Nat.le_succ _, fun d' hd' => .inr ?_, dead_update hlive, ?_⟩
          · cases hd'; exact le_refl _
          · intro ino howns
            obtain ⟨d, hd, -⟩ := howns
            rw [hdir] at hd; cases hd
    · cases h
  | _ => cases h

lemma stat_inv : KeptBy startedMs registry0 w p .stat l := by
  intro disk l' h
  cases l with
  | blocked =>
    simp only [Act.perform] at h
    cases hdir : w.disk.dir with
    | none =>
      simp only [hdir] at h
      cases h; exact hinv.of_local hlive trivial
    | some d =>
      simp only [hdir] at h
      cases h
      obtain ⟨hino, hstarted, -⟩ := hinv.dir d hdir
      refine hinv.of_local hlive ⟨hino, fun d' hd' _ => ?_⟩
      cases hdir.symm.trans hd'; exact hstarted
  | _ => cases h

lemma readOwner_inv : KeptBy startedMs registry0 w p .readOwner l := by
  intro disk l' h
  cases l with
  | observed st =>
    cases h
    obtain ⟨hino, hseen⟩ := hknows
    refine hinv.of_local hlive ⟨hino, fun d hd hsame => ⟨hseen d hd hsame, ?_⟩⟩
    have hdir : w.disk.dir = some d := hd
    rw [hdir]; exact (hinv.dir d hdir).2.2.2
  | _ => cases h

/-- A lock is judged stale only if its creator is dead, or it is gone already. -/
lemma classify_inv {ownerAlive : Bool} {start : Option ℕ} (hp : w.procs p = l)
    (hd : Disciplined startedMs w (.act p (.classify ownerAlive start)))
    : KeptBy startedMs registry0 w p (.classify ownerAlive start) l := by
  intro disk l' h
  cases l with
  | judged st owner =>
    simp only [Act.perform] at h; obtain ⟨hino, hseen⟩ := hknows
    cases hdecision : classifyExistingLock owner ownerAlive start st.mtimeMs w.disk.nowMs
        lockStaleMs with
    | wait =>
      simp only [hdecision] at h
      cases h; exact hinv.of_local hlive trivial
    | «break» =>
      simp only [hdecision] at h
      cases h
      refine hinv.of_local hlive ⟨hino, fun d hdir hsame => ?_⟩
      refine dead_update hlive _ fun hlive => ?_
      have hdir : w.disk.dir = some d := hdir
      obtain ⟨hstarted, howner⟩ := hseen d hdir hsame
      have hwait := @classify_wait owner ownerAlive start _ _
        (hd.brief st owner d hp hdir hsame hlive) (fun q hq => ?_)
      · rw [hwait] at hdecision; cases hdecision
      · subst hq
        rcases howner with hnone | hsome
        · cases hnone
        cases hsome
        obtain ⟨halive, hstart⟩ := hd.truly st _ hp hlive
        refine ⟨halive, fun t ht => ?_⟩
        have := hstart t ht; omega
  | _ => cases h

lemma recheckStat_inv
    : KeptBy startedMs registry0 w p .recheckStat l := by
  intro disk l' h
  cases l with
  | breaking st owner =>
    simp only [Act.perform] at h
    have hdead : ∀ l', st.ino < w.disk.nextIno ∧ ∀ d, w.disk.dir = some d → d.ino = st.ino →
        ¬ (World.mk w.disk (Function.update w.procs p l')).Live d.creator :=
      fun l' => ⟨hknows.1, fun d hdir hsame => dead_update hlive _ (hknows.2 d hdir hsame)⟩
    split at h
    · cases h; exact hinv.of_local hlive trivial
    split at h
    · split at h
      · cases h; exact hinv.of_local hlive (hdead _)
      · cases h; exact hinv.of_local hlive (hdead _)
    · cases h; exact hinv.of_local hlive trivial
  | _ => cases h

lemma recheckOwner_inv
    : KeptBy startedMs registry0 w p .recheckOwner l := by
  intro disk l' h
  cases l with
  | confirming st owner =>
    simp only [Act.perform] at h
    split at h
    · cases h
      exact hinv.of_local hlive
        ⟨hknows.1, fun d hdir hsame => dead_update hlive _ (hknows.2 d hdir hsame)⟩
    · cases h; exact hinv.of_local hlive trivial
  | _ => cases h

lemma remove_inv (hp : w.procs p = l)
    (hd : Disciplined startedMs w (.act p .remove))
    : KeptBy startedMs registry0 w p .remove l := by
  intro disk l' h
  cases l with
  | removing st =>
    cases h
    refine hinv.of_act nofun trivial (fun q _ => ?_) hinv.registry
    refine undisturbed_of_removed hlive (fun ino howns => ?_) _
    obtain ⟨d, hdir, -, rfl⟩ := howns
    exact hknows.2 d hdir (hd.rechecked st d hp hdir)
  | _ => cases h

/-- The one who removes its own directory disturbs nobody. -/
lemma rmDir_inv : KeptBy startedMs registry0 w p .rmDir l := by
  intro disk l' h
  cases l with
  | releasing ino =>
    cases h
    obtain ⟨d, hdir, -, hcreator⟩ := hknows
    refine hinv.of_act nofun trivial (fun q hq => ?_) hinv.registry
    refine undisturbed_of_removed hlive (fun ino howns => ?_) _
    obtain ⟨d', hdir', -, hcreator'⟩ := howns
    cases hdir.symm.trans hdir'; exact absurd (hcreator'.symm.trans hcreator) hq
  | _ => cases h

lemma writeOwner_inv : KeptBy startedMs registry0 w p .writeOwner l := by
  intro disk l' h
  cases l with
  | created ino =>
    obtain ⟨d, hdir, hino, hcreator⟩ := hknows
    simp only [Act.perform, hdir] at h
    cases h
    obtain ⟨hfresh, hstarted, hclock, -⟩ := hinv.dir d hdir
    refine hinv.of_act ?_ ⟨⟨_, rfl, hino, hcreator⟩, nofun⟩
      (fun q _ => undisturbed_of_touched hlive hdir _) hinv.registry
    intro d' hd'
    cases hd'
    exact ⟨hfresh, hstarted.trans hclock, le_refl _, .inr (congrArg some hcreator.symm)⟩
  | _ => cases h

lemma ownerWriteFails_inv
    : KeptBy startedMs registry0 w p .ownerWriteFails l := by
  intro disk l' h
  cases l with
  | created ino => cases h; exact hinv.of_local hlive hknows
  | _ => cases h

lemma load_inv : KeptBy startedMs registry0 w p .load l := by
  intro disk l' h
  cases l with
  | holding ino snapshot =>
    cases h; exact hinv.of_local hlive ⟨hknows.1, fun r hr => (Option.some.inj hr).symm⟩
  | _ => cases h

lemma store_inv {operation : R → Option R}
    : KeptBy startedMs registry0 w p (.store operation) l := by
  intro disk l' h
  cases l with
  | holding ino snapshot =>
    obtain ⟨howns, hsnapshot⟩ := hknows
    cases snapshot with
    | none => cases h
    | some r =>
    obtain rfl := hsnapshot r rfl
    simp only [Act.perform] at h
    split at h
    · cases h; exact hinv.of_local hlive ⟨howns, nofun⟩
    next next hnext =>
    cases h
    refine hinv.of_act hinv.dir ⟨howns, nofun⟩ (fun q hq => ?_) ?_
    · refine ⟨le_refl _, fun d' hd' => .inl ⟨d', hd', rfl, rfl⟩, dead_update hlive, ?_⟩
      intro ino' howns'
      -- only one process owns the directory
      obtain ⟨d, hdir, -, hcreator⟩ := howns
      obtain ⟨d', hdir', -, hcreator'⟩ := howns'
      cases hdir.symm.trans hdir'; exact absurd (hcreator'.symm.trans hcreator) hq
    · rw [List.foldl_append, ← hinv.registry]; simp [applyOperation, hnext]
  | _ => cases h

lemma unlinkOwner_inv
    : KeptBy startedMs registry0 w p .unlinkOwner l := by
  intro disk l' h
  cases l with
  | holding ino snapshot => cases h; exact unlinkOwner_owned hinv hlive hknows.1
  | closing ino => cases h; exact unlinkOwner_owned hinv hlive hknows
  | _ => cases h

end

theorem Inv.step {a : Action R} {w' : World R} (h : w.step startedMs a = some w')
    (hd : Disciplined startedMs w a) : Inv startedMs registry0 w' := by
  cases a with
  | tick ms => cases h; exact tick_inv hinv ms
  | act p a =>
    obtain ⟨⟨disk, l⟩, hperform, rfl⟩ := Option.map_eq_some_iff.mp h
    by_cases hlive : w.procs p = .crashed
    · rw [hlive] at hperform
      cases a <;> cases hperform
    have hknows := hinv.procs p
    cases a with
    | mkdir => exact mkdir_inv hinv hlive hknows _ _ hperform
    | stat => exact stat_inv hinv hlive hknows _ _ hperform
    | readOwner => exact readOwner_inv hinv hlive hknows _ _ hperform
    | classify ownerAlive start => exact classify_inv hinv hlive hknows rfl hd _ _ hperform
    | recheckStat => exact recheckStat_inv hinv hlive hknows _ _ hperform
    | recheckOwner => exact recheckOwner_inv hinv hlive hknows _ _ hperform
    | remove => exact remove_inv hinv hlive hknows rfl hd _ _ hperform
    | writeOwner => exact writeOwner_inv hinv hlive hknows _ _ hperform
    | ownerWriteFails => exact ownerWriteFails_inv hinv hlive hknows _ _ hperform
    | load => exact load_inv hinv hlive hknows _ _ hperform
    | store operation => exact store_inv hinv hlive hknows _ _ hperform
    | unlinkOwner => exact unlinkOwner_inv hinv hlive hknows _ _ hperform
    | rmDir => exact rmDir_inv hinv hlive hknows _ _ hperform
    | crash => exact crash_inv hinv _ _ hperform

end

end Steps

structure Starts (startedMs : Proc → ℕ) (w : World R) : Prop where
  procs : ∀ p, w.procs p = .idle ∨ w.procs p = .crashed
  left : ∀ d, w.disk.dir = some d → ¬ w.Live d.creator ∧ d.ino < w.disk.nextIno ∧
    startedMs d.creator ≤ d.mtimeMs ∧ d.mtimeMs ≤ w.disk.nowMs ∧
    (d.owner = none ∨ d.owner = some d.creator)
  commits : w.disk.commits = []

lemma Starts.inv {startedMs : Proc → ℕ} {w : World R} (h : Starts startedMs w) :
    Inv startedMs w.disk.registry w := by
  refine ⟨fun d hd => (h.left d hd).2, fun p => ?_, ?_⟩
  · rcases h.procs p with hp | hp
    · rw [hp]; trivial
    · rw [hp]; trivial
  · rw [h.commits]; rfl

lemma Inv.exclusive {startedMs : Proc → ℕ} {registry0 : R} {w : World R}
    (hinv : Inv startedMs registry0 w) {p q : Proc} (hp : w.Inside p) (hq : w.Inside q) :
    p = q := by
  obtain ⟨ino, snapshot, hp⟩ := hp
  obtain ⟨ino', snapshot', hq⟩ := hq
  have hknows := hinv.procs p
  have hknows' := hinv.procs q
  rw [hp] at hknows
  rw [hq] at hknows'
  obtain ⟨⟨d, hd, -, hcreator⟩, -⟩ := hknows
  obtain ⟨⟨d', hd', -, hcreator'⟩, -⟩ := hknows'
  cases hd.symm.trans hd'; exact hcreator.symm.trans hcreator'

/-- In every interleaving in which live holders keep to the bound, probes tell the truth
and removals hit what was rechecked: nobody else is inside, and the registry is the
committed operations applied one after the other. -/
theorem registryLock_noLostUpdate (startedMs : Proc → ℕ) {w0 w : World R}
    {actions : List (Action R)} (h0 : Starts startedMs w0)
    (hrun : run (World.step startedMs) w0 actions = some w)
    (hdisciplined : Along (World.step startedMs) (Disciplined startedMs) w0 actions) :
    (∀ p q, w.Inside p → w.Inside q → p = q) ∧
      w.disk.registry = w.disk.commits.foldl applyOperation w0.disk.registry := by
  have hinv : Inv startedMs w0.disk.registry w :=
    hdisciplined.invariant hrun (fun s a s' hstep hd hs => hs.step hstep hd) h0.inv
  exact ⟨fun p q hp hq => hinv.exclusive hp hq, hinv.registry⟩

/-- Process 7 crashed with the lock. -/
def leftWorld : World ℕ where
  disk := { nowMs := 5, dir := some ⟨0, 0, some 7, 7⟩, nextIno := 1, registry := 0, commits := [] }
  procs := fun p => if p = 7 then .crashed else .idle

/-- Process 1 breaks that lock, takes its own and counts the registry up. -/
def breakAndCount : List (Action ℕ) :=
  [.act 1 .mkdir, .act 1 .stat, .act 1 .readOwner, .act 1 (.classify false none),
    .act 1 .recheckStat, .act 1 .recheckOwner, .act 1 .remove, .act 1 .mkdir,
    .act 1 .writeOwner, .act 1 .load, .act 1 (.store fun n => some (n + 1))]

lemma leftWorld_starts : Starts (fun _ => 0) leftWorld where
  procs := fun p => by
    by_cases h : p = 7
    · exact .inr (if_pos h)
    · exact .inl (if_neg h)
  left := fun d hd => by
    cases hd
    exact ⟨not_not.mpr rfl, by decide, by decide, by decide, .inr rfl⟩
  commits := rfl

lemma breakAndCount_disciplined :
    Along (World.step fun _ => 0) (Disciplined fun _ => 0) leftWorld breakAndCount := by
  iterate 3
    refine ⟨⟨trivial, trivial, trivial⟩, fun s hs => ?_⟩
    cases hs
  refine ⟨⟨fun st owner d _ hd _ hlive => ?_, fun st q hq hlive => ?_, trivial⟩, fun s hs => ?_⟩
  · cases hd; exact absurd rfl hlive
  · cases hq; exact absurd rfl hlive
  cases hs
  iterate 2
    refine ⟨⟨trivial, trivial, trivial⟩, fun s hs => ?_⟩
    cases hs
  refine ⟨⟨trivial, trivial, fun st d hst hd => ?_⟩, fun s hs => ?_⟩
  · cases hst
    cases hd; rfl
  cases hs
  iterate 3
    refine ⟨⟨trivial, trivial, trivial⟩, fun s hs => ?_⟩
    cases hs
  exact ⟨⟨trivial, trivial, trivial⟩, fun _ _ => trivial⟩

theorem registryLock_breakAndCount :
    ∃ w, run (World.step fun _ => 0) leftWorld breakAndCount = some w ∧ w.Inside 1 ∧
      w.disk.registry = 1 ∧ (∀ p q, w.Inside p → w.Inside q → p = q) ∧
      w.disk.registry = w.disk.commits.foldl applyOperation 0 := by
  refine ⟨_, rfl, ⟨_, _, rfl⟩, rfl, ?_⟩
  exact registryLock_noLostUpdate (fun _ => 0) leftWorld_starts rfl breakAndCount_disciplined

/-- Nobody holds the lock. -/
def freeWorld : World ℕ where
  disk := { nowMs := 0, dir := none, nextIno := 0, registry := 0, commits := [] }
  procs := fun _ => .idle

/-- Process 1 takes more than ten seconds, and process 2 breaks its lock. -/
def slowHolder : List (Action ℕ) :=
  [.act 1 .mkdir, .act 1 .writeOwner, .act 1 .load, .tick 10001, .act 2 .mkdir, .act 2 .stat,
    .act 2 .readOwner, .act 2 (.classify true (some 0)), .act 2 .recheckStat,
    .act 2 .recheckOwner, .act 2 .remove, .act 2 .mkdir, .act 2 .writeOwner]

lemma slowHolder_both :
    ∃ w, run (World.step fun _ => 0) freeWorld slowHolder = some w ∧ w.Inside 1 ∧ w.Inside 2 := by
  refine ⟨_, by
    simp only [slowHolder, freeWorld, run, World.step, Act.perform, classifyExistingLock,
      lockStaleMs, Option.map, Option.bind]
    rfl, ⟨_, _, rfl⟩, ⟨_, _, rfl⟩⟩

/-- A live holder that is slow is no longer alone, even though it is seen alive. -/
theorem registryLock_slowHolder :
    ¬ ∀ (actions : List (Action ℕ)) (w : World ℕ),
      run (World.step fun _ => 0) freeWorld actions = some w →
        Along (World.step fun _ => 0) (ProbedTruly fun _ => 0) freeWorld actions →
          ∀ p q, w.Inside p → w.Inside q → p = q := by
  intro h
  obtain ⟨w, hrun, hone, htwo⟩ := slowHolder_both
  have htruly : ∀ a ∈ slowHolder, ∀ w, ProbedTruly (fun _ => 0) w a := by
    intro a ha w
    simp only [slowHolder, List.mem_cons, List.not_mem_nil, or_false] at ha
    rcases ha with rfl | rfl | rfl | rfl | rfl | rfl | rfl | rfl | rfl | rfl | rfl | rfl | rfl
    case inr.inr.inr.inr.inr.inr.inr.inl =>
      intro st q _ _
      refine ⟨rfl, fun t ht => ?_⟩
      cases ht; exact Nat.zero_le _
    all_goals trivial
  have hboth := h slowHolder w hrun (.of_forall htruly _) 1 2 hone htwo
  cases hboth

end NemoClaw.RegistryLock
