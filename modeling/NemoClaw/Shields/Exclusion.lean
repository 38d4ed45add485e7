import NemoClaw.Shields.TransitionLock

/- One chain at most holds the transition lock.

A chain that holds a lock or a guard owns the file at its level, and what a chain has
found stale was left by a process that has stopped. A file goes away only by its owner's
hand or, once its owner is gone, by the hand of the chain that holds the guard over it;
so between the second look at a stale file and its removal nothing can have taken its
place. This holds at all levels at once, which is why the guards' own guards need no
argument of their own.

What is proved:
  1. `resume_knows` — what a chain relies on survives a return through its callers.
  2. `advance_kept` — what a step of one chain keeps, for it and for all others.
  3. `Inv.step`, and so mutual exclusion in every run in which no live owner is
     classified stale.
-/
namespace NemoClaw.TransitionLock

open Runs LockFiles List Option

variable (site : Site)

section Knows

variable {site}

def guardOf (level : ℕ) : Option ℕ := some (level + 1)

/-- Callers that wait for a guard have found the file that it guards stale. -/
def Stack.Knows (site : Site) (s : Shared) : {r : Ret} → Stack r → Prop
  | _, .acquire _ | _, .acquireRecovered _ | _, .takeover | _, .released => True
  | _, .createProgress _ _ k | _, .enterCreated _ _ k | _, .enterProgress _ _ k
  | _, .progressRemoved _ k | _, .cleanupReleased _ k | _, .recoverReleased _ k => k.Knows site s
  | _, .cleanupEntered _ seen k | _, .recoverEntered _ seen _ k =>
    Orphan s.files (s.Live site) seen ∧ k.Knows site s

/-- From the second look at the stale guard to its removal it is still there. -/
def CleanupPoint.Sees (s : Shared) (c : Cleanup) : CleanupPoint → Prop
  | assertHeldAgain | rename => s.files.linked c.level = some c.seen
  | _ => True

/-- From the second look at the stale lock to its removal it is still there. -/
def RecoverPoint.Sees (s : Shared) (r : Recovery) : RecoverPoint → Prop
  | assertHeldAgain | unlink => s.files.linked 0 = some r.seen
  | _ => True

/-- What a chain can rely on: the lock or guard it holds is its own, and what it has
found stale was left by a process that has stopped. -/
def Chain.Knows (site : Site) (s : Shared) (a : ChainId) : Chain → Prop
  | idle | acquireLoop _ _ | acquireSleep _ | observeOpen _ | observeLstat _ _
  | observeJudge _ _ => True
  | acquired _ ino | holding _ ino _ => Owns s.files a 0 ino
  | createLstat _ _ k | createLink _ _ k => k.Knows site s
  | progressOpen _ k | progressLstat _ _ k | progressJudge _ _ k | progressRecheck _ k =>
    k.Knows site s
  | cleanup point c k => k.Knows site s ∧ Owns s.files a (c.level + 1) c.guard ∧
      Orphan s.files (s.Live site) c.seen ∧ point.Sees s c
  | removeHeld .rename level held k => k.Knows site s ∧ Owns s.files a level held
  | removeHeld _ _ _ k => k.Knows site s
  | recoverOpen _ k | recoverLstat _ _ k | recoverJudge _ _ k => k.Knows site s
  | recover point r k => k.Knows site s ∧ Owns s.files a 1 r.guard ∧
      Orphan s.files (s.Live site) r.seen ∧ point.Sees s r

def Returns (s : Shared) (a : ChainId) : (r : Ret) → r.Value → Prop
  | .handle level, value => ∀ ino, (value : Option ℕ) = some ino → Owns s.files a level ino
  | .bool, _ | .unit, _ | .removal, _ => True

theorem resume_knows {s : Shared} {a : ChainId} {r : Ret} (k : Stack r) (v : r.Value)
    (hk : k.Knows site s) (hv : Returns s a r v) : (resume k v).Knows site s a := by
  induction k with
  | acquire acq =>
    cases v with
    | none => trivial
    | some ino => exact hv ino rfl
  | createProgress level owner k ih =>
    cases v with
    | true => exact ih none hk (by intro ino h; cases h)
    | false => exact hk
  | enterCreated level owner k ih =>
    cases v with
    | none => exact hk
    | some ino => exact ih (some ino) hk hv
  | enterProgress level owner k ih =>
    cases v with
    | true => exact ih none hk (by intro ino h; cases h)
    | false => exact hk
  | progressRemoved level k ih =>
    cases v with
    | true => exact hk
    | false => exact ih true hk trivial
  | cleanupEntered level seen k ih =>
    cases v with
    | none => exact ih false hk.2 trivial
    | some guard => exact ⟨hk.2, hv guard rfl, hk.1, trivial⟩
  | cleanupReleased answer k ih =>
    cases answer with
    | none => trivial
    | some answer => exact ih answer hk trivial
  | recoverEntered expect seen reason k ih =>
    cases v with
    | none => exact ih TakeoverReason.pathChanged hk.2 trivial
    | some guard => exact ⟨hk.2, hv guard rfl, hk.1, trivial⟩
  | recoverReleased answer k ih =>
    cases answer with
    | none => trivial
    | some answer => exact ih answer hk trivial
  | acquireRecovered acq => cases v <;> trivial
  | takeover => trivial
  | released => trivial

lemma Stack.Knows.later {s s' : Shared} {r : Ret} {k : Stack r}
    (h : Later (s.Live site) (s'.Live site) s.files s'.files) (hk : k.Knows site s) :
    k.Knows site s' := by
  induction k with
  | acquire _ | acquireRecovered _ | takeover | released => trivial
  | createProgress _ _ k ih | enterCreated _ _ k ih | enterProgress _ _ k ih
  | progressRemoved _ k ih | cleanupReleased _ k ih | recoverReleased _ k ih => exact ih hk
  | cleanupEntered _ seen k ih => exact ⟨h.orphan hk.1, ih hk.2⟩
  | recoverEntered _ seen _ k ih => exact ⟨h.orphan hk.1, ih hk.2⟩

lemma Stack.Knows.of_files {s : Shared} {files : Files ℕ ChainId LockText} {r : Ret}
    {k : Stack r} (hk : k.Knows site s) (h : s.files.inodes <+: files.inodes) :
    k.Knows site { s with files } := Stack.Knows.later ⟨h, fun _ hdead => hdead⟩ hk

variable {l : Chain} {probe : Probe}

lemma Chain.Knows.frame {s s' : Shared} {a : ChainId} (ha : s.Live site a)
    (h : Undisturbed guardOf (s.Live site) (s'.Live site) a s.files s'.files)
    (hk : l.Knows site s a) : l.Knows site s' a := by
  have hlater := h.toLater
  cases l with
  | idle | acquireLoop _ _ | acquireSleep _ | observeOpen _ | observeLstat _ _
  | observeJudge _ _ => trivial
  | acquired _ ino => exact h.owns ha hk
  | holding _ ino _ => exact h.owns ha hk
  | createLstat _ _ k | createLink _ _ k => exact Stack.Knows.later hlater hk
  | progressOpen _ k | progressLstat _ _ k | progressJudge _ _ k | progressRecheck _ k =>
    exact Stack.Knows.later hlater hk
  | recoverOpen _ k | recoverLstat _ _ k | recoverJudge _ _ k =>
    exact Stack.Knows.later hlater hk
  | cleanup point c k =>
    obtain ⟨hstack, howns, horphan, hsees⟩ := hk
    refine ⟨hstack.later hlater, h.owns ha howns, h.orphan horphan, ?_⟩
    cases point with
    | assertHeldAgain | rename => exact h.gated _ _ _ _ ha rfl howns hsees horphan
    | _ => trivial
  | removeHeld point level held k =>
    cases point with
    | rename => exact ⟨Stack.Knows.later hlater hk.1, h.owns ha hk.2⟩
    | moved _ | restore _ => exact Stack.Knows.later hlater hk
  | recover point r k =>
    obtain ⟨hstack, howns, horphan, hsees⟩ := hk
    refine ⟨hstack.later hlater, h.owns ha howns, h.orphan horphan, ?_⟩
    cases point with
    | assertHeldAgain | unlink => exact h.gated _ _ _ _ ha rfl howns hsees horphan
    | _ => trivial

/-! ## What a step keeps -/

structure Kept (site : Site) (a : ChainId) (s : Shared) (next : Shared × Chain) : Prop where
  crashed : next.1.crashed = s.crashed
  knows : next.2.Knows site next.1 a
  others : ∀ b, b ≠ a →
    Undisturbed guardOf (s.Live site) (s.Live site) b s.files next.1.files

variable {a : ChainId} {s : Shared}

lemma Kept.of_local (h : l.Knows site s a) : Kept site a s (s, l) where
  crashed := rfl
  knows := h
  others := fun _ _ => Undisturbed.of_same fun _ h => h

lemma Cleanup.finish_knows {c : Cleanup} {k : Stack .bool} (answer : Option Bool)
    (hk : k.Knows site s) (howns : Owns s.files a (c.level + 1) c.guard) :
    (c.finish k answer).Knows site s a := ⟨hk, howns⟩

lemma Recovery.finish_knows {r : Recovery} {k : Stack .removal} (answer : Option TakeoverReason)
    (hk : k.Knows site s) (howns : Owns s.files a 1 r.guard) :
    (r.finish k answer).Knows site s a := ⟨hk, howns⟩

lemma cleanup_kept (ha : s.Live site a) {point : CleanupPoint} {c : Cleanup} {k : Stack .bool}
    (h : (Chain.cleanup point c k).Knows site s a) : Kept site a s (point.advance site s c k) := by
  obtain ⟨hk, howns, horphan, hsees⟩ := h
  have hfinish : ∀ answer, Kept site a s (s, c.finish k answer) :=
    fun answer => .of_local (Cleanup.finish_knows answer hk howns)
  cases point with
  | assertHeld =>
    simp only [CleanupPoint.advance]
    split
    · exact .of_local ⟨hk, howns, horphan, trivial⟩
    · exact hfinish none
  | readOpen =>
    simp only [CleanupPoint.advance]
    split
    · exact hfinish (some true)
    · exact .of_local ⟨hk, howns, horphan, trivial⟩
  | readLstat fd =>
    simp only [CleanupPoint.advance]
    split
    · next hlinked =>
      split
      · split
        · next hsame => exact .of_local ⟨hk, howns, horphan, hlinked.trans (congrArg some hsame.1)⟩
        · exact hfinish (some false)
      · exact hfinish (some false)
    · exact hfinish (some true)
  | assertHeldAgain =>
    simp only [CleanupPoint.advance]
    split
    · exact .of_local ⟨hk, howns, horphan, hsees⟩
    · exact hfinish none
  | rename =>
    have hlinked : s.files.linked c.level = some c.seen := hsees
    simp only [CleanupPoint.advance, hlinked]
    refine ⟨rfl, ⟨?_, howns.of_unlink (Nat.succ_ne_self _), horphan, trivial⟩, fun b hb => ?_⟩
    · exact hk.of_files (prefix_refl _)
    · exact .of_unlink ha hb hlinked (.inr ⟨horphan, _, _, rfl, howns⟩)
  | moved ino =>
    simp only [CleanupPoint.advance]
    split
    · split
      · exact hfinish (some true)
      · exact .of_local ⟨hk, howns, horphan, trivial⟩
    · exact .of_local ⟨hk, howns, horphan, trivial⟩
  | restore ino =>
    simp only [CleanupPoint.advance]
    split
    · next hfree =>
      refine ⟨rfl, ?_, fun b _ => .of_relink hfree ino⟩
      exact ⟨hk.of_files (prefix_refl _), howns.of_relink hfree⟩
    · exact hfinish (some false)

lemma removeHeld_kept (ha : s.Live site a) {point : RemoveHeldPoint} {level held : ℕ}
    {k : Stack .unit} (h : (Chain.removeHeld point level held k).Knows site s a) :
    Kept site a s (point.advance s level held k) := by
  cases point with
  | rename =>
    obtain ⟨hk, howns⟩ := h
    simp only [RemoveHeldPoint.advance, howns.1]
    refine ⟨rfl, ?_, fun b hb => .of_unlink ha hb howns.1 (.inl howns.2)⟩
    exact hk.of_files (prefix_refl _)
  | moved ino =>
    simp only [RemoveHeldPoint.advance]
    split
    · exact .of_local (resume_knows k () h trivial)
    · exact .of_local h
  | restore ino =>
    simp only [RemoveHeldPoint.advance]
    split
    · next hfree =>
      refine ⟨rfl, resume_knows k () ?_ trivial, fun b _ => .of_relink hfree ino⟩
      exact Stack.Knows.of_files h (prefix_refl _)
    · exact .of_local (resume_knows k () h trivial)

lemma recover_kept (ha : s.Live site a) {point : RecoverPoint} {r : Recovery}
    {k : Stack .removal} (h : (Chain.recover point r k).Knows site s a) :
    Kept site a s (point.advance site s r k) := by
  obtain ⟨hk, howns, horphan, hsees⟩ := h
  have hfinish : ∀ answer, Kept site a s (s, r.finish k answer) :=
    fun answer => .of_local (Recovery.finish_knows answer hk howns)
  cases point with
  | assertHeld | identity | linked _ =>
    simp only [RecoverPoint.advance]
    split
    · exact .of_local ⟨hk, howns, horphan, trivial⟩
    · exact hfinish _
  | link =>
    simp only [RecoverPoint.advance]
    split
    · exact hfinish _
    · exact .of_local ⟨hk, howns, horphan, trivial⟩
  | identityAgain =>
    simp only [RecoverPoint.advance]
    split
    · next hlinked => exact .of_local ⟨hk, howns, horphan, hlinked⟩
    · exact hfinish _
  | assertHeldAgain =>
    simp only [RecoverPoint.advance]
    split
    · exact .of_local ⟨hk, howns, horphan, hsees⟩
    · exact hfinish _
  | unlink =>
    have hlinked : s.files.linked 0 = some r.seen := hsees
    simp only [RecoverPoint.advance, hlinked]
    refine ⟨rfl, ⟨?_, howns.of_unlink (by decide), horphan, trivial⟩, fun b hb => ?_⟩
    · exact hk.of_files (prefix_refl _)
    · exact .of_unlink ha hb hlinked (.inr ⟨horphan, _, _, rfl, howns⟩)
  | unlinked => exact hfinish _

/-- What is classified stale was left by a process that has stopped. -/
lemma judgesStale_orphan {seen : ℕ} {owner : Owner}
    (hstale : ∀ seen ∈ l.judgesStale site s probe, ∀ inode ∈ s.files.inodes[seen]?,
      ¬ s.Live site inode.maker)
    (hseen : l.judgesStale site s probe = some seen) (howner : s.ownerAt site seen = some owner) :
    Orphan s.files (s.Live site) seen := by
  obtain ⟨inode, hinode, -⟩ := bind_eq_some_iff.mp howner
  exact ⟨inode.maker, ⟨inode.content, hinode⟩, hstale seen hseen inode hinode⟩

lemma createLink_kept {level : ℕ} {owner : Owner} {k : Stack (.handle level)}
    {next : Shared × Chain} (hk : k.Knows site s)
    (h : advance site a probe s (.createLink level owner k) = some next) : Kept site a s next := by
  simp only [advance] at h
  split at h
  · cases h; exact .of_local (resume_knows k none hk nofun)
  next htaken =>
  cases h
  have hfree : s.files.linked level = none := by simpa using htaken
  refine ⟨rfl, resume_knows k _ ?_ ?_, fun b _ => .of_publish hfree _⟩
  · exact hk.of_files (s.files.prefix_publish level a _)
  · intro ino hino
    cases hino; exact s.files.made_publish level a _

lemma progressJudge_kept {level seen : ℕ} {k : Stack .bool} {next : Shared × Chain}
    (hk : k.Knows site s)
    (hstale : ∀ seen' ∈ (Chain.progressJudge level seen k).judgesStale site s probe,
      ∀ inode ∈ s.files.inodes[seen']?, ¬ s.Live site inode.maker)
    (h : advance site a probe s (.progressJudge level seen k) = some next) :
    Kept site a s next := by
  simp only [advance] at h
  split at h
  · cases h; exact .of_local (resume_knows k _ hk trivial)
  next owner howner =>
  split at h
  · next hguard =>
    cases h
    have hjudged : (Chain.progressJudge level seen k).judgesStale site s probe = some seen := by
      simp [Chain.judgesStale, howner, hguard]
    exact .of_local ⟨judgesStale_orphan hstale hjudged howner, hk⟩
  · cases h; exact .of_local (resume_knows k _ hk trivial)

lemma recoverJudge_kept {expect : Expectation} {seen : ℕ} {k : Stack .removal}
    {next : Shared × Chain} (hk : k.Knows site s)
    (hstale : ∀ seen' ∈ (Chain.recoverJudge expect seen k).judgesStale site s probe,
      ∀ inode ∈ s.files.inodes[seen']?, ¬ s.Live site inode.maker)
    (h : advance site a probe s (.recoverJudge expect seen k) = some next) :
    Kept site a s next := by
  simp only [advance] at h
  split at h
  · cases h; exact .of_local (resume_knows k _ hk trivial)
  next owner howner =>
  split at h
  · cases h; exact .of_local (resume_knows k _ hk trivial)
  split at h
  · next hremoved =>
    cases h
    have hjudged : (Chain.recoverJudge expect seen k).judgesStale site s probe = some seen := by
      simp [Chain.judgesStale, howner, hremoved]
    exact .of_local ⟨judgesStale_orphan hstale hjudged howner, hk⟩
  · cases h; exact .of_local (resume_knows k _ hk trivial)

theorem advance_kept (ha : s.Live site a) {next : Shared × Chain} (hk : l.Knows site s a)
    (hstale : ∀ seen ∈ l.judgesStale site s probe, ∀ inode ∈ s.files.inodes[seen]?,
      ¬ s.Live site inode.maker)
    (h : advance site a probe s l = some next) : Kept site a s next := by
  cases l with
  | idle => cases h
  | holding owner ino depth => cases h
  | acquireLoop acq retrying =>
    simp only [advance] at h
    split_ifs at h <;> (obtain rfl := some.inj h; exact .of_local trivial)
  | acquireSleep acq =>
    simp only [advance] at h
    split_ifs at h <;> (obtain rfl := some.inj h; exact .of_local trivial)
  | observeOpen acq =>
    simp only [advance] at h
    split at h <;> (obtain rfl := some.inj h; exact .of_local trivial)
  | observeLstat acq fd =>
    simp only [advance] at h
    split at h <;> (obtain rfl := some.inj h; exact .of_local trivial)
  | observeJudge acq seen =>
    obtain ⟨inode, -, rfl⟩ := map_eq_some_iff.mp h
    split
    · split <;> exact .of_local trivial
    · split <;> exact .of_local trivial
    all_goals exact .of_local trivial
  | acquired acq ino => cases h; exact ⟨rfl, hk, fun _ _ => .of_same fun _ hdead => hdead⟩
  | createLstat level owner k =>
    simp only [advance] at h
    split at h
    · cases h; exact .of_local (resume_knows k none hk nofun)
    · cases h; exact .of_local hk
  | createLink level owner k => exact createLink_kept hk h
  | progressOpen level k =>
    simp only [advance] at h
    split at h
    · cases h; exact .of_local (resume_knows k _ hk trivial)
    · cases h; exact .of_local hk
  | progressLstat level fd k =>
    simp only [advance] at h
    split at h
    · cases h; exact .of_local hk
    · cases h; exact .of_local (resume_knows k _ hk trivial)
  | progressJudge level seen k => exact progressJudge_kept hk hstale h
  | progressRecheck level k => cases h; exact .of_local (resume_knows k _ hk trivial)
  | cleanup point c k => cases h; exact cleanup_kept ha hk
  | removeHeld point level held k => cases h; exact removeHeld_kept ha hk
  | recoverOpen expect k =>
    simp only [advance] at h
    split at h
    · cases h; exact .of_local (resume_knows k _ hk trivial)
    · cases h; exact .of_local hk
  | recoverLstat expect fd k =>
    simp only [advance] at h
    split at h
    · cases h; exact .of_local hk
    · cases h; exact .of_local (resume_knows k _ hk trivial)
  | recoverJudge expect seen k => exact recoverJudge_kept hk hstale h
  | recover point r k => cases h; exact recover_kept ha hk

lemma abort_kept {l' : Chain} (hk : l.Knows site s a) (h : abort l = some l') :
    Kept site a s (s, l') := by
  cases l with
  | idle | holding _ _ _ | acquired _ _ => cases h
  | cleanup point c k => cases h; exact .of_local (Cleanup.finish_knows none hk.1 hk.2.1)
  | recover point r k => cases h; exact .of_local (Recovery.finish_knows none hk.1 hk.2.1)
  | _ => cases h; exact .of_local trivial

lemma releaseHeld_kept {owner : Owner} {ino depth : ℕ} (howns : Owns s.files a 0 ino) :
    Kept site a s (releaseHeld site a s owner ino depth) := by
  unfold releaseHeld
  split_ifs
  · exact .of_local trivial
  · exact .of_local howns
  · exact ⟨rfl, ⟨trivial, howns⟩, fun _ _ => .of_same fun _ hdead => hdead⟩

lemma reenterHeld_kept {owner : Owner} {ino depth : ℕ} {token : Option String}
    (howns : Owns s.files a 0 ino) : Kept site a s (s, reenterHeld s owner ino depth token) := by
  unfold reenterHeld
  split_ifs <;> exact .of_local howns

lemma perform_kept (ha : s.Live site a) {what : Act} {next : Shared × Chain}
    (hk : l.Knows site s a)
    (hstale : ∀ probe, what = .go probe →
      ∀ seen ∈ l.judgesStale site s probe, ∀ inode ∈ s.files.inodes[seen]?, ¬ s.Live site inode.maker)
    (h : what.perform site a s l = some next) : Kept site a s next := by
  cases what with
  | withLock command options probe =>
    simp only [Act.perform] at h
    split at h
    · split at h <;> (obtain rfl := some.inj h; exact .of_local trivial)
    · cases h
  | takeover pid startIdentity token =>
    simp only [Act.perform] at h
    split at h
    · split at h <;> (obtain rfl := some.inj h; exact .of_local trivial)
    · cases h
  | reenter token =>
    cases l with
    | holding owner ino depth => cases h; exact reenterHeld_kept hk
    | _ => cases h
  | release =>
    cases l with
    | holding owner ino depth => cases h; exact releaseHeld_kept hk
    | _ => cases h
  | go probe => exact advance_kept ha hk (hstale probe rfl) h
  | fail =>
    obtain ⟨l', hl', rfl⟩ := map_eq_some_iff.mp h
    exact abort_kept hk hl'

/-- A chain of a process that has not stopped has what it relies on. -/
def LiveKnows (site : Site) (s : Shared) (a : ChainId) (l : Chain) : Prop :=
  s.Live site a → l.Knows site s a

def Inv (site : Site) (w : World) : Prop := ∀ a, LiveKnows site w.shared a (w.chains a)

theorem Inv.step {w w' : World} {what : Action} (hinv : Inv site w)
    (h : w.step site what = some w') (hstale : LiveNeverStale site w what) : Inv site w' := by
  cases what with
  | act a what =>
    simp only [World.step] at h
    split at h
    · cases h
    next hrunning =>
    have ha : w.shared.Live site a := by simpa [Shared.Live] using hrunning
    obtain ⟨next, hperform, rfl⟩ := map_eq_some_iff.mp h
    have hkept := perform_kept ha (hinv a ha) (fun probe hprobe => by
      subst hprobe
      exact hstale) hperform
    have hsame : ∀ b, next.1.Live site b ↔ w.shared.Live site b := fun b => by
      simp only [Shared.Live, hkept.crashed]
    have hself : LiveKnows site next.1 a next.2 := fun _ => hkept.knows
    refine allKnow_update hinv hself fun b hb hknows hlive => ?_
    have hlive' := (hsame b).mp hlive
    refine (hknows hlive').frame hlive' ?_
    rw [show next.1.Live site = w.shared.Live site from funext fun c => propext (hsame c)]
    exact hkept.others b hb
  | crash p =>
    cases h
    intro a hlive
    have hdead : ∀ b, ¬ w.shared.Live site b →
        ¬ ({ w.shared with crashed := Function.update w.shared.crashed p true } :
          Shared).Live site b := by
      intro b hb hb'
      refine hb ?_
      simp only [Shared.Live, Function.update_apply] at hb'
      split at hb'
      · cases hb'
      · exact hb'
    have hlive' : w.shared.Live site a := not_not.mp fun hnot => hdead a hnot hlive
    exact (hinv a hlive').frame hlive' (.of_same hdead)

lemma Inv.owns {w : World} (hinv : Inv site w) {a : ChainId} (h : w.Holds site a) :
    ∃ ino, Owns w.shared.files a 0 ino := by
  obtain ⟨hlive, ⟨acq, ino, hat⟩ | ⟨owner, ino, depth, hat⟩⟩ := h
  · have hknows := hinv a hlive
    rw [hat] at hknows; exact ⟨ino, hknows⟩
  · have hknows := hinv a hlive
    rw [hat] at hknows; exact ⟨ino, hknows⟩

end Knows

/-- However the chains of any number of processes interleave and wherever processes stop,
from any lock and guard files left behind: one chain at most of the processes that run
holds the lock, if no live owner is classified stale. -/
theorem transitionLock_exclusive {w0 w : World} {actions : List Action}
    (h0 : ∀ a, w0.chains a = .idle) (hrun : run (World.step site) w0 actions = some w)
    (hstale : Along (World.step site) (LiveNeverStale site) w0 actions) :
    ∀ a b, w.Holds site a → w.Holds site b → a = b := by
  have hstart : Inv site w0 := by
    intro a _
    rw [h0 a]; trivial
  have hinv : Inv site w :=
    hstale.invariant hrun (fun s what s' hstep hcond hs => hs.step hstep hcond) hstart
  intro a b ha hb
  obtain ⟨i, hi⟩ := hinv.owns ha
  obtain ⟨j, hj⟩ := hinv.owns hb; exact hi.unique hj

def oneChainEach : Site where
  sandboxName := "my-assistant"
  proc := id
  pid := id
  ownerStartIdentityFallback := fun p => "unverified-self:" ++ toString p
  ownerBytes := fun _ => 200

/-- Process 7 stopped while it removed a stale lock of its own: the lock and the guard
over it are left behind. -/
def leftBehind : World where
  shared :=
    { files :=
        { linked := fun level => if level ≤ 1 then some level else none
          inodes := List.replicate 2 ⟨7, ⟨some (Owner.toJson
            ⟨1, "my-assistant", 7, "boot:7", "shields up", 0, none⟩), 200, 0⟩⟩ }
      crashed := fun p => p == 7
      held := fun _ => none }
  chains := fun _ => .idle

def ownerGone : Probe := ⟨false, none, some "boot:1", 5⟩

/-- Process 1 asks for the lock: it removes the guard under a guard of its own, takes the
guard, removes the lock and takes it. -/
def recoverBoth : List Action :=
  .act 1 (.withLock "shields down" ⟨none, none, none, none⟩ ownerGone) ::
    List.replicate 42 (.act 1 (.go ownerGone))

def Chain.isHolding : Chain → Bool
  | holding _ _ _ => true
  | _ => false

lemma recoverBoth_holds : ∃ w, run (World.step oneChainEach) leftBehind recoverBoth = some w ∧
    w.Holds oneChainEach 1 := by
  have hend : (run (World.step oneChainEach) leftBehind recoverBoth).map
      (fun w => (w.shared.crashed 1, (w.chains 1).isHolding)) = some (false, true) := by
    decide +kernel
  obtain ⟨w, hrun, hw⟩ := map_eq_some_iff.mp hend
  obtain ⟨hlive, hholding⟩ := Prod.mk.inj hw
  refine ⟨w, hrun, hlive, .inr ?_⟩
  cases hat : w.chains 1 with
  | holding owner ino depth => exact ⟨owner, ino, depth, rfl⟩
  | _ => rw [hat] at hholding; cases hholding

theorem transitionLock_recoverBoth :
    ∃ w, run (World.step oneChainEach) leftBehind recoverBoth = some w ∧
      w.Holds oneChainEach 1 ∧
      ∀ a b, w.Holds oneChainEach a → w.Holds oneChainEach b → a = b := by
  obtain ⟨w, hrun, hholds⟩ := recoverBoth_holds
  have hstale : Along (World.step oneChainEach) (LiveNeverStale oneChainEach) leftBehind
      recoverBoth := by decide +kernel
  exact ⟨w, hrun, hholds, transitionLock_exclusive oneChainEach (fun _ => rfl) hrun hstale⟩

end NemoClaw.TransitionLock
