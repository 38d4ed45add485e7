import NemoClaw.Mcp.LifecycleLock

/- Who is inside the MCP lifecycle lock.

A chain that holds a file owns what is linked at its name. A main lock whose owner is
gone is removed only by the chain that holds the reaper file, so a main lock that a
reaper has found stale while it was in place stays in place for it. But the reaper reads
the lock first and judges its owner later, and renames whatever is there: if the owner
gave the lock up in between and stopped, the rename takes the lock of someone else away,
who may have passed all checks but the one for the reaper file.

What is proved:
  1. `advance_kept` — what a step of one chain keeps, for it and for all others, if a
     reaper renames what it has read.
  2. So one live chain at most is inside in every run of such steps in which no live
     owner is classified stale.
  3. Without the condition two can be.
-/
namespace NemoClaw.LifecycleLock

open Runs LockFiles Option Function

def gateOf : Name → Option Name
  | .main => some .reaper
  | .reaper | .deadline | .containment => none

/-- The name whose file a chain must own where it is. -/
def Point.needs : Point → Option Name
  | post _ _ _ | inside _ | retainCheck | retained => some .main
  | reapHeld _ _ _ | rename (.reap _ _) => some .reaper
  | rename (.release name _ _) => some name
  | rename (.rollback _ _) => some .containment
  | _ => none

/-- What a chain can rely on: its files are where it put them, and a generation that it is
about to reap was left by a process that has stopped. -/
structure Chain.Knows (site : Site) (s : Shared) (a : ChainId) (c : Chain) : Prop where
  mine : ∀ name ino, c.mine name = some ino → Owns s.files a name ino
  needs : ∀ name, c.point.needs = some name → (c.mine name).isSome
  stale : ∀ seen, c.point.reaps = some seen → Orphan s.files (s.Live site) seen

section Steps

variable {site : Site} {a : ChainId} {s : Shared} {c : Chain} {probe : Probe}

lemma Chain.Knows.frame {s' : Shared} (ha : s.Live site a)
    (h : Undisturbed gateOf (s.Live site) (s'.Live site) a s.files s'.files)
    (hk : c.Knows site s a) : c.Knows site s' a where
  mine := fun name ino hmine => h.owns ha (hk.mine name ino hmine)
  needs := hk.needs
  stale := fun seen hseen => h.orphan (hk.stale seen hseen)

structure Kept (site : Site) (a : ChainId) (s : Shared) (next : Shared × Chain) : Prop where
  crashed : next.1.crashed = s.crashed
  knows : next.2.Knows site next.1 a
  others : ∀ b, b ≠ a →
    Undisturbed gateOf (s.Live site) (s.Live site) b s.files next.1.files

lemma Kept.of_local (hk : c.Knows site s a) : Kept site a s (s, c) where
  crashed := rfl
  knows := hk
  others := fun _ _ => .of_same fun _ h => h

variable {p : Point}

lemma Point.reaps_none (h : p.needs = none) : p.reaps = none := by
  cases p with
  | rename removal => cases removal <;> cases h
  | _ => rfl

lemma knows_plain {mine : Name → Option ℕ}
    (hmine : ∀ name ino, mine name = some ino → Owns s.files a name ino) (h : p.needs = none) :
    Chain.Knows site s a ⟨mine, p⟩ where
  mine := hmine
  needs := fun name hname => by
    have hnone : p.needs = some name := hname
    rw [h] at hnone
    cases hnone
  stale := fun seen hseen => by
    have hsome : p.reaps = some seen := hseen
    rw [Point.reaps_none h] at hsome
    cases hsome

section

variable (hk : c.Knows site s a)
include hk

lemma Chain.Knows.goto_plain (h : p.needs = none) :
    (c.goto p).Knows site s a := knows_plain hk.mine h

lemma Chain.Knows.goto_needing {name : Name} (hneeds : p.needs = some name)
    (hmine : (c.mine name).isSome) (hreaps : p.reaps = none) :
    (c.goto p).Knows site s a where
  mine := hk.mine
  needs := fun other hother => by
    cases hneeds.symm.trans hother
    exact hmine
  stale := fun seen hseen => by
    have hsome : p.reaps = some seen := hseen
    rw [hreaps] at hsome
    cases hsome

lemma mine_forget {name other : Name} {ino : ℕ} (h : (c.forget name).mine other = some ino) :
    other ≠ name ∧ Owns s.files a other ino := by
  have hupdate : Function.update c.mine name none other = some ino := h
  rw [update_apply] at hupdate
  split at hupdate
  · cases hupdate
  · next hne => exact ⟨hne, hk.mine other ino hupdate⟩

lemma Chain.Knows.forget (name : Name) (h : p.needs = none) :
    ((c.forget name).goto p).Knows site s a :=
  knows_plain (fun _ _ hmine => (mine_forget hk hmine).2) h

end

lemma Released.next_needs (k : Released) : k.next.needs = none := by
  cases k <;> rfl

lemma After.returned_needs (after : After) : after.returned.needs = none := by
  cases after <;> rfl

lemma After.thrown_needs (after : After) (failure : Failure) :
    (after.thrown failure).needs = none := by
  cases after <;> rfl

lemma Purpose.taken_needs (purpose : Purpose) : purpose.taken.needs = none := by
  cases purpose <;> rfl

lemma Removal.done_needs (removal : Removal) (claimed : Bool) :
    (removal.done claimed).needs = none := by
  cases removal with
  | release name seen k => exact k.next_needs
  | reap | rollback => rfl

lemma Removal.thrown_needs (removal : Removal) : removal.thrown.needs = none := by
  cases removal <;> rfl

lemma fenceFinish_needs (failure : Option Failure) (published : Bool) :
    (fenceFinish failure published).needs = none := by
  unfold fenceFinish
  split
  · rfl
  · rfl
  · split <;> rfl

lemma containUnlessPast_needs (acq : Acquisition) (probe : Probe) :
    (containUnlessPast acq probe).needs = none := by
  unfold containUnlessPast
  split <;> rfl

lemma AcquirePoint.next_needs (p : AcquirePoint) (acq : Acquisition) :
    (p.next site a probe s acq).needs = none := by
  cases p with
  | deadlineJudge seen | reaperJudge seen =>
    simp only [AcquirePoint.next]
    split
    · exact containUnlessPast_needs _ _
    · rfl
  | mainJudge seen =>
    simp only [AcquirePoint.next]
    split
    · split
      · split <;> rfl
      · exact containUnlessPast_needs _ _
    · rfl
  | _ =>
    simp only [AcquirePoint.next]
    repeat (first | rfl | split)

lemma ReapPoint.next_needs (p : ReapPoint) (acq : Acquisition) :
    (p.next probe s acq).needs = none := by
  cases p <;> simp only [ReapPoint.next] <;> repeat (first | rfl | split)

lemma FencePoint.next_needs (p : FencePoint) (f : Fence) :
    (p.next site a probe s f).needs = none := by
  cases p <;> simp only [FencePoint.next] <;> repeat (first | rfl | split)

lemma PublishPoint.next_needs (p : PublishPoint) (f : Fence) :
    (p.next site a probe s f).needs = none := by
  cases p <;> simp only [PublishPoint.next] <;>
    repeat (first | rfl | exact fenceFinish_needs _ _ | split)

lemma Point.abort_needs {p' : Point} {failure : Failure} (h : p.abort failure = some p') :
    p'.needs = none ∨ p = .retainCheck ∧ p' = .retained := by
  unfold Point.abort at h
  split at h <;> first
    | (cases h
       first
       | exact .inr ⟨rfl, rfl⟩
       | exact .inl rfl
       | exact .inl (After.thrown_needs _ _)
       | exact .inl (Removal.thrown_needs _)
       | exact .inl (fenceFinish_needs _ _))
    | cases h

/-! ## What each step keeps -/

lemma orphan_of_valid {seen : ℕ} (hvalid : isValidMainOwnerForSandbox site s seen)
    (hdead : ∀ inode ∈ s.files.inodes[seen]?, ¬ s.Live site inode.maker) :
    Orphan s.files (s.Live site) seen := by
  cases hinode : s.files.inodes[seen]? with
  | none =>
    simp [isValidMainOwnerForSandbox, Shared.ownerAt, Shared.textAt, hinode, LockText.owner]
      at hvalid
  | some inode => exact ⟨inode.maker, ⟨inode.content, hinode⟩, hdead inode hinode⟩

lemma post_kept {p : PostPoint} {acq : Acquisition} {token : Option String}
    (hpoint : c.point = .post p acq token) (hk : c.Knows site s a) :
    Kept site a s (s, c.goto (p.next probe s acq token)) := by
  have hmain : (c.mine .main).isSome := hk.needs .main (by rw [hpoint]; rfl)
  have hgiveUp : Kept site a s (s, c.goto (giveUp acq)) := .of_local (hk.goto_plain rfl)
  cases p with
  | containment | deadline | reaper =>
    simp only [PostPoint.next]
    split
    · exact hgiveUp
    · exact .of_local (hk.goto_needing rfl hmain rfl)
  | timer =>
    simp only [PostPoint.next]
    split
    · exact hgiveUp
    · split
      · exact .of_local (hk.goto_plain rfl)
      · exact .of_local (hk.goto_needing rfl hmain rfl)

/-- The reaper goes on to the rename only with a generation whose owner has stopped. -/
lemma reapHeld_kept {p : ReapHeldPoint} {acq : Acquisition} {token : Option String}
    (hpoint : c.point = .reapHeld p acq token) (hk : c.Knows site s a)
    (hstale : ∀ seen ∈ c.point.judgesStale site a probe s, ∀ inode ∈ s.files.inodes[seen]?,
      ¬ s.Live site inode.maker) :
    Kept site a s (s, c.goto (p.next site a probe s acq token)) := by
  have hreaper : (c.mine .reaper).isSome := hk.needs .reaper (by rw [hpoint]; rfl)
  have hplain : ∀ k, Kept site a s (s, c.goto (.release .reaper k)) :=
    fun k => .of_local (hk.goto_plain rfl)
  cases p with
  | containment =>
    simp only [ReapHeldPoint.next]
    split
    · exact hplain _
    · split
      · exact hplain _
      · exact .of_local (hk.goto_needing rfl hreaper rfl)
  | deadline =>
    simp only [ReapHeldPoint.next]
    split
    · exact hplain _
    · exact .of_local (hk.goto_needing rfl hreaper rfl)
  | readMain =>
    simp only [ReapHeldPoint.next]
    split
    · exact hplain _
    · exact .of_local (hk.goto_needing rfl hreaper rfl)
  | judge seen =>
    simp only [ReapHeldPoint.next]
    split
    · next hvalid =>
      split
      · exact hplain _
      next hnot =>
      split
      · exact hplain _
      split
      · exact .of_local (hk.goto_plain rfl)
      rw [not_or, not_not] at hnot
      refine .of_local ⟨hk.mine, fun name hname => ?_, fun seen' hseen' => ?_⟩
      · cases hname; exact hreaper
      cases hseen'
      have hjudged : seen ∈ c.point.judgesStale site a probe s := by
        rw [hpoint]; exact if_pos ⟨hvalid, hnot.1⟩
      exact orphan_of_valid hvalid (hstale seen hjudged)
    · exact hplain _

lemma ownAt_mine {mine : Name → Option ℕ} {name : Name} {seen : ℕ}
    (h : ownAt site s mine name = some seen) : (mine name).isSome := by
  obtain ⟨-, hany⟩ := filter_eq_some_iff.mp h
  cases hmine : mine name with
  | none => simp [hmine] at hany
  | some ino => rfl

lemma contain_kept {p : ContainPoint} {after : After} (hk : c.Knows site s a) :
    Kept site a s (s, c.goto (p.next site probe s c.mine after)) := by
  have hplain : ∀ {p : Point}, p.needs = none → Kept site a s (s, c.goto p) :=
    fun h => .of_local (hk.goto_plain h)
  cases p with
  | present =>
    simp only [ContainPoint.next]
    split
    · exact hplain after.returned_needs
    · exact hplain rfl
  | authority =>
    simp only [ContainPoint.next]
    split <;> exact hplain rfl
  | commit =>
    simp only [ContainPoint.next]
    split
    · exact hplain after.returned_needs
    · exact hplain rfl
  | rollback =>
    simp only [ContainPoint.next]
    split
    · next seen hown => exact .of_local (hk.goto_needing rfl (ownAt_mine hown) rfl)
    · exact hplain rfl
  | caught failure =>
    simp only [ContainPoint.next]
    split
    · exact hplain after.returned_needs
    · exact hplain (after.thrown_needs failure)

lemma Purpose.linked_needs (purpose : Purpose) :
    (purpose.linked.needs = none ∨ purpose.linked.needs = some purpose.name) ∧
      purpose.linked.reaps = none := by
  cases purpose with
  | main | reaper => exact ⟨.inr rfl, rfl⟩
  | containment | deadline | fenceMain => exact ⟨.inl rfl, rfl⟩

lemma linked_knows {purpose : Purpose} (hk : c.Knows site s a)
    (hmine : (c.mine purpose.name).isSome) : (c.goto purpose.linked).Knows site s a := by
  obtain ⟨hnone | hname, hreaps⟩ := purpose.linked_needs
  · exact hk.goto_plain hnone
  · exact hk.goto_needing hname hmine hreaps

lemma take_knows {name : Name} (text : LockText) (hk : c.Knows site s a)
    (hfree : s.files.linked name = none) :
    ((c.take name s.files.inodes.length).goto .idle).Knows site
      { s with files := s.files.publish name a text } a := by
  refine knows_plain (fun other ino hmine => ?_) rfl
  have hupdate : Function.update c.mine name (some s.files.inodes.length) other = some ino := hmine
  rw [update_apply] at hupdate
  split at hupdate
  · next heq =>
    subst heq
    cases hupdate; exact s.files.made_publish other a text
  · have howns := hk.mine other ino hupdate
    exact ⟨linked_of_free hfree howns.1, howns.2.mono (s.files.prefix_publish name a text)⟩

lemma link_kept {purpose : Purpose} (hk : c.Knows site s a) :
    Kept site a s (purpose.advance site a probe s c) := by
  unfold Purpose.advance
  split
  · exact .of_local (hk.goto_plain purpose.taken_needs)
  next htaken =>
  have hfree : s.files.linked purpose.name = none := by simpa [Shared.isAt] using htaken
  refine ⟨rfl, ?_, fun b _ => .of_publish hfree _⟩
  show (((c.take purpose.name s.files.inodes.length).goto .idle).goto _).Knows site _ a
  split
  · exact (take_knows _ hk hfree).goto_plain rfl
  refine linked_knows (take_knows _ hk hfree) ?_
  show (Function.update c.mine purpose.name (some _) purpose.name).isSome
  rw [update_self]; rfl

lemma reconcile_kept {purpose : Purpose} (hk : c.Knows site s a) :
    Kept site a s (purpose.reconcile site s c) := by
  unfold Purpose.reconcile
  split
  · next seen hown => exact .of_local (linked_knows hk (ownAt_mine hown))
  · exact .of_local (hk.goto_plain purpose.taken_needs)

lemma Removal.forget_knows {removal : Removal} (hk : c.Knows site s a) (h : p.needs = none) :
    ((removal.forget c).goto p).Knows site s a := by
  cases removal with
  | release name seen k => exact hk.forget name h
  | rollback seen after => exact hk.forget .containment h
  | reap acq seen => exact hk.goto_plain h

lemma renameOwn_kept {name : Name} {ino : ℕ} (ha : s.Live site a) (hk : c.Knows site s a)
    (hmine : (c.mine name).isSome) (hlinked : s.files.linked name = some ino) (h : p.needs = none) :
    Kept site a s ({ s with files := s.files.unlink name }, (c.forget name).goto p) := by
  obtain ⟨own, hown⟩ := isSome_iff_exists.mp hmine
  have howns := hk.mine name own hown
  cases hlinked.symm.trans howns.1
  refine ⟨rfl, knows_plain (fun other ino' hother => ?_) h, fun b hb => ?_⟩
  · obtain ⟨hne, hothers⟩ := mine_forget hk hother; exact hothers.of_unlink hne
  · exact .of_unlink ha hb hlinked (.inl howns.2)

lemma renameStale_kept {seen : ℕ} (ha : s.Live site a) (hk : c.Knows site s a)
    (hreaper : (c.mine .reaper).isSome) (horphan : Orphan s.files (s.Live site) seen)
    (hlinked : s.files.linked .main = some seen) (h : p.needs = none) :
    Kept site a s ({ s with files := s.files.unlink .main }, c.goto p) := by
  obtain ⟨own, hown⟩ := isSome_iff_exists.mp hreaper
  refine ⟨rfl, knows_plain (fun other ino hother => ?_) h, fun b hb => ?_⟩
  · have howns := hk.mine other ino hother
    refine howns.of_unlink fun hmain => ?_
    subst hmain; cases hlinked.symm.trans howns.1; exact howns.2.not_orphan ha horphan
  · exact .of_unlink ha hb hlinked (.inr ⟨horphan, _, own, rfl, hk.mine .reaper own hown⟩)

lemma rename_kept {removal : Removal} (hpoint : c.point = .rename removal) (ha : s.Live site a)
    (hk : c.Knows site s a)
    (hread : ∀ seen ∈ c.point.reaps, ∀ ino ∈ s.files.linked .main, ino = seen) :
    Kept site a s (removal.rename s c) := by
  unfold Removal.rename
  split
  · exact .of_local (removal.forget_knows hk (removal.done_needs false))
  next ino hlinked =>
  cases removal with
  | release name seen k =>
    exact renameOwn_kept ha hk (hk.needs name (by rw [hpoint]; rfl)) hlinked rfl
  | rollback seen after =>
    exact renameOwn_kept ha hk (hk.needs .containment (by rw [hpoint]; rfl)) hlinked rfl
  | reap acq seen =>
    have hreaps : c.point.reaps = some seen := by rw [hpoint]; rfl
    obtain rfl := hread seen hreaps ino hlinked
    exact renameStale_kept ha hk (hk.needs .reaper (by rw [hpoint]; rfl)) (hk.stale ino hreaps)
      hlinked rfl

lemma claimed_kept {removal : Removal} {ino : ℕ} (hk : c.Knows site s a) :
    Kept site a s (s, removal.claimed probe s c ino) := by
  unfold Removal.claimed
  split
  · split
    · exact .of_local (hk.goto_plain (removal.done_needs true))
    · exact .of_local (hk.goto_plain rfl)
  · exact .of_local (hk.goto_plain rfl)

/-- Putting a file back at a free name disturbs nobody. -/
lemma restore_kept {removal : Removal} {ino : ℕ} {threw : Bool} (hk : c.Knows site s a) :
    Kept site a s (removal.restore s c ino threw) := by
  have hneeds : (if threw then removal.thrown else removal.done false).needs = none := by
    split
    · exact removal.thrown_needs
    · exact removal.done_needs false
  simp only [Removal.restore]
  generalize (if threw then removal.thrown else removal.done false) = next at hneeds ⊢
  split
  · exact .of_local (hk.goto_plain hneeds)
  next hat =>
  have hfree : s.files.linked removal.name = none := by simpa [Shared.isAt] using hat
  refine ⟨rfl, knows_plain (fun name own hmine => ?_) hneeds, fun b _ => .of_relink hfree ino⟩
  exact (hk.mine name own hmine).of_relink hfree

lemma release_kept {name : Name} {k : Released} (hk : c.Knows site s a) :
    Kept site a s (s, releaseOwn site s c name k) := by
  unfold releaseOwn
  split
  · next seen hown => exact .of_local (hk.goto_needing rfl (ownAt_mine hown) rfl)
  · exact .of_local (hk.forget name k.next_needs)

theorem advance_kept {next : Shared × Chain} (ha : s.Live site a) (hk : c.Knows site s a)
    (hstale : ∀ seen ∈ c.point.judgesStale site a probe s, ∀ inode ∈ s.files.inodes[seen]?,
      ¬ s.Live site inode.maker)
    (hread : ∀ seen ∈ c.point.reaps, ∀ ino ∈ s.files.linked .main, ino = seen)
    (h : advance site a probe s c = some next) : Kept site a s next := by
  unfold advance at h
  generalize hpoint : c.point = point at h
  cases point with
  | idle | inside _ | fenceInside _ | retained | fenceRetained => cases h
  | acquire point acq => cases h; exact .of_local (hk.goto_plain (point.next_needs acq))
  | post point acq token => cases h; exact post_kept hpoint hk
  | retainCheck =>
    cases h
    have hmain : (c.mine .main).isSome := hk.needs .main (by rw [hpoint]; rfl)
    split
    · exact .of_local (hk.goto_plain rfl)
    · exact .of_local (hk.goto_needing rfl hmain rfl)
  | reap point acq => cases h; exact .of_local (hk.goto_plain (point.next_needs acq))
  | reapHeld point acq token => cases h; exact reapHeld_kept hpoint hk hstale
  | contain point after => cases h; exact contain_kept hk
  | link purpose => cases h; exact link_kept hk
  | reconcile purpose => cases h; exact reconcile_kept hk
  | rename removal => cases h; exact rename_kept hpoint ha hk hread
  | claimed removal ino => cases h; exact claimed_kept hk
  | restore removal ino threw => cases h; exact restore_kept hk
  | release name k => cases h; exact release_kept hk
  | fence point f => cases h; exact .of_local (hk.goto_plain (point.next_needs f))
  | publish point f =>
    cases point with
    | start =>
      dsimp only at h
      split at h
      · cases h; exact .of_local (hk.goto_plain rfl)
      · cases h; exact .of_local (hk.forget .main rfl)
    | _ => cases h; exact .of_local (hk.goto_plain (PublishPoint.next_needs _ f))
  | fenceRetainCheck published =>
    cases h
    split
    · exact .of_local (hk.goto_plain (fenceFinish_needs none published))
    · exact .of_local (hk.goto_plain rfl)

lemma finishInside_kept {token : Option String} {failure : Option Failure} {retain : Bool}
    (hpoint : c.point = .inside token) (hk : c.Knows site s a) :
    Kept site a s (s, c.goto (finishInside token failure retain)) := by
  have hmain : (c.mine .main).isSome := hk.needs .main (by rw [hpoint]; rfl)
  unfold finishInside
  split
  · split
    · exact .of_local (hk.goto_needing rfl hmain rfl)
    · exact .of_local (hk.goto_needing rfl hmain rfl)
    · exact .of_local (hk.goto_needing rfl hmain rfl)
    · exact .of_local (hk.goto_plain rfl)
  · exact .of_local (hk.goto_plain rfl)

lemma finishFence_needs (failure : Option Failure) (retain : Bool) :
    (finishFence failure retain).needs = none := by
  unfold finishFence
  split
  · exact fenceFinish_needs _ _
  · rfl
  · exact fenceFinish_needs _ _

/-- An action that is not an instruction touches no file, and the chain stays or goes on to a point
that relies on nothing or to a lock that is retained. -/
lemma perform_cases {what : Act} {next : Shared × Chain}
    (h : what.perform site a s c = some next) :
    (∃ probe, what = .go probe ∧ advance site a probe s c = some next) ∨ next = (s, c) ∨
      ∃ p, next = (s, c.goto p) ∧ (p.needs = none ∨
        (∃ token failure retain, c.point = .inside token ∧
          p = finishInside token failure retain) ∨
        c.point = .retainCheck ∧ p = .retained) := by
  cases what with
  | withLock timeoutMs grace now =>
    simp only [Act.perform] at h
    split at h
    · cases h; exact .inr (.inr ⟨_, rfl, .inl rfl⟩)
    · cases h
  | withFence token grace throws synchronous =>
    simp only [Act.perform] at h
    split at h
    · split at h
      · cases h; exact .inr (.inr ⟨_, rfl, .inl rfl⟩)
      · exact .inr (.inl (some.inj h).symm)
    · cases h
  | finish failure retain =>
    simp only [Act.perform] at h
    split at h
    · next token hpoint =>
      cases h; exact .inr (.inr ⟨_, rfl, .inr (.inl ⟨token, failure, retain, hpoint, rfl⟩)⟩)
    · cases h; exact .inr (.inr ⟨_, rfl, .inl (finishFence_needs failure retain)⟩)
    · cases h
  | go probe => exact .inl ⟨probe, rfl, h⟩
  | fail failure =>
    obtain ⟨p, hp, rfl⟩ := map_eq_some_iff.mp h
    exact .inr (.inr ⟨p, rfl, (Point.abort_needs hp).imp_right .inr⟩)

lemma perform_kept {what : Act} {next : Shared × Chain} (ha : s.Live site a)
    (hk : c.Knows site s a)
    (hgo : ∀ probe, what = .go probe →
      (∀ seen ∈ c.point.judgesStale site a probe s, ∀ inode ∈ s.files.inodes[seen]?,
        ¬ s.Live site inode.maker) ∧
      ∀ seen ∈ c.point.reaps, ∀ ino ∈ s.files.linked .main, ino = seen)
    (h : what.perform site a s c = some next) : Kept site a s next := by
  rcases perform_cases h with ⟨probe, hwhat, hadvance⟩ | rfl |
    ⟨p, rfl, hplain | ⟨token, failure, retain, hpoint, rfl⟩ | ⟨hcheck, rfl⟩⟩
  · obtain ⟨hstale, hread⟩ := hgo probe hwhat
    exact advance_kept ha hk hstale hread hadvance
  · exact .of_local hk
  · exact .of_local (hk.goto_plain hplain)
  · exact finishInside_kept hpoint hk
  · exact .of_local (hk.goto_needing rfl (hk.needs .main (by rw [hcheck]; rfl)) rfl)

end Steps

/-- A chain of a process that has not stopped has what it relies on. -/
def LiveKnows (site : Site) (s : Shared) (a : ChainId) (c : Chain) : Prop :=
  s.Live site a → c.Knows site s a

def Inv (site : Site) (w : World) : Prop := ∀ a, LiveKnows site w.shared a (w.chains a)

/-- What is asked of every step. -/
def Disciplined (site : Site) (w : World) (what : Action) : Prop :=
  LiveNeverStale site w what ∧ ReapsWhatItRead w what

section Runs

variable {site : Site} {w w' : World}

lemma Inv.step {what : Action} (hinv : Inv site w) (h : w.step site what = some w')
    (hd : Disciplined site w what) : Inv site w' := by
  cases what with
  | act a what =>
    simp only [World.step] at h
    split at h
    · cases h
    next hrunning =>
    have ha : w.shared.Live site a := by simpa [Shared.Live] using hrunning
    obtain ⟨next, hperform, rfl⟩ := map_eq_some_iff.mp h
    have hkept := perform_kept ha (hinv a ha) (fun probe hprobe => by
      subst hprobe
      exact hd) hperform
    have hsame : next.1.Live site = w.shared.Live site := by
      funext b; simp only [Shared.Live, hkept.crashed]
    have hself : LiveKnows site next.1 a next.2 := fun _ => hkept.knows
    refine allKnow_update hinv hself fun b hb hknows hlive => ?_
    rw [hsame] at hlive
    refine (hknows hlive).frame hlive ?_
    rw [hsame]; exact hkept.others b hb
  | crash p =>
    cases h
    intro a hlive
    have hdead : ∀ b, ¬ w.shared.Live site b →
        ¬ ({ w.shared with crashed := Function.update w.shared.crashed p true } :
          Shared).Live site b := by
      intro b hb hb'
      refine hb ?_
      simp only [Shared.Live, update_apply] at hb'
      split at hb'
      · cases hb'
      · exact hb'
    have hlive' : w.shared.Live site a := not_not.mp fun hnot => hdead a hnot hlive
    exact (hinv a hlive').frame hlive' (.of_same hdead)

lemma Inv.owns {a : ChainId} (hinv : Inv site w) (h : w.Holds site a) :
    ∃ ino, Owns w.shared.files a .main ino := by
  obtain ⟨hlive, hinside⟩ := h
  have hk := hinv a hlive
  have hneeds : (w.chains a).point.needs = some .main := by
    cases hpoint : (w.chains a).point with
    | inside _ | retainCheck | retained => rfl
    | _ => rw [hpoint] at hinside; cases hinside
  obtain ⟨ino, hino⟩ := isSome_iff_exists.mp (hk.needs .main hneeds)
  exact ⟨ino, hk.mine .main ino hino⟩

end Runs

/-- In every interleaving, with processes stopping anywhere and from any lock files left
behind: if no live owner is classified stale and each reaper renames away the generation
it has read, one live chain at most is between an ordinary acquisition and its release. -/
theorem lifecycleLock_exclusive (site : Site) {w0 w : World} {actions : List Action}
    (h0 : ∀ a, w0.chains a = ⟨fun _ => none, .idle⟩)
    (hrun : run (World.step site) w0 actions = some w)
    (hsteps : Along (World.step site) (Disciplined site) w0 actions) :
    ∀ a b, w.Holds site a → w.Holds site b → a = b := by
  have hstart : Inv site w0 := by
    intro a _
    rw [h0 a]; exact knows_plain (fun _ _ hnone => by cases hnone) rfl
  have hinv : Inv site w :=
    hsteps.invariant hrun (fun s what s' hstep hcond hs => hs.step hstep hcond) hstart
  intro a b ha hb
  obtain ⟨i, hi⟩ := hinv.owns ha
  obtain ⟨j, hj⟩ := hinv.owns hb; exact hi.unique hj

instance (site : Site) (w : World) (what : Action) : Decidable (Disciplined site w what) :=
  inferInstanceAs (Decidable (_ ∧ _))

/-- Each process has one chain. -/
def oneHost : Site where
  sandboxName := "my-assistant"
  proc := id
  pid := id
  host := fun _ => ⟨"linux:host", none⟩
  token := fun ino => String.ofList (List.replicate (ino + 1) 't')

def leftInside : World where
  shared :=
    { files :=
        { linked := fun name => if name = .main then some 0 else none
          inodes := [⟨9, ⟨some (Owner.toJson ⟨1, "my-assistant", 9, some "linux:9",
            some "linux:host", none, none, "left", "2026-01-01T00:00:00.000Z"⟩), .regular, 0⟩⟩] }
      crashed := fun p => p == 9 }
  chains := fun _ => ⟨fun _ => none, .idle⟩

def ownerGone : Probe :=
  ⟨false, none, none, some "linux:1", 0, none, false, false, "2026-01-01T00:00:01.000Z", 0⟩

def begin (a : ChainId) : List Action := [.act a (.withLock none none 0)]

def goes (a : ChainId) (steps : ℕ) : List Action := List.replicate steps (.act a (.go ownerGone))

lemma holds_of_end (actions : List Action) (chains : List ChainId)
    (hend : (run (World.step oneHost) leftInside actions).map (fun w => chains.all fun a =>
      !w.shared.crashed a && (w.chains a).point.isInside) = some true) :
    ∃ w, run (World.step oneHost) leftInside actions = some w ∧
      ∀ a ∈ chains, w.Holds oneHost a := by
  obtain ⟨w, hrun, hall⟩ := map_eq_some_iff.mp hend
  refine ⟨w, hrun, fun a ha => ?_⟩
  have hboth := List.all_eq_true.mp hall a ha
  rw [Bool.and_eq_true, Bool.not_eq_true'] at hboth; exact hboth

/-- Process 1 removes the lock that was left and takes it. -/
theorem lifecycleLock_reapAndEnter :
    ∃ w, run (World.step oneHost) leftInside (begin 1 ++ goes 1 34) = some w ∧
      w.Holds oneHost 1 ∧ ∀ a b, w.Holds oneHost a → w.Holds oneHost b → a = b := by
  obtain ⟨w, hrun, hholds⟩ := holds_of_end (begin 1 ++ goes 1 34) [1] (by decide +kernel)
  have hsteps : Along (World.step oneHost) (Disciplined oneHost) leftInside
      (begin 1 ++ goes 1 34) := by decide +kernel
  exact ⟨w, hrun, hholds 1 (by simp), lifecycleLock_exclusive oneHost (fun _ => rfl) hrun hsteps⟩

/-- Process 2 reads the lock of 1, which releases it and stops. 3 links its own, 2 renames that
away, and 4 links its own before 2 can put it back. -/
def renamedAway : List Action :=
  begin 2 ++ goes 2 12 ++ begin 3 ++ goes 3 7 ++ begin 4 ++ goes 4 7 ++ begin 1 ++ goes 1 34 ++
    goes 2 4 ++ [.act 1 (.finish none false)] ++ goes 1 3 ++ [.crash 1] ++ goes 3 1 ++ goes 2 2 ++
    goes 4 1 ++ goes 2 5 ++ goes 3 4 ++ goes 4 4

/-- Two live processes are inside, though no live owner was classified stale. -/
theorem lifecycleLock_renamedAway :
    ¬ ∀ (actions : List Action) (w : World),
      run (World.step oneHost) leftInside actions = some w →
        Along (World.step oneHost) (LiveNeverStale oneHost) leftInside actions →
          ∀ a b, w.Holds oneHost a → w.Holds oneHost b → a = b := by
  intro h
  obtain ⟨w, hrun, hholds⟩ := holds_of_end renamedAway [3, 4] (by decide +kernel)
  have hlive : Along (World.step oneHost) (LiveNeverStale oneHost) leftInside renamedAway := by
    decide +kernel
  have hsame := h renamedAway w hrun hlive 3 4 (hholds 3 (by simp)) (hholds 4 (by simp))
  cases hsame

end NemoClaw.LifecycleLock
