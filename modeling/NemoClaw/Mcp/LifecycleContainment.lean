import NemoClaw.Mcp.LifecycleExclusion

/- What the gates of the MCP lifecycle lock keep out.

An acquisition looks for the three gate files before it links the main lock and again
after that, in the order containment, deadline, reaper; what it finds then decides. A gate
that is linked after it was looked for the second time is not seen any more, so one
acquisition can return while the gate stands. Every other one is kept out for as long as
it stands.

A main lock that carries a shields takeover token is not given to a reaper to rename:
when its owner has stopped it stays where it is, and containment is committed.

What is proved:
  1. `advance_past` — with the gate in place nobody gets past the second look at it.
  2. A lock that is bound to the timer outlives its owner in every run in which no live
     owner is classified stale and a reaper renames what it has read.
  3. Without the second look an acquisition can return while containment stands.
-/
namespace NemoClaw.LifecycleLock

open Runs LockFiles Option Function

inductive Gate where
  | containment
  | deadline
  | reaper
  deriving DecidableEq

def Gate.name : Gate → Name
  | containment => .containment
  | deadline => .deadline
  | reaper => .reaper

def Gate.place : Gate → ℕ
  | containment => 0
  | deadline => 1
  | reaper => 2

def PostPoint.place : PostPoint → ℕ
  | containment => 0
  | deadline => 1
  | reaper => 2
  | timer => 3

/-- The acquisition has looked for the gate a second time and not found it, or has returned. -/
def Point.isPast (gate : Gate) : Point → Bool
  | post point _ _ => gate.place < point.place
  | inside _ | retainCheck | retained => true
  | _ => false

section Steps

variable {site : Site} {a : ChainId} {s : Shared} {c : Chain} {probe : Probe} {gate : Gate}

variable {p : Point} {acq : Acquisition} (purpose : Purpose) {ino : ℕ}

lemma Point.isPast_of_isInside (h : p.isInside) : p.isPast gate := by
  cases p with
  | inside _ | retainCheck | retained => rfl
  | _ => cases h

lemma Point.isPast_needs (h : p.isPast gate) : p.needs = some .main := by
  cases p with
  | post point acq token => rfl
  | inside _ | retainCheck | retained => rfl
  | _ => cases h

lemma Point.not_past_of_needs (h : p.needs ≠ some .main) : p.isPast gate = false := by
  rw [← Bool.not_eq_true]
  intro hpast; exact h (Point.isPast_needs hpast)

lemma Point.not_past_of_plain (h : p.needs = none) : p.isPast gate = false := by
  apply Point.not_past_of_needs
  rw [h]; simp

lemma Chain.goto_past (h : p.needs = none) :
    (c.goto p).point.isPast gate = false := Point.not_past_of_plain h

/-- The second look at a gate that is there ends the attempt. -/
lemma PostPoint.next_past {p : PostPoint} {token : Option String}
    (hgate : s.isAt gate.name) (hp : ¬gate.place < p.place) :
    (p.next probe s acq token).isPast gate = false := by
  have hgiveUp : (giveUp acq).isPast gate = false := rfl
  cases gate with
  | containment =>
    have hat : s.isAt .containment := hgate
    cases p with
    | containment => simp only [PostPoint.next, hat, if_true]; exact hgiveUp
    | deadline | reaper | timer => exact absurd (by decide) hp
  | deadline =>
    have hat : s.isAt .deadline := hgate
    cases p with
    | containment =>
      simp only [PostPoint.next]
      split
      · exact hgiveUp
      · rfl
    | deadline => simp only [PostPoint.next, hat, if_true]; exact hgiveUp
    | reaper | timer => exact absurd (by decide) hp
  | reaper =>
    have hat : s.isAt .reaper := hgate
    cases p with
    | containment | deadline =>
      simp only [PostPoint.next]
      split
      · exact hgiveUp
      · rfl
    | reaper => simp only [PostPoint.next, hat, if_true]; exact hgiveUp
    | timer => exact absurd (by decide) hp

lemma ReapHeldPoint.next_past {p : ReapHeldPoint} {token : Option String} :
    (p.next site a probe s acq token).isPast gate = false := by
  cases p with
  | containment | deadline | readMain =>
    simp only [ReapHeldPoint.next]
    repeat (first | rfl | split)
  | judge seen =>
    simp only [ReapHeldPoint.next]
    repeat (first | rfl | split)

lemma ContainPoint.next_past {p : ContainPoint} {after : After} {mine : Name → Option ℕ} :
    (p.next site probe s mine after).isPast gate = false := by
  have hreturned : after.returned.isPast gate = false :=
    Point.not_past_of_plain after.returned_needs
  cases p with
  | present =>
    simp only [ContainPoint.next]
    split
    · exact hreturned
    · rfl
  | authority =>
    simp only [ContainPoint.next]
    split <;> rfl
  | commit =>
    simp only [ContainPoint.next]
    split
    · exact hreturned
    · rfl
  | rollback =>
    simp only [ContainPoint.next]
    split <;> rfl
  | caught failure =>
    simp only [ContainPoint.next]
    split
    · exact hreturned
    · exact Point.not_past_of_plain (after.thrown_needs failure)

/-- A link of the main lock is followed by the second looks, all of them. -/
lemma Purpose.linked_past : purpose.linked.isPast gate = false := by
  cases purpose with
  | main acq token =>
    show decide (gate.place < 0) = false; exact decide_eq_false (Nat.not_lt_zero _)
  | _ => rfl

lemma Purpose.taken_past : purpose.taken.isPast gate = false :=
  Point.not_past_of_plain purpose.taken_needs

theorem Purpose.advance_past : (purpose.advance site a probe s c).2.point.isPast gate = false := by
  unfold Purpose.advance
  split
  · exact purpose.taken_past
  · split
    · rfl
    · exact purpose.linked_past

lemma Purpose.reconcile_past : (purpose.reconcile site s c).2.point.isPast gate = false := by
  unfold Purpose.reconcile
  split
  · exact purpose.linked_past
  · exact purpose.taken_past

lemma Removal.rename_past (removal : Removal) :
    (removal.rename s c).2.point.isPast gate = false := by
  unfold Removal.rename
  split
  · exact Point.not_past_of_plain (removal.done_needs false)
  · rfl

lemma Removal.claimed_past (removal : Removal) :
    (removal.claimed probe s c ino).point.isPast gate = false := by
  unfold Removal.claimed
  split
  · split
    · exact Point.not_past_of_plain (removal.done_needs true)
    · rfl
  · rfl

lemma Removal.restore_past (removal : Removal) {threw : Bool} :
    (removal.restore s c ino threw).2.point.isPast gate = false := by
  have hnext : (if threw then removal.thrown else removal.done false).isPast gate = false := by
    split
    · exact Point.not_past_of_plain removal.thrown_needs
    · exact Point.not_past_of_plain (removal.done_needs false)
  simp only [Removal.restore]
  split <;> exact hnext

lemma releaseOwn_past {name : Name} {k : Released} :
    (releaseOwn site s c name k).point.isPast gate = false := by
  unfold releaseOwn
  split
  · rfl
  · exact Point.not_past_of_plain k.next_needs

theorem advance_past {next : Shared × Chain} (hgate : s.isAt gate.name)
    (hc : c.point.isPast gate = false) (h : advance site a probe s c = some next) :
    next.2.point.isPast gate = false := by
  unfold advance at h
  generalize hpoint : c.point = point at h
  cases point with
  | idle | inside _ | fenceInside _ | retained | fenceRetained => cases h
  | acquire point acq => cases h; exact Point.not_past_of_plain (point.next_needs acq)
  | post point acq token =>
    cases h
    rw [hpoint] at hc; exact PostPoint.next_past hgate (of_decide_eq_false hc)
  | retainCheck => rw [hpoint] at hc; cases hc
  | reap point acq => cases h; exact Point.not_past_of_plain (point.next_needs acq)
  | reapHeld point acq token => cases h; exact ReapHeldPoint.next_past
  | contain point after => cases h; exact ContainPoint.next_past
  | link purpose => cases h; exact purpose.advance_past
  | reconcile purpose => cases h; exact purpose.reconcile_past
  | rename removal => cases h; exact removal.rename_past
  | claimed removal ino => cases h; exact removal.claimed_past
  | restore removal ino threw => cases h; exact removal.restore_past
  | release name k => cases h; exact releaseOwn_past
  | fence point f => cases h; exact Point.not_past_of_plain (point.next_needs f)
  | publish point f =>
    cases point with
    | start =>
      dsimp only at h
      split at h
      · cases h; rfl
      · cases h; rfl
    | _ => cases h; exact Chain.goto_past (PublishPoint.next_needs _ f)
  | fenceRetainCheck published =>
    cases h
    split
    · exact Point.not_past_of_plain (fenceFinish_needs none published)
    · rfl

lemma perform_past {what : Act} {next : Shared × Chain} (hgate : s.isAt gate.name)
    (hc : c.point.isPast gate = false) (h : what.perform site a s c = some next) :
    next.2.point.isPast gate = false := by
  rcases perform_cases h with ⟨probe, -, hadvance⟩ | rfl |
    ⟨p, rfl, hplain | ⟨token, failure, retain, hpoint, rfl⟩ | ⟨hcheck, -⟩⟩
  · exact advance_past hgate hc hadvance
  · exact hc
  · exact Point.not_past_of_plain hplain
  · rw [hpoint] at hc; cases hc
  · rw [hcheck] at hc; cases hc

/-! ## A lock that is bound to the timer -/

/-- The generation has an owner, and that carries no shields takeover token. -/
def Unbound (s : Shared) (ino : ℕ) : Prop :=
  ∃ owner, s.ownerAt ino = some owner ∧ owner.shieldsTakeoverToken = none

/-- The owner carries a shields takeover token. -/
def Bound (s : Shared) (ino : ℕ) : Prop :=
  ∃ owner, s.ownerAt ino = some owner ∧ owner.shieldsTakeoverToken.isSome

lemma Bound.not_unbound (h : Bound s ino) : ¬Unbound s ino := by
  obtain ⟨owner, howner, htoken⟩ := h
  intro ⟨owner', howner', hnone⟩
  cases howner.symm.trans howner'
  rw [hnone] at htoken; cases htoken

/-- A chain comes to reap a generation by the last judgement only, and that has looked at the
token. -/
lemma ReapHeldPoint.next_reaps {p : ReapHeldPoint} {token : Option String} {seen : ℕ}
    (h : (p.next site a probe s acq token).reaps = some seen) : Unbound s seen := by
  cases p with
  | containment | deadline | readMain =>
    simp only [ReapHeldPoint.next] at h
    repeat (first | cases h | split at h)
  | judge seen' =>
    simp only [ReapHeldPoint.next] at h
    split at h
    · next hvalid =>
      split at h
      · cases h
      split at h
      · cases h
      split at h
      · cases h
      next hno =>
      obtain rfl := some.inj h
      cases howner : s.ownerAt seen' with
      | none => simp [isValidMainOwnerForSandbox, howner] at hvalid
      | some owner =>
        refine ⟨owner, howner, ?_⟩
        rw [not_or, howner] at hno; simpa using hno.1
    · cases h

/-- The inodes, each name that is not renamed away, and a reaper only with a generation that is not
bound. -/
structure Leaves (s : Shared) (c : Chain) (next : Shared × Chain) : Prop where
  inodes : s.files.inodes <+: next.1.files.inodes
  linked : ∀ name ino, s.files.linked name = some ino → next.1.files.linked name = some ino ∨
    ∃ removal, c.point = .rename removal ∧ removal.name = name
  reaps : ∀ seen, next.2.point.reaps = some seen → Unbound s seen

lemma Leaves.of_local {c' : Chain} (h : ∀ seen, c'.point.reaps = some seen → Unbound s seen) :
    Leaves s c (s, c') where
  inodes := List.prefix_refl _
  linked := fun _ _ hlinked => .inl hlinked
  reaps := h

lemma Leaves.of_none {c' : Chain} (h : c'.point.reaps = none) : Leaves s c (s, c') := by
  refine .of_local fun seen hseen => ?_
  rw [h] at hseen; cases hseen

lemma Leaves.goto_plain (h : p.needs = none) : Leaves s c (s, c.goto p) :=
  .of_none (Point.reaps_none h)

lemma post_leaves {p : PostPoint} {token : Option String} :
    Leaves s c (s, c.goto (p.next probe s acq token)) := by
  apply Leaves.of_none
  cases p with
  | containment | deadline | reaper =>
    simp only [PostPoint.next]
    split <;> rfl
  | timer =>
    simp only [PostPoint.next]
    split
    · rfl
    · split <;> rfl

lemma contain_leaves {p : ContainPoint} {after : After} :
    Leaves s c (s, c.goto (p.next site probe s c.mine after)) := by
  apply Leaves.of_none
  have hreturned : after.returned.reaps = none := Point.reaps_none after.returned_needs
  cases p with
  | present =>
    simp only [ContainPoint.next]
    split
    · exact hreturned
    · rfl
  | authority =>
    simp only [ContainPoint.next]
    split <;> rfl
  | commit =>
    simp only [ContainPoint.next]
    split
    · exact hreturned
    · rfl
  | rollback =>
    simp only [ContainPoint.next]
    split <;> rfl
  | caught failure =>
    simp only [ContainPoint.next]
    split
    · exact hreturned
    · exact Point.reaps_none (after.thrown_needs failure)

lemma link_leaves {purpose : Purpose} : Leaves s c (purpose.advance site a probe s c) := by
  unfold Purpose.advance
  split
  · exact .goto_plain purpose.taken_needs
  next htaken =>
  have hfree : s.files.linked purpose.name = none := by simpa [Shared.isAt] using htaken
  refine ⟨s.files.prefix_publish _ _ _, fun name ino hlinked =>
    .inl (linked_of_free hfree hlinked), fun seen hseen => ?_⟩
  have hnone : (if probe.replyLost then Point.reconcile purpose else purpose.linked).reaps =
      none := by
    split
    · rfl
    · exact purpose.linked_needs.2
  have hsome : (if probe.replyLost then Point.reconcile purpose else purpose.linked).reaps =
      some seen := hseen
  rw [hnone] at hsome; cases hsome

lemma reconcile_leaves {purpose : Purpose} : Leaves s c (purpose.reconcile site s c) := by
  unfold Purpose.reconcile
  split
  · exact .of_none purpose.linked_needs.2
  · exact .goto_plain purpose.taken_needs

lemma rename_leaves {removal : Removal} (hpoint : c.point = .rename removal) :
    Leaves s c (removal.rename s c) := by
  unfold Removal.rename
  split
  · exact .of_none (Point.reaps_none (removal.done_needs false))
  refine ⟨List.prefix_refl _, fun name ino hlinked => ?_, nofun⟩
  by_cases hname : removal.name = name
  · exact .inr ⟨removal, hpoint, hname⟩
  refine .inl ?_
  show Function.update s.files.linked removal.name none name = some ino
  rw [update_of_ne (Ne.symm hname)]; exact hlinked

lemma claimed_leaves {removal : Removal} : Leaves s c (s, removal.claimed probe s c ino) := by
  unfold Removal.claimed
  split
  · split
    · exact .goto_plain (removal.done_needs true)
    · exact .of_none rfl
  · exact .of_none rfl

lemma restore_leaves {removal : Removal} {threw : Bool} :
    Leaves s c (removal.restore s c ino threw) := by
  have hneeds : (if threw then removal.thrown else removal.done false).needs = none := by
    split
    · exact removal.thrown_needs
    · exact removal.done_needs false
  simp only [Removal.restore]
  generalize (if threw then removal.thrown else removal.done false) = next at hneeds ⊢
  split
  · exact .goto_plain hneeds
  next hat =>
  have hfree : s.files.linked removal.name = none := by simpa [Shared.isAt] using hat
  refine ⟨List.prefix_refl _, fun name ino' hlinked => .inl (linked_of_free hfree hlinked),
    fun seen hseen => ?_⟩
  have hsome : next.reaps = some seen := hseen
  rw [Point.reaps_none hneeds] at hsome; cases hsome

lemma release_leaves {name : Name} {k : Released} :
    Leaves s c (s, releaseOwn site s c name k) := by
  unfold releaseOwn
  split
  · exact .of_none rfl
  · exact .of_none (Point.reaps_none k.next_needs)

lemma advance_leaves {next : Shared × Chain} (h : advance site a probe s c = some next) :
    Leaves s c next := by
  unfold advance at h
  generalize hpoint : c.point = point at h
  cases point with
  | idle | inside _ | fenceInside _ | retained | fenceRetained => cases h
  | acquire point acq => cases h; exact .goto_plain (point.next_needs acq)
  | post point acq token => cases h; exact post_leaves
  | retainCheck =>
    cases h
    split <;> exact .of_none rfl
  | reap point acq => cases h; exact .goto_plain (point.next_needs acq)
  | reapHeld point acq token =>
    cases h; exact .of_local fun seen hseen => ReapHeldPoint.next_reaps hseen
  | contain point after => cases h; exact contain_leaves
  | link purpose => cases h; exact link_leaves
  | reconcile purpose => cases h; exact reconcile_leaves
  | rename removal => cases h; exact rename_leaves hpoint
  | claimed removal ino => cases h; exact claimed_leaves
  | restore removal ino threw => cases h; exact restore_leaves
  | release name k => cases h; exact release_leaves
  | fence point f => cases h; exact .goto_plain (point.next_needs f)
  | publish point f =>
    cases point with
    | start =>
      dsimp only at h
      split at h
      · cases h; exact .of_none rfl
      · cases h; exact .of_none rfl
    | _ => cases h; exact .goto_plain (PublishPoint.next_needs _ f)
  | fenceRetainCheck published =>
    cases h
    split
    · exact .goto_plain (fenceFinish_needs none published)
    · exact .of_none rfl

lemma perform_leaves {what : Act} {next : Shared × Chain}
    (hc : ∀ seen, c.point.reaps = some seen → Unbound s seen)
    (h : what.perform site a s c = some next) : Leaves s c next := by
  rcases perform_cases h with ⟨probe, -, hadvance⟩ | rfl |
    ⟨p, rfl, hplain | ⟨token, failure, retain, -, rfl⟩ | ⟨-, rfl⟩⟩
  · exact advance_leaves hadvance
  · exact .of_local hc
  · exact .goto_plain hplain
  · apply Leaves.of_none
    unfold finishInside
    split
    · split <;> rfl
    · rfl
  · exact .of_none rfl

lemma perform_go {what : Act} {next : Shared × Chain}
    (h : what.perform site a s c = some next) : (∃ probe, what = .go probe) ∨ next.1 = s := by
  rcases perform_cases h with ⟨probe, hwhat, -⟩ | rfl | ⟨p, rfl, -⟩
  · exact .inl ⟨probe, hwhat⟩
  · exact .inr rfl
  · exact .inr rfl

lemma ownerAt_mono {s' : Shared} (h : s.files.inodes <+: s'.files.inodes) {owner : Owner}
    (howner : s.ownerAt ino = some owner) : s'.ownerAt ino = some owner := by
  obtain ⟨rest, hrest⟩ := h
  have hlt : ino < s.files.inodes.length := by
    by_contra hnot
    rw [not_lt] at hnot
    simp [Shared.ownerAt, Shared.textAt, List.getElem?_eq_none hnot, LockText.owner] at howner
  rw [← howner]
  unfold Shared.ownerAt Shared.textAt
  rw [← hrest, List.getElem?_append_left hlt]

lemma Unbound.mono {s' : Shared} (h : s.files.inodes <+: s'.files.inodes) (hs : Unbound s ino) :
    Unbound s' ino := by
  obtain ⟨owner, howner, hnone⟩ := hs
  exact ⟨owner, ownerAt_mono h howner, hnone⟩

lemma Bound.mono {s' : Shared} (h : s.files.inodes <+: s'.files.inodes) (hs : Bound s ino) :
    Bound s' ino := by
  obtain ⟨owner, howner, hsome⟩ := hs
  exact ⟨owner, ownerAt_mono h howner, hsome⟩

end Steps

def GateStands (gate : Gate) (w : World) (_ : Action) : Prop := w.shared.isAt gate.name

instance (gate : Gate) (w : World) (what : Action) : Decidable (GateStands gate w what) :=
  inferInstanceAs (Decidable (_ = _))

structure BoundLeft (site : Site) (w : World) (ino : ℕ) : Prop where
  linked : w.shared.files.linked .main = some ino
  stopped : Orphan w.shared.files (w.shared.Live site) ino
  bound : Bound w.shared ino

/-- No reaper is about to rename a generation that is bound to the timer. -/
def Spares (w : World) : Prop :=
  ∀ a seen, (w.chains a).point.reaps = some seen → Unbound w.shared seen

section Runs

variable {site : Site} {w w' : World} {what : Action}

lemma step_past {gate : Gate} {a : ChainId} (h : w.step site what = some w')
    (hgate : GateStands gate w what) (ha : (w.chains a).point.isPast gate = false) :
    (w'.chains a).point.isPast gate = false := by
  cases what with
  | act b what =>
    simp only [World.step] at h
    split at h
    · cases h
    obtain ⟨next, hperform, rfl⟩ := map_eq_some_iff.mp h
    show (Function.update w.chains b next.2 a).point.isPast gate = false
    by_cases hab : a = b
    · subst hab
      rw [update_self]; exact perform_past hgate ha hperform
    · rw [update_of_ne hab]; exact ha
  | crash p => cases h; exact ha

lemma Spares.step (hspares : Spares w) (h : w.step site what = some w') : Spares w' := by
  cases what with
  | act b what =>
    simp only [World.step] at h
    split at h
    · cases h
    obtain ⟨next, hperform, rfl⟩ := map_eq_some_iff.mp h
    have hleaves := perform_leaves (hspares b) hperform
    intro a seen hseen
    have hpoint : (Function.update w.chains b next.2 a).point.reaps = some seen := hseen
    by_cases hab : a = b
    · subst hab
      rw [update_self] at hpoint
      exact (hleaves.reaps seen hpoint).mono hleaves.inodes
    · rw [update_of_ne hab] at hpoint
      exact (hspares a seen hpoint).mono hleaves.inodes
  | crash p => cases h; exact hspares

/-- The owner cannot release it, nobody else made it, and no reaper has been given it. -/
lemma BoundLeft.step {ino : ℕ} (hinv : Inv site w) (hspares : Spares w)
    (h : w.step site what = some w') (hd : Disciplined site w what) (hs : BoundLeft site w ino) :
    BoundLeft site w' ino := by
  cases what with
  | act a what =>
    simp only [World.step] at h
    split at h
    · cases h
    next hrunning =>
    have ha : w.shared.Live site a := by simpa [Shared.Live] using hrunning
    obtain ⟨next, hperform, rfl⟩ := map_eq_some_iff.mp h
    have hk := hinv a ha
    have hleaves := perform_leaves (hspares a) hperform
    have hkept := perform_kept ha hk (fun probe hprobe => by
      subst hprobe
      exact hd) hperform
    have hlater : Later (w.shared.Live site) (next.1.Live site) w.shared.files
        next.1.files := by
      refine ⟨hleaves.inodes, fun b hb => ?_⟩
      simpa only [Shared.Live, hkept.crashed] using hb
    refine ⟨?_, hlater.orphan hs.stopped, hs.bound.mono hleaves.inodes⟩
    rcases hleaves.linked .main ino hs.linked with hlinked | ⟨removal, hpoint, hname⟩
    · exact hlinked
    rcases perform_go hperform with ⟨probe, rfl⟩ | hsame
    · cases removal with
      | release name seen k =>
        have hmain : name = .main := hname
        subst hmain
        obtain ⟨own, hown⟩ :=
          isSome_iff_exists.mp (hk.needs .main (by rw [hpoint]; rfl))
        have howns := hk.mine .main own hown
        cases hs.linked.symm.trans howns.1; exact absurd hs.stopped (howns.2.not_orphan ha)
      | rollback seen after => cases hname
      | reap acq seen =>
        have hreaps : (w.chains a).point.reaps = some seen := by rw [hpoint]; rfl
        obtain rfl := hd.2 seen hreaps ino hs.linked
        exact absurd (hspares a ino hreaps) hs.bound.not_unbound
    · rw [hsame]; exact hs.linked
  | crash p =>
    cases h
    refine ⟨hs.linked, ?_, hs.bound⟩
    obtain ⟨a, hmade, hdead⟩ := hs.stopped
    refine ⟨a, hmade, fun halive => hdead ?_⟩
    simp only [Shared.Live, update_apply] at halive
    split at halive
    · cases halive
    · exact halive

end Runs

/-- In every interleaving, with processes stopping anywhere and from any lock files left
behind: while a gate file is there, an acquisition that had not yet looked for it the second
time, after it had linked its lock, does not return; and if no live owner is classified
stale and each reaper renames away the generation it has read, the lock of an owner that
has stopped stays in place if the owner was bound to the timer. -/
theorem lifecycleLock_failClosed (site : Site) {w0 w w' : World} {before after : List Action}
    (h0 : ∀ a, w0.chains a = ⟨fun _ => none, .idle⟩)
    (hbefore : run (World.step site) w0 before = some w)
    (hafter : run (World.step site) w after = some w') :
    (∀ gate a, Along (World.step site) (GateStands gate) w after →
      (w.chains a).point.isPast gate = false → (w'.chains a).point.isInside = false) ∧
    ∀ ino, BoundLeft site w ino → Along (World.step site) (Disciplined site) w0 before →
      Along (World.step site) (Disciplined site) w after → BoundLeft site w' ino := by
  refine ⟨fun gate a hgate hpast => ?_, fun ino hleft hsteps hsteps' => ?_⟩
  · have hpast' : (w'.chains a).point.isPast gate = false :=
      hgate.invariant hafter (fun s what s' hstep hstands hs => step_past hstep hstands hs) hpast
    rw [← Bool.not_eq_true] at hpast' ⊢
    exact fun hinside => hpast' (Point.isPast_of_isInside hinside)
  · have hstart : Inv site w0 ∧ Spares w0 := by
      refine ⟨fun a _ => ?_, fun a seen hseen => ?_⟩
      · rw [h0 a]; exact knows_plain (fun _ _ hnone => by cases hnone) rfl
      · rw [h0 a] at hseen; cases hseen
    have hinv : Inv site w ∧ Spares w :=
      Along.invariant (I := fun w => Inv site w ∧ Spares w) hsteps hbefore
        (fun s what s' hstep hd hs => ⟨hs.1.step hstep hd, hs.2.step hstep⟩) hstart
    have hend : Inv site w' ∧ Spares w' ∧ BoundLeft site w' ino :=
      Along.invariant (I := fun w => Inv site w ∧ Spares w ∧ BoundLeft site w ino) hsteps' hafter
        (fun s what s' hstep hd hs =>
        ⟨hs.1.step hstep hd, hs.2.1.step hstep, hs.2.2.step hs.1 hs.2.1 hstep hd⟩)
        ⟨hinv.1, hinv.2, hleft⟩
    exact hend.2.2

/-- Process 9 stopped inside, and was bound to the timer. -/
def leftBound : World where
  shared :=
    { files :=
        { linked := fun name => if name = .main then some 0 else none
          inodes := [⟨9, ⟨some (Owner.toJson ⟨1, "my-assistant", 9, some "linux:9",
            some "linux:host", none, some "0123456789abcdef0123456789abcdef", "left",
            "2026-01-01T00:00:00.000Z"⟩), .regular, 0⟩⟩] }
      crashed := fun p => p == 9 }
  chains := fun _ => ⟨fun _ => none, .idle⟩

/-- Process 1 finds the lock stale, commits containment and leaves the lock where it is. -/
theorem lifecycleLock_failClosed_waiter :
    ∃ w, run (World.step oneHost) leftBound (begin 1 ++ goes 1 22) = some w ∧
      w.shared.isAt .containment ∧ BoundLeft oneHost w 0 := by
  have hend : (run (World.step oneHost) leftBound (begin 1 ++ goes 1 22)).map
      (fun w => w.shared.isAt .containment) = some true := by decide +kernel
  obtain ⟨w, hrun, hcontained⟩ := map_eq_some_iff.mp hend
  have hsteps : Along (World.step oneHost) (Disciplined oneHost) leftBound
      (begin 1 ++ goes 1 22) := by decide +kernel
  have howner : (leftBound.shared.ownerAt 0).any (·.shieldsTakeoverToken.isSome) := by
    decide +kernel
  have hleft : BoundLeft oneHost leftBound 0 := by
    refine ⟨rfl, ⟨9, ⟨_, rfl⟩, by decide⟩, ?_⟩
    cases hread : leftBound.shared.ownerAt 0 with
    | none => rw [hread] at howner; cases howner
    | some owner => rw [hread] at howner; exact ⟨owner, hread, howner⟩
  exact ⟨w, hrun, hcontained,
    (@lifecycleLock_failClosed oneHost leftBound leftBound w [] _ (fun _ => rfl) rfl hrun).2 0
      hleft trivial hsteps⟩

def noLocks : World where
  shared := ⟨⟨fun _ => none, []⟩, fun _ => false⟩
  chains := fun _ => ⟨fun _ => none, .idle⟩

def timerProbe : Probe :=
  { ownerGone with takeoverToken := some "0123456789abcdef0123456789abcdef" }

def ticks (a : ChainId) (steps : ℕ) : List Action := List.replicate steps (.act a (.go timerProbe))

/-- Process 2 reads the deadline gate of 3, which opens it and stops. Process 1 links the main lock
and looks for containment again, and then 2 commits it. -/
def containedLate : List Action :=
  [.act 3 (.withFence "0123456789abcdef0123456789abcdef" none false false)] ++ ticks 3 11 ++
    begin 2 ++ goes 2 2 ++ [.act 3 (.finish none false)] ++ ticks 3 6 ++ [.crash 3] ++
    begin 1 ++ goes 1 9 ++ goes 2 4

/-- An acquisition returns while containment stands. -/
theorem lifecycleLock_entersContained :
    ¬ ∀ (before after : List Action) (w w' : World),
      run (World.step oneHost) noLocks before = some w →
        run (World.step oneHost) w after = some w' →
          Along (World.step oneHost) (GateStands .containment) w after →
            ∀ a, (w.chains a).point.isInside = false → (w'.chains a).point.isInside = false := by
  intro h
  have hend : (run (World.step oneHost) noLocks containedLate).bind (fun w =>
      (run (World.step oneHost) w (goes 1 3)).map fun w' =>
        decide (Along (World.step oneHost) (GateStands .containment) w (goes 1 3)) &&
          !(w.chains 1).point.isInside && (w'.chains 1).point.isInside) = some true := by
    decide +kernel
  obtain ⟨w, hbefore, hrest⟩ := bind_eq_some_iff.mp hend
  obtain ⟨w', hafter, hall⟩ := map_eq_some_iff.mp hrest
  simp only [Bool.and_eq_true, Bool.not_eq_true', decide_eq_true_eq] at hall
  obtain ⟨⟨hstands, hout⟩, hin⟩ := hall
  rw [h containedLate (goes 1 3) w w' hbefore hafter hstands 1 hout] at hin; cases hin

end NemoClaw.LifecycleLock
