import NemoClaw.Onboard.ExecutionLease

/- One owner of the execution lease.

What is proved:
  1. `advance_kept` — what one instruction keeps: a process that is alive still has
     the files that it relies on, whoever took the step.
  2. `executionLease_exclusive` — along every run in which no recovery marker is
     removed in the place of another, one live process at most has the lease, and no
     other process removes its file.
  3. `executionLease_twoOwners` — without that condition there are runs with two.

The recovery marker is the gate of the lease: a live process that has it is the only
one that removes a lease of a dead owner. The marker has no gate of its own, so the
argument needs that a stale one is removed only where it was seen.
-/
namespace NemoClaw.ExecutionLease

open Js Runs LockFiles Option Function

def gate : LeaseFile → Option LeaseFile
  | .lease => some .recovery
  | .recovery => none

/-- Each record names the process that wrote it. -/
def Recorded (s : Shared) : Prop :=
  ∀ (ino : ℕ) (inode : Inode Pid (Option Lease)) (lease : Lease),
    s.files.inodes[ino]? = some inode → inode.content = some lease → lease.ownerPid = inode.maker

def OwnsName (s : Shared) (p : Pid) (name : LeaseFile) : Prop := ∃ ino, Owns s.files p name ino

/-- What a process relies on in a removal, before and after it has compared. -/
def Removal.Knows (s : Shared) (p : Pid) (held : Option Lease) (compared : Bool) : Removal → Prop
  | staleMarker recovery => ¬s.Live recovery.ownerPid
  | withdraw => held = none ∧ OwnsName s p .lease
  | abandoned lease => OwnsName s p .recovery ∧ ¬s.Live lease.ownerPid ∧
      (compared → ∃ ino, s.files.linked .lease = some ino ∧ Orphan s.files s.Live ino)
  | ownMarker _ => OwnsName s p .recovery
  | release => held.isSome

def Point.Knows (s : Shared) (p : Pid) (held : Option Lease) : Point → Prop
  | readRecovery | judgeRecovery _ | publishLease | readExisting | judgeExisting _
  | publishMarker => True
  | recheckRecovery => held = none ∧ OwnsName s p .lease
  | readAbandoned | judgeAbandoned _ | finish _ => OwnsName s p .recovery
  | compare r => r.Knows s p held false
  | unlink r => r.Knows s p held true

def HeldThere (s : Shared) (p : Pid) (held : Option Lease) : Prop :=
  held.isSome → OwnsName s p .lease

structure Local.Knows (s : Shared) (p : Pid) (l : Local) : Prop where
  held : HeldThere s p l.held
  heldOwn : ∀ lease ∈ l.held, lease.ownerPid = p
  own : ∀ call ∈ l.call, call.own.ownerPid = p
  point : ∀ call ∈ l.call, call.point.Knows s p l.held

def Outcome.Knows (s : Shared) (p : Pid) (held : Option Lease) : Outcome → Prop
  | go point => HeldThere s p held ∧ point.Knows s p held
  | again | thrown => HeldThere s p held
  | acquired => OwnsName s p .lease
  | released => True

lemma apply_knows {s : Shared} {p : Pid} {l : Local} {call : Call} {o : Outcome}
    (hheldOwn : ∀ lease ∈ l.held, lease.ownerPid = p) (hown : call.own.ownerPid = p)
    (h : o.Knows s p l.held) : (o.apply l call).Knows s p := by
  cases o with
  | go point =>
    obtain ⟨hheld, hpoint⟩ := h
    refine ⟨hheld, hheldOwn, ?_, ?_⟩ <;> (intro c hc; obtain rfl := some.inj hc)
    · exact hown
    · exact hpoint
  | again =>
    simp only [Outcome.apply]
    split
    · refine ⟨h, hheldOwn, ?_, ?_⟩ <;> (intro c hc; obtain rfl := some.inj hc)
      · exact hown
      · trivial
    · exact ⟨h, hheldOwn, nofun, nofun⟩
  | thrown => exact ⟨h, hheldOwn, nofun, nofun⟩
  | acquired =>
    refine ⟨fun _ => h, fun lease hlease => ?_, nofun, nofun⟩
    cases hlease; exact hown
  | released => exact ⟨nofun, nofun, nofun, nofun⟩

section Frame

variable {s s' : Shared} {p : Pid}

lemma OwnsName.frame (hp : s.Live p)
    (h : Undisturbed gate s.Live s'.Live p s.files s'.files) {name : LeaseFile}
    (howns : OwnsName s p name) : OwnsName s' p name := by
  obtain ⟨ino, hino⟩ := howns; exact ⟨ino, h.owns hp hino⟩

lemma Removal.Knows.frame (hp : s.Live p)
    (h : Undisturbed gate s.Live s'.Live p s.files s'.files) {held : Option Lease}
    {compared : Bool} {r : Removal} (hk : r.Knows s p held compared) :
    r.Knows s' p held compared := by
  cases r with
  | staleMarker recovery => exact h.dead _ hk
  | withdraw => exact ⟨hk.1, hk.2.frame hp h⟩
  | abandoned lease =>
    obtain ⟨hmarker, hdead, hseen⟩ := hk
    refine ⟨hmarker.frame hp h, h.dead _ hdead, fun hcompared => ?_⟩
    obtain ⟨ino, hlinked, horphan⟩ := hseen hcompared
    obtain ⟨j, hj⟩ := hmarker
    exact ⟨ino, h.gated .lease .recovery ino j hp rfl hj hlinked horphan, h.orphan horphan⟩
  | ownMarker thrown => exact OwnsName.frame hp h hk
  | release => exact hk

lemma Point.Knows.frame (hp : s.Live p)
    (h : Undisturbed gate s.Live s'.Live p s.files s'.files) {held : Option Lease}
    {point : Point} (hk : point.Knows s p held) : point.Knows s' p held := by
  cases point with
  | recheckRecovery => exact ⟨hk.1, hk.2.frame hp h⟩
  | readAbandoned | judgeAbandoned _ | finish _ => exact OwnsName.frame hp h hk
  | compare r | unlink r => exact Removal.Knows.frame hp h hk
  | _ => trivial

lemma Local.Knows.frame (hp : s.Live p)
    (h : Undisturbed gate s.Live s'.Live p s.files s'.files) {l : Local}
    (hk : l.Knows s p) : l.Knows s' p where
  held := fun hsome => (hk.held hsome).frame hp h
  heldOwn := hk.heldOwn
  own := hk.own
  point := fun call hcall => (hk.point call hcall).frame hp h

end Frame

section Steps

variable {s : Shared} {p : Pid} {held : Option Lease}

def Shared.after (s : Shared) (files : Files LeaseFile Pid (Option Lease)) : Shared :=
  { s with files }

lemma read_eq_some {name : LeaseFile} {lease : Lease} (h : s.read name = some (some lease)) :
    ∃ ino inode, s.files.linked name = some ino ∧ s.files.inodes[ino]? = some inode ∧
      inode.content = some lease := by
  obtain ⟨ino, hlinked, hcontent⟩ := map_eq_some_iff.mp h
  obtain ⟨inode, hinode, hlease⟩ := bind_eq_some_iff.mp hcontent
  exact ⟨ino, inode, hlinked, hinode, hlease⟩

lemma orphan_of_read (hrec : Recorded s) {name : LeaseFile} {lease : Lease}
    (h : s.read name = some (some lease)) (hdead : ¬s.Live lease.ownerPid) :
    ∃ ino, s.files.linked name = some ino ∧ Orphan s.files s.Live ino := by
  obtain ⟨ino, inode, hlinked, hinode, hcontent⟩ := read_eq_some h
  refine ⟨ino, hlinked, inode.maker, ⟨inode.content, hinode⟩, ?_⟩
  rwa [← hrec ino inode lease hinode hcontent]

lemma onRead_knows {name : LeaseFile} {failed absent : Outcome} {present : Lease → Outcome}
    (hfailed : failed.Knows s p held) (habsent : absent.Knows s p held)
    (hpresent : ∀ lease, s.read name = some (some lease) → (present lease).Knows s p held) :
    (s.onRead name failed absent present).Knows s p held := by
  unfold Shared.onRead
  split
  · exact habsent
  · exact hfailed
  · next lease hread => exact hpresent lease hread

lemma failed_knows (point : Point) (hheld : HeldThere s p held)
    (hk : point.Knows s p held) : point.failed.Knows s p held := by
  have hremoval : ∀ (r : Removal) (compared : Bool), r.Knows s p held compared →
      r.failed.Knows s p held := by
    intro r compared hr
    cases r with
    | abandoned lease => exact ⟨hheld, hr.1⟩
    | _ => exact hheld
  cases point with
  | readAbandoned | judgeAbandoned _ => exact ⟨hheld, hk⟩
  | compare r | unlink r => exact hremoval r _ hk
  | _ => exact hheld

/-! ## Own steps -/

/-- The records, what the process relies on as it goes on, even if the step throws, and what the
others rely on. -/
structure Kept (s : Shared) (p : Pid) (held : Option Lease) (point : Point)
    (next : Files LeaseFile Pid (Option Lease) × Outcome) : Prop where
  recorded : Recorded (s.after next.1)
  knows : next.2.Knows (s.after next.1) p held
  throws : point.thrownAfter.Knows (s.after next.1) p held
  others : ∀ b, b ≠ p → Undisturbed gate s.Live s.Live b s.files next.1

lemma thrownAfter_knows {point : Point} (h : point.failed.Knows s p held) :
    point.thrownAfter.Knows s p held := by
  unfold Point.thrownAfter
  split
  · trivial
  · exact h

lemma Kept.of_local {point : Point} {o : Outcome} (hrec : Recorded s)
    (hheld : HeldThere s p held) (hk : point.Knows s p held) (ho : o.Knows s p held) :
    Kept s p held point (s.files, o) where
  recorded := hrec
  knows := ho
  throws := thrownAfter_knows (failed_knows point hheld hk)
  others := fun _ _ => .of_same fun _ hdead => hdead

lemma recorded_publish (hrec : Recorded s) {own : Lease} (hown : own.ownerPid = p)
    (name : LeaseFile) : Recorded (s.after (s.files.publish name p (some own))) := by
  intro ino inode lease hinode hcontent
  have happend : (s.files.inodes ++ [⟨p, some own⟩])[ino]? = some inode := hinode
  rw [List.getElem?_append] at happend
  split at happend
  · exact hrec ino inode lease happend hcontent
  have hmem := List.mem_of_getElem? happend
  rw [List.mem_singleton.mp hmem] at hcontent ⊢
  cases hcontent; exact hown

lemma OwnsName.publish {name other : LeaseFile} {c : Option Lease}
    (hfree : s.files.linked name = none) (h : OwnsName s p other) :
    OwnsName (s.after (s.files.publish name p c)) p other := by
  obtain ⟨ino, hlinked, hmade⟩ := h
  exact ⟨ino, linked_of_free hfree hlinked, hmade.mono (s.files.prefix_publish name p c)⟩

lemma OwnsName.unlink {name other : LeaseFile} (hne : other ≠ name) (h : OwnsName s p other) :
    OwnsName (s.after (s.files.unlink name)) p other := by
  obtain ⟨ino, hino⟩ := h; exact ⟨ino, hino.of_unlink hne⟩

lemma publishLease_kept {own : Lease} (hrec : Recorded s) (hheld : HeldThere s p held)
    (hown : own.ownerPid = p) :
    Kept s p held .publishLease (Point.publishLease.advance s p own) := by
  simp only [Point.advance]
  split
  · next hfree =>
    have hnone : held = none := by
      by_contra hsome
      obtain ⟨ino, hlinked, -⟩ := hheld (isSome_iff_ne_none.mpr hsome)
      rw [hfree] at hlinked; cases hlinked
    have hheld' : HeldThere (s.after (s.files.publish .lease p (some own))) p held := by
      intro hsome
      rw [hnone] at hsome; cases hsome
    refine ⟨recorded_publish hrec hown .lease, ⟨hheld', hnone, ?_⟩, hheld', ?_⟩
    · exact ⟨_, s.files.made_publish .lease p (some own)⟩
    · exact fun b _ => .of_publish hfree (some own)
  · exact .of_local hrec hheld trivial ⟨hheld, trivial⟩

lemma publishMarker_kept {own : Lease} (hrec : Recorded s) (hheld : HeldThere s p held)
    (hown : own.ownerPid = p) :
    Kept s p held .publishMarker (Point.publishMarker.advance s p own) := by
  simp only [Point.advance]
  split
  · next hfree =>
    have hheld' : HeldThere (s.after (s.files.publish .recovery p (some own))) p held :=
      fun hsome => (hheld hsome).publish hfree
    refine ⟨recorded_publish hrec hown .recovery, ⟨hheld', ?_⟩, hheld', ?_⟩
    · exact ⟨_, s.files.made_publish .recovery p (some own)⟩
    · exact fun b _ => .of_publish hfree (some own)
  · exact .of_local hrec hheld trivial hheld

lemma unlink_knows {r : Removal} {ino : ℕ} (hp : s.Live p) (hheld : HeldThere s p held)
    (hk : r.Knows s p held true) (hlinked : s.files.linked r.target = some ino) :
    r.done.Knows (s.after (s.files.unlink r.target)) p held ∧
      (Point.unlink r).thrownAfter.Knows (s.after (s.files.unlink r.target)) p held := by
  have hmarker : r.target = .recovery → HeldThere (s.after (s.files.unlink r.target)) p held := by
    intro htarget hsome
    rw [htarget]; exact (hheld hsome).unlink (by decide)
  cases r with
  | staleMarker recovery => exact ⟨hmarker rfl, hmarker rfl⟩
  | withdraw =>
    have hnone : HeldThere (s.after (s.files.unlink .lease)) p held := by
      intro hsome
      rw [hk.1] at hsome; cases hsome
    exact ⟨hnone, hnone⟩
  | abandoned lease =>
    obtain ⟨howns, -, hseen⟩ := hk
    obtain ⟨j, hj, horphan⟩ := hseen rfl
    have hheld' : HeldThere (s.after (s.files.unlink .lease)) p held := by
      -- the lease is a dead process's, so the process has none
      intro hsome
      obtain ⟨i, hi, hmade⟩ := hheld hsome
      cases hj.symm.trans hi; exact absurd horphan (hmade.not_orphan hp)
    have howns' : OwnsName (s.after (s.files.unlink .lease)) p .recovery :=
      howns.unlink (by decide)
    exact ⟨⟨hheld', howns'⟩, ⟨hheld', howns'⟩⟩
  | ownMarker thrown => cases thrown <;> exact ⟨hmarker rfl, hmarker rfl⟩
  | release => exact ⟨trivial, trivial⟩

lemma unlink_others {r : Removal} {ino : ℕ} (hp : s.Live p) (hrec : Recorded s)
    (hheld : HeldThere s p held) (hk : r.Knows s p held true)
    (hkept : (Point.unlink r).MarkerKept s) (hlinked : s.files.linked r.target = some ino)
    {b : Pid} (hb : b ≠ p) :
    Undisturbed gate s.Live s.Live b s.files (s.files.unlink r.target) := by
  have hown : OwnsName s p r.target →
      Undisturbed gate s.Live s.Live b s.files (s.files.unlink r.target) := by
    intro ⟨i, hi, hmade⟩
    cases hlinked.symm.trans hi; exact .of_unlink hp hb hlinked (.inl hmade)
  cases r with
  | staleMarker recovery =>
    obtain ⟨current, hread⟩ : ∃ current, s.read .recovery = some current :=
      ⟨_, congrArg (Option.map _) hlinked⟩
    rw [hkept current hread] at hread
    obtain ⟨j, hj, horphan⟩ := orphan_of_read hrec hread hk
    exact .of_unlink_ungated rfl hj horphan
  | withdraw => exact hown hk.2
  | abandoned lease =>
    obtain ⟨⟨i, hi⟩, -, hseen⟩ := hk
    obtain ⟨j, hj, horphan⟩ := hseen rfl
    exact .of_unlink hp hb hj (.inr ⟨horphan, .recovery, i, rfl, hi⟩)
  | ownMarker thrown => exact hown hk
  | release => exact hown (hheld hk)

lemma unlink_kept {r : Removal} {own : Lease} (hp : s.Live p) (hrec : Recorded s)
    (hheld : HeldThere s p held) (hk : r.Knows s p held true)
    (hkept : (Point.unlink r).MarkerKept s) :
    Kept s p held (.unlink r) ((Point.unlink r).advance s p own) := by
  simp only [Point.advance]
  split
  · exact .of_local hrec hheld hk (failed_knows (.unlink r) hheld hk)
  next htaken =>
  obtain ⟨ino, hlinked⟩ := ne_none_iff_exists'.mp htaken
  obtain ⟨hdone, hthrown⟩ := unlink_knows hp hheld hk hlinked
  have hrec' : Recorded (s.after (s.files.unlink r.target)) := hrec
  exact ⟨hrec', hdone, hthrown, fun b hb => unlink_others hp hrec hheld hk hkept hlinked hb⟩

lemma compare_kept {r : Removal} {own : Lease} (hrec : Recorded s)
    (hheld : HeldThere s p held) (hk : r.Knows s p held false) :
    Kept s p held (.compare r) ((Point.compare r).advance s p own) := by
  have hfailed : r.failed.Knows s p held := failed_knows (.compare r) hheld hk
  refine .of_local hrec hheld hk (onRead_knows hfailed hfailed fun current hread => ?_)
  split
  · next hsame =>
    refine ⟨hheld, ?_⟩
    cases r with
    | abandoned lease =>
      have hlease : current = lease := hsame
      rw [hlease] at hread; exact ⟨hk.1, hk.2.1, fun _ => orphan_of_read hrec hread hk.2.1⟩
    | _ => exact hk
  · exact hfailed

/-- What the next instruction keeps. -/
theorem advance_kept {point : Point} {own : Lease} (hp : s.Live p) (hrec : Recorded s)
    (hheld : HeldThere s p held) (hown : own.ownerPid = p) (hk : point.Knows s p held)
    (hkept : point.MarkerKept s) : Kept s p held point (point.advance s p own) := by
  have halive : ∀ pid, s.processIsAlive pid ≠ true → ¬s.Live pid := by
    intro pid hdead hlive
    unfold Shared.processIsAlive at hdead
    unfold Shared.Live at hlive; simp [hlive] at hdead
  cases point with
  | readRecovery =>
    exact .of_local hrec hheld hk
      (onRead_knows hheld ⟨hheld, trivial⟩ fun recovery _ => ⟨hheld, trivial⟩)
  | judgeRecovery recovery =>
    simp only [Point.advance]
    split
    · exact .of_local hrec hheld hk hheld
    · next hdead => exact .of_local hrec hheld hk ⟨hheld, halive _ hdead⟩
  | publishLease => exact publishLease_kept hrec hheld hown
  | recheckRecovery =>
    exact .of_local hrec hheld hk (onRead_knows hheld hk.2 fun _ _ => ⟨hheld, hk⟩)
  | readExisting =>
    exact .of_local hrec hheld hk (onRead_knows hheld hheld fun _ _ => ⟨hheld, trivial⟩)
  | judgeExisting existing =>
    simp only [Point.advance]
    split
    · exact .of_local hrec hheld hk hheld
    · exact .of_local hrec hheld hk ⟨hheld, trivial⟩
  | publishMarker => exact publishMarker_kept hrec hheld hown
  | readAbandoned =>
    exact .of_local hrec hheld hk
      (onRead_knows ⟨hheld, hk⟩ ⟨hheld, hk⟩ fun _ _ => ⟨hheld, hk⟩)
  | judgeAbandoned abandoned =>
    simp only [Point.advance]
    split
    · exact .of_local hrec hheld hk ⟨hheld, hk⟩
    · next hdead => exact .of_local hrec hheld hk ⟨hheld, hk, halive _ hdead, nofun⟩
  | finish thrown =>
    have hleave : (if thrown then Outcome.thrown else .again).Knows s p held := by
      split <;> exact hheld
    refine .of_local hrec hheld hk (onRead_knows hheld hleave fun marker _ => ?_)
    split
    · exact ⟨hheld, hk⟩
    · exact hleave
  | compare r => exact compare_kept hrec hheld hk
  | unlink r => exact unlink_kept hp hrec hheld hk hkept

end Steps

structure Inv (w : World) : Prop where
  recorded : Recorded w.shared
  knows : ∀ p, w.shared.Live p → (w.locals p).Knows w.shared p

lemma perform_kept {s : Shared} {p : Pid} {l : Local} {what : Act}
    {next : Files LeaseFile Pid (Option Lease) × Local} (hp : s.Live p) (hrec : Recorded s)
    (hk : l.Knows s p)
    (hkept : what ≠ .fail false → ∀ call ∈ l.call, call.point.MarkerKept s)
    (h : what.perform p s l = some next) :
    Recorded (s.after next.1) ∧ next.2.Knows (s.after next.1) p ∧
      ∀ b, b ≠ p → Undisturbed gate s.Live s.Live b s.files next.1 := by
  have hsame : ∀ b, b ≠ p → Undisturbed gate s.Live s.Live b s.files s.files :=
    fun _ _ => .of_same fun _ hdead => hdead
  cases what with
  | acquireExecution transactionId ownerId =>
    simp only [Act.perform] at h
    split at h
    · cases h
    split at h
    · cases h
      refine ⟨hrec, ⟨hk.held, hk.heldOwn, ?_, ?_⟩, hsame⟩ <;>
        (intro call hcall; obtain rfl := some.inj hcall)
      · rfl
      · trivial
    · cases h; exact ⟨hrec, hk, hsame⟩
  | releaseExecution =>
    simp only [Act.perform] at h
    split at h
    · next lease hcall hlease =>
      cases h
      refine ⟨hrec, ⟨hk.held, hk.heldOwn, ?_, ?_⟩, hsame⟩ <;>
        (intro call hcall'; obtain rfl := some.inj hcall')
      · exact hk.heldOwn lease hlease
      · rw [hlease]; rfl
    · cases h
  | go =>
    obtain ⟨call, hcall, rfl⟩ := map_eq_some_iff.mp h
    have hadvance := advance_kept hp hrec hk.held (hk.own call hcall) (hk.point call hcall)
      (hkept nofun call hcall)
    exact ⟨hadvance.recorded, apply_knows hk.heldOwn (hk.own call hcall) hadvance.knows, hadvance.others⟩
  | fail late =>
    obtain ⟨call, hcall, rfl⟩ := map_eq_some_iff.mp h
    cases late with
    | false =>
      have hfailed := failed_knows call.point hk.held (hk.point call hcall)
      exact ⟨hrec, apply_knows hk.heldOwn (hk.own call hcall) hfailed, hsame⟩
    | true =>
      have hadvance := advance_kept hp hrec hk.held (hk.own call hcall) (hk.point call hcall)
        (hkept nofun call hcall)
      exact ⟨hadvance.recorded, apply_knows hk.heldOwn (hk.own call hcall) hadvance.throws, hadvance.others⟩

lemma Inv.act {w w' : World} {p : Pid} {what : Act} (hinv : Inv w)
    (h : w.step (.act p what) = some w') (hkept : MarkerKept w (.act p what)) :
    ∃ next : Files LeaseFile Pid (Option Lease) × Local,
      w' = ⟨w.shared.after next.1, Function.update w.locals p next.2⟩ ∧
      Recorded (w.shared.after next.1) ∧ next.2.Knows (w.shared.after next.1) p ∧
      ∀ b, b ≠ p → Undisturbed gate w.shared.Live w.shared.Live b w.shared.files next.1 := by
  simp only [World.step] at h
  split at h
  · cases h
  next hrunning =>
  have hp : w.shared.Live p := by simpa [Shared.Live] using hrunning
  obtain ⟨next, hperform, rfl⟩ := map_eq_some_iff.mp h
  have hcond : what ≠ .fail false →
      ∀ call ∈ (w.locals p).call, call.point.MarkerKept w.shared := by
    intro hne
    cases what with
    | fail late =>
      cases late with
      | false => exact absurd rfl hne
      | true => exact hkept
    | _ => exact hkept
  exact ⟨next, rfl, perform_kept hp hinv.recorded (hinv.knows p hp) hcond hperform⟩

lemma Inv.step {w w' : World} {what : Action} (hinv : Inv w) (h : w.step what = some w')
    (hkept : MarkerKept w what) : Inv w' := by
  cases what with
  | act p what =>
    obtain ⟨next, rfl, hrec, hknows, hothers⟩ := hinv.act h hkept
    refine ⟨hrec, fun a ha => ?_⟩
    show (Function.update w.locals p next.2 a).Knows (w.shared.after next.1) a
    by_cases hap : a = p
    · rw [hap, update_self]; exact hknows
    rw [update_of_ne hap]
    have hother : Undisturbed gate w.shared.Live (w.shared.after next.1).Live a w.shared.files
        (w.shared.after next.1).files := hothers a hap
    have ha' : w.shared.Live a := ha; exact (hinv.knows a ha').frame ha' hother
  | crash p =>
    cases h
    refine ⟨hinv.recorded, fun a ha => ?_⟩
    have hdead : ∀ b, ¬w.shared.Live b →
        ¬Function.update w.shared.crashed p true b = false := by
      intro b hb hb'
      apply hb
      rw [update_apply] at hb'
      split at hb'
      · cases hb'
      · exact hb'
    have ha' : w.shared.Live a := not_not.mp fun hnot => hdead a hnot ha
    exact @Local.Knows.frame w.shared ⟨w.shared.files, Function.update w.shared.crashed p true⟩ a
      ha' (.of_same hdead) _ (hinv.knows a ha')

/-- However any number of processes interleave and wherever they stop, from any files that
were left behind: if no recovery marker is removed in the place of another, one live
process at most has the lease, and the file of a live owner is not removed by another. -/
theorem executionLease_exclusive {w0 w : World} {actions : List Action}
    (h0 : ∀ p, w0.locals p = ⟨none, none⟩) (hrec : Recorded w0.shared)
    (hrun : run World.step w0 actions = some w)
    (hkept : Along World.step MarkerKept w0 actions) :
    (∀ a b, w.Holds a → w.Holds b → a = b) ∧
      ∀ p what w', w.step (.act p what) = some w' → MarkerKept w (.act p what) →
        ∀ a ino, a ≠ p → w.shared.Live a → Owns w.shared.files a .lease ino →
          w'.shared.files.linked .lease = some ino := by
  have hstart : Inv w0 := by
    refine ⟨hrec, fun p _ => ?_⟩
    rw [h0 p]; exact ⟨nofun, nofun, nofun, nofun⟩
  have hinv : Inv w :=
    hkept.invariant hrun (fun s what s' hstep hcond hs => hs.step hstep hcond) hstart
  constructor
  · intro a b ha hb
    obtain ⟨i, hi⟩ := (hinv.knows a ha.1).held ha.2
    obtain ⟨j, hj⟩ := (hinv.knows b hb.1).held hb.2; exact hi.unique hj
  · intro p what w' hstep hcond a ino hne hlive howns
    obtain ⟨next, rfl, -, -, hothers⟩ := hinv.act hstep hcond
    exact (hothers a hne).held .lease ino hlive howns

/-- An empty directory, and processes that have not called. -/
def fresh : World where
  shared := { files := ⟨fun _ => none, []⟩, crashed := fun _ => false }
  locals := fun _ => ⟨none, none⟩

def sha : String := "0123456789abcdef0123456789abcdef0123456789abcdef0123456789abcdef"

def ownerIdOf (n : ℕ) : String := "00000000-0000-4000-8000-00000000000" ++ toString n

def acquires (p : Pid) : Action := .act p (.acquireExecution sha (ownerIdOf p))

/-- The process takes its next instructions. -/
def goes (p : Pid) (n : ℕ) : List Action := List.replicate n (.act p .go)

/-- Process 1 stops with the lease, and process 2 at the start of a recovery. -/
def leaveBoth : List Action :=
  acquires 1 :: goes 1 3 ++ [.crash 1] ++ acquires 2 :: goes 2 5 ++ [.crash 2]

def recoverAlone : List Action := leaveBoth ++ acquires 3 :: goes 3 19

/-- Process 3 removes the marker that process 4 has put there, recovers the lease and returns with
its own, which process 4 removes. -/
def recoverTwice : List Action :=
  leaveBoth ++ acquires 3 :: goes 3 3 ++ acquires 4 :: goes 4 12 ++ goes 3 16 ++ goes 4 5

theorem executionLease_alone : ∃ w, run World.step fresh recoverAlone = some w ∧ w.Holds 3 ∧
    ∀ a b, w.Holds a → w.Holds b → a = b := by
  have hend : (run World.step fresh recoverAlone).map
      (fun w => (w.shared.crashed 3, (w.locals 3).held.isSome)) = some (false, true) := by
    decide +kernel
  obtain ⟨w, hrun, hw⟩ := map_eq_some_iff.mp hend
  obtain ⟨hlive, hheld⟩ := Prod.mk.inj hw
  have hkept : Along World.step MarkerKept fresh recoverAlone := by decide +kernel
  have hexclusive := executionLease_exclusive (fun _ => rfl) (fun _ _ _ h => by cases h) hrun hkept
  exact ⟨w, hrun, ⟨hlive, hheld⟩, hexclusive.1⟩

theorem executionLease_twoOwners : ∃ w, run World.step fresh recoverTwice = some w ∧
    w.Holds 3 ∧ w.Holds 4 := by
  have hend : (run World.step fresh recoverTwice).map
      (fun w => (w.shared.crashed 3, (w.locals 3).held.isSome, w.shared.crashed 4,
        (w.locals 4).held.isSome)) = some (false, true, false, true) := by
    decide +kernel
  obtain ⟨w, hrun, hw⟩ := map_eq_some_iff.mp hend
  obtain ⟨hlive3, hrest⟩ := Prod.mk.inj hw
  obtain ⟨hheld3, hrest⟩ := Prod.mk.inj hrest
  obtain ⟨hlive4, hheld4⟩ := Prod.mk.inj hrest
  exact ⟨w, hrun, ⟨hlive3, hheld3⟩, hlive4, hheld4⟩

end NemoClaw.ExecutionLease
