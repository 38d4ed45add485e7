import NemoClaw.Shields.ShieldsUp

/- The host, the gateway and the sandbox under the shields commands.

A policy or a lock that is reported as failed had no effect, and a lock that is reported as
done holds. A file that is there may not be readable; a state file whose write fails may
keep its content, get the new one or be torn, as it is not written aside. A policy that is
composed of a restrictive one is restrictive. A snapshot gets a path of its own, as the
clock never shows the same millisecond twice.

What is provided:
  1. `Can` — what each call can do, and be answered.
  2. `Still`, `Hardens` — what a part of a program leaves as it was.
  3. `Invariant` — snapshots are restrictive; a sandbox that is not shielded is recorded so,
     with its snapshot and a timer for it; a recorded lockdown was confirmed.
  4. `quiet`, `saveShieldsState_does` and the like — the calls and the small programs, each
     with what it leaves.
-/
namespace NemoClaw.Shields

open Js CallTree

structure Host where
  stateFile : StateFile
  marker : Option TimerMarker
  transitions : String → Option ShieldsDownTransition
  snapshots : String → Option String
  /-- the policy of the gateway -/
  policy : String
  configLocked : Bool
  /-- a lock has succeeded since the operation began -/
  lockConfirmed : Bool
  /-- a relaxed policy was rejected since the operation began -/
  relaxRejected : Bool
  /-- a write of the state file has failed since the operation began -/
  writeFailed : Bool

namespace Host

def begin (s : Host) : Host :=
  { s with lockConfirmed := false, relaxRejected := false, writeFailed := false }

/-- The snapshot is the one of the state file, or the one of the marker. -/
def Names (s : Host) (path : String) : Prop :=
  s.stateFile.state.shieldsPolicySnapshotPath = some path ∨
    ∃ marker, s.marker = some marker ∧ marker.snapshotPath = path

end Host

/-- An update that says by itself where the shields are, with the snapshot if they are down. -/
def ShieldsPatch.standsAlone (patch : ShieldsPatch) : Bool :=
  patch.shieldsDown = some false ||
    (patch.shieldsDown = some true && patch.shieldsPolicySnapshotPath.any (·.isSome))

/-- A read that nothing is lost by if it fails. -/
def Reader.StandsAlone : Reader → Prop
  | load => True
  | save patch | timer patch => patch.standsAlone

section Can

variable (restrictive : String → Prop) (mayFail : Reader → Prop)

def CanRead (s : Host) (reader : Reader) (file : StateFile) : Prop :=
  file = s.stateFile ∨ s.stateFile ≠ .absent ∧ file = .corrupt ∧ mayFail reader

def Can (s : Host) : (q : Call) → Host → q.Answer → Prop
  | .readStateFile reader, s', file => s' = s ∧ CanRead mayFail s reader file
  | .writeStateFile state, s', answer =>
    Split (fun s' (_ : Unit) => s' = { s with stateFile := .present state })
      (fun s' (_ : Failure) => ∃ file,
        (file = s.stateFile ∨ file = .corrupt ∨ file = .present state) ∧
          s' = { s with stateFile := file, writeFailed := true }) s' answer
  | .replaceStateFile state, s', answer =>
    Split (fun s' (_ : Unit) => s' = { s with stateFile := .present state })
      (fun s' (_ : Failure) => ∃ file, (file = s.stateFile ∨ file = .present state) ∧
        s' = { s with stateFile := file, writeFailed := true }) s' answer
  | .removeStateFile, s', answer =>
    Split (fun s' (_ : Unit) => s' = { s with stateFile := .absent })
      (fun s' (_ : Failure) => s' = { s with writeFailed := true }) s' answer
  | .readTimerMarker, s', marker => s' = s ∧ (marker = s.marker ∨ marker = none)
  | .clearTimerMarker, s', (warning : Option String) =>
    s' = { s with marker := if warning.isSome then s.marker else none }
  | .writeTimerMarkerAtomic marker, s', answer =>
    Split (fun s' (_ : Unit) => s' = { s with marker := some marker })
      (fun s' (_ : Failure) => s' = s ∨ s' = { s with marker := some marker }) s' answer
  | .cleanupOwnedTimerMarker _, s', _ => s' = s ∨ s' = { s with marker := none }
  | .readShieldsDownTransition token, s', transition =>
    s' = s ∧ (transition = s.transitions token ∨ transition = none)
  | .writeTransition transition, s', answer =>
    let written := { s with
      transitions := Function.update s.transitions transition.processToken (some transition) }
    Split (fun s' (_ : Unit) => s' = written)
      (fun s' (_ : Failure) => s' = s ∨ s' = written) s' answer
  | .clearShieldsDownTransition token, s', _ =>
    s' = s ∨ s' = { s with transitions := Function.update s.transitions token none }
  | .snapshotExists path, s', (present : Bool) =>
    s' = s ∧ present = (s.snapshots path).isSome
  | .readSnapshot path, s', answer =>
    s' = s ∧ ∀ text, answer = .ok text → s.snapshots path = some text
  | .writeSnapshot path policyYaml, s', answer =>
    ¬s.Names path ∧
      Split (fun s' (_ : Unit) => s' = { s with
          snapshots := Function.update s.snapshots path (some policyYaml) })
        (fun s' (_ : Failure) => ∃ torn, s' = { s with
          snapshots := Function.update s.snapshots path torn }) s' answer
  | .removeSnapshot path, s', _ =>
    s' = s ∨ s' = { s with snapshots := Function.update s.snapshots path none }
  | .getPolicy, s', (policyYaml : Option String) =>
    s' = s ∧ ∀ text, policyYaml = some text → text = s.policy
  | .setPolicy purpose policy, s', (status : Option ℤ) =>
    s' = if status = some 0 then { s with policy := policy }
      else { s with relaxRejected := s.relaxRejected || purpose = .relax }
  | .buildRuntimeManagedMcpPolicy base _ _, s', answer =>
    s' = s ∧ ∀ text, answer = .ok text → restrictive base → restrictive text
  | .buildDeadlineRuntimeManagedMcpPolicy base _ _, s', answer =>
    s' = s ∧ ∀ text, answer = .ok text → restrictive base → restrictive text
  | .lockAgentConfigUnderMutationLock _ _ _, s', answer =>
    Split (fun s' (_ : LockResult) => s' = { s with configLocked := true, lockConfirmed := true })
      (fun s' (_ : Failure) => s' = s) s' answer
  | .unlockAgentConfigUnderMutationLock _ _ _, s', answer =>
    Split (fun s' (_ : Unit) => s' = { s with configLocked := false })
      (fun s' (_ : Failure) => s' = s) s' answer
  | _, s', _ => s' = s

end Can

/-- Only transitions are touched. -/
def Idle (s s' : Host) : Prop := ∃ transitions, s' = { s with transitions }

/-- What is touched is the marker, the transitions and the snapshots. -/
structure Still (s s' : Host) : Prop where
  stateFile : s'.stateFile = s.stateFile
  policy : s'.policy = s.policy
  configLocked : s'.configLocked = s.configLocked
  lockConfirmed : s'.lockConfirmed = s.lockConfirmed
  relaxRejected : s'.relaxRejected = s.relaxRejected
  writeFailed : s'.writeFailed = s.writeFailed

/-- If anything is done then the restrictive policy is set or the lock applied. -/
structure Hardens (restrictive : String → Prop) (s s' : Host) : Prop where
  stateFile : s'.stateFile = s.stateFile
  marker : s'.marker = s.marker
  snapshots : s'.snapshots = s.snapshots
  relaxRejected : s'.relaxRejected = s.relaxRejected
  writeFailed : s'.writeFailed = s.writeFailed
  policy : s'.policy = s.policy ∨ restrictive s'.policy
  configLocked : s.configLocked → s'.configLocked
  lockConfirmed : s.lockConfirmed → s'.lockConfirmed

section Frames

variable {restrictive : String → Prop} {mayFail : Reader → Prop} {s s' s'' : Host}

lemma Still.refl : Still s s := ⟨rfl, rfl, rfl, rfl, rfl, rfl⟩

lemma Still.trans (h : Still s s') (h' : Still s' s'') : Still s s'' where
  stateFile := h'.stateFile.trans h.stateFile
  policy := h'.policy.trans h.policy
  configLocked := h'.configLocked.trans h.configLocked
  lockConfirmed := h'.lockConfirmed.trans h.lockConfirmed
  relaxRejected := h'.relaxRejected.trans h.relaxRejected
  writeFailed := h'.writeFailed.trans h.writeFailed

lemma Hardens.refl : Hardens restrictive s s :=
  ⟨rfl, rfl, rfl, rfl, rfl, .inl rfl, id, id⟩

lemma Hardens.trans (h : Hardens restrictive s s') (h' : Hardens restrictive s' s'') :
    Hardens restrictive s s'' where
  stateFile := h'.stateFile.trans h.stateFile
  marker := h'.marker.trans h.marker
  snapshots := h'.snapshots.trans h.snapshots
  relaxRejected := h'.relaxRejected.trans h.relaxRejected
  writeFailed := h'.writeFailed.trans h.writeFailed
  policy := by
    cases h'.policy with
    | inl heq => exact heq ▸ h.policy
    | inr hr => exact .inr hr
  configLocked := fun hlocked => h'.configLocked (h.configLocked hlocked)
  lockConfirmed := fun hlock => h'.lockConfirmed (h.lockConfirmed hlock)

lemma Hardens.restrictive_policy (h : Hardens restrictive s s') (hs : restrictive s.policy) :
    restrictive s'.policy := by
  cases h.policy with
  | inl heq => exact heq ▸ hs
  | inr hr => exact hr

lemma Idle.refl : Idle s s := ⟨s.transitions, rfl⟩

lemma Idle.trans (h : Idle s s') (h' : Idle s' s'') : Idle s s'' := by
  obtain ⟨_, rfl⟩ := h
  obtain ⟨transitions, rfl⟩ := h'; exact ⟨transitions, rfl⟩

lemma Idle.still (h : Idle s s') : Still s s' := by
  obtain ⟨_, rfl⟩ := h; exact ⟨rfl, rfl, rfl, rfl, rfl, rfl⟩

lemma Idle.hardens (h : Idle s s') : Hardens restrictive s s' := by
  obtain ⟨_, rfl⟩ := h; exact ⟨rfl, rfl, rfl, rfl, rfl, .inl rfl, id, id⟩

/-! ## What holds all along -/

variable (restrictive) in
structure Strong (s : Host) : Prop where
  policy : restrictive s.policy
  configLocked : s.configLocked

variable (restrictive) in
def Restrictive (s : Host) (path : String) : Prop :=
  ∀ text, s.snapshots path = some text → restrictive text

/-- Somebody raised or lowered the shields. -/
structure Recorded (file : StateFile) : Prop where
  present : file ≠ .absent
  known : ∀ state, file = .present state → state.shieldsDown ≠ none

def RecordedDown (file : StateFile) (path : String) : Prop :=
  ∃ state, file = .present state ∧ state.shieldsDown = some true ∧
    state.shieldsPolicySnapshotPath = some path

/-- The shields are recorded as down, and there is a timer for the snapshot. -/
def Tracked (s : Host) : Prop :=
  ∃ marker, s.marker = some marker ∧ RecordedDown s.stateFile marker.snapshotPath

variable (restrictive) (tracked : Prop) (s0 : Host)

/-- The sandbox is shielded. Without tracking this says nothing. -/
def Firm (s : Host) : Prop := tracked → Strong restrictive s ∧ Recorded s.stateFile

/-- A lockdown on record was confirmed, unless it was there before. A rejected policy is left
out. -/
def Real (s : Host) : Prop :=
  s.relaxRejected = false → s.stateFile.mode = .locked →
    s.lockConfirmed ∨ s0.stateFile.mode = .locked

structure Invariant (s : Host) : Prop where
  sound : ∀ path, s.Names path → Restrictive restrictive s path
  window : tracked → Strong restrictive s ∧ Recorded s.stateFile ∨ Tracked s
  real : Real s0 s

variable {restrictive tracked s0}

lemma Recorded.of_present {state : ShieldsState} (h : state.shieldsDown ≠ none) :
    Recorded (.present state) := by
  refine ⟨by simp, fun state' heq => ?_⟩
  cases heq; exact h

lemma Recorded.corrupt : Recorded .corrupt := ⟨by simp, by simp⟩

lemma Strong.still (h : Strong restrictive s) (hstill : Still s s') : Strong restrictive s' :=
  ⟨hstill.policy ▸ h.policy, hstill.configLocked.trans h.configLocked⟩

lemma Strong.hardens (h : Strong restrictive s) (hs : Hardens restrictive s s') :
    Strong restrictive s' :=
  ⟨hs.restrictive_policy h.policy, hs.configLocked h.configLocked⟩

lemma Firm.still (h : Firm restrictive tracked s) (hstill : Still s s') :
    Firm restrictive tracked s' := fun ht =>
  ⟨(h ht).1.still hstill, hstill.stateFile ▸ (h ht).2⟩

lemma Firm.hardens (h : Firm restrictive tracked s) (hs : Hardens restrictive s s') :
    Firm restrictive tracked s' := fun ht =>
  ⟨(h ht).1.hardens hs, hs.stateFile ▸ (h ht).2⟩

lemma Real.still (h : Real s0 s) (hstill : Still s s') : Real s0 s' := by
  intro hrejected hlocked
  rw [hstill.lockConfirmed]
  exact h (hstill.relaxRejected ▸ hrejected) (hstill.stateFile ▸ hlocked)

lemma Real.hardens (h : Real s0 s) (hs : Hardens restrictive s s') : Real s0 s' := by
  intro hrejected hlocked
  exact (h (hs.relaxRejected ▸ hrejected) (hs.stateFile ▸ hlocked)).imp_left hs.lockConfirmed

lemma Restrictive.hardens {path : String} (h : Restrictive restrictive s path)
    (hs : Hardens restrictive s s') : Restrictive restrictive s' path := by
  intro text htext
  rw [hs.snapshots] at htext; exact h text htext

lemma Hardens.names {path : String} (h : Hardens restrictive s s') (hn : s'.Names path) :
    s.Names path := by
  unfold Host.Names at hn
  rw [h.stateFile, h.marker] at hn; exact hn

lemma Invariant.hardens (h : Invariant restrictive tracked s0 s)
    (hs : Hardens restrictive s s') : Invariant restrictive tracked s0 s' where
  sound := fun path hn => (h.sound path (hs.names hn)).hardens hs
  window := by
    intro ht
    cases h.window ht with
    | inl hfirm => exact .inl ⟨hfirm.1.hardens hs, hs.stateFile ▸ hfirm.2⟩
    | inr htracked =>
      obtain ⟨marker, hmarker, hdown⟩ := htracked
      exact .inr ⟨marker, hs.marker.trans hmarker, hs.stateFile ▸ hdown⟩
  real := h.real.hardens hs

/-- A shielded sandbox keeps the invariant whatever restrictive snapshots and markers there are. -/
lemma Invariant.still (h : Invariant restrictive tracked s0 s)
    (hfirm : Firm restrictive tracked s) (hstill : Still s s')
    (hsound : ∀ path, s'.Names path → Restrictive restrictive s' path) :
    Invariant restrictive tracked s0 s' where
  sound := hsound
  window := fun ht => .inl (hfirm.still hstill ht)
  real := h.real.still hstill

end Frames

/-- A call that touches transitions at most. -/
def Call.Passive : Call → Prop
  | writeStateFile _ | replaceStateFile _ | removeStateFile | clearTimerMarker
  | writeTimerMarkerAtomic _ | cleanupOwnedTimerMarker _ | writeSnapshot _ _ | removeSnapshot _
  | setPolicy _ _ | lockAgentConfigUnderMutationLock _ _ _
  | unlockAgentConfigUnderMutationLock _ _ _ => False
  | _ => True

def Call.Quiet : Call → Prop
  | clearTimerMarker | cleanupOwnedTimerMarker _ | removeSnapshot _ => True
  | q => q.Passive

theorem Call.Passive.quiet {q : Call} (h : q.Passive) : q.Quiet := by
  cases q
  all_goals first
    | exact trivial
    | exact h

section Calls

variable {restrictive : String → Prop} {mayFail : Reader → Prop} {tracked : Prop}
  {s0 s s' : Host} {α : Type} {t : Program α}

abbrev Does (restrictive : String → Prop) (mayFail : Reader → Prop) (tracked : Prop)
    (s0 : Host) (post : Host → Except Failure α → Prop) (t : Program α) (s : Host) : Prop :=
  Always (Can restrictive mayFail) (Invariant restrictive tracked s0) post t s

lemma Can.idle {q : Call} {x : q.Answer} (hq : q.Passive)
    (h : Can restrictive mayFail s q s' x) : Idle s s' := by
  cases q
  case writeTransition transition =>
    cases x with
    | ok _ => exact ⟨_, h⟩
    | error _ =>
      cases h with
      | inl heq => exact heq ▸ .refl
      | inr heq => exact ⟨_, heq⟩
  case clearShieldsDownTransition token =>
    cases h with
    | inl heq => exact heq ▸ .refl
    | inr heq => exact ⟨_, heq⟩
  all_goals first
    | exact hq.elim
    | exact h.1 ▸ Idle.refl
    | exact h ▸ Idle.refl

structure Sheds (s s' : Host) : Prop extends Still s s' where
  marker : s'.marker = s.marker ∨ s'.marker = none
  snapshots : ∀ path text, s'.snapshots path = some text → s.snapshots path = some text

lemma Sheds.refl : Sheds s s := ⟨.refl, .inl rfl, fun _ _ h => h⟩

lemma Sheds.trans {s'' : Host} (h : Sheds s s') (h' : Sheds s' s'') : Sheds s s'' where
  toStill := h.toStill.trans h'.toStill
  marker := by
    cases h'.marker with
    | inl heq => exact heq ▸ h.marker
    | inr hnone => exact .inr hnone
  snapshots := fun path text htext => h.snapshots path text (h'.snapshots path text htext)

lemma Idle.sheds (h : Idle s s') : Sheds s s' := by
  obtain ⟨_, rfl⟩ := h
  exact ⟨⟨rfl, rfl, rfl, rfl, rfl, rfl⟩, .inl rfl, fun _ _ h => h⟩

lemma Sheds.keeps {path : String} (h : Sheds s s')
    (hs : Restrictive restrictive s path) : Restrictive restrictive s' path :=
  fun text htext => hs text (h.snapshots path text htext)

lemma Sheds.names {path : String} (h : Sheds s s') (hn : s'.Names path) : s.Names path := by
  cases hn with
  | inl hfile => exact .inl (h.stateFile ▸ hfile)
  | inr hmarker =>
  obtain ⟨marker, hsome, hpath⟩ := hmarker
  refine .inr ⟨marker, ?_, hpath⟩
  cases h.marker with
  | inl heq => exact heq ▸ hsome
  | inr hnone => rw [hnone] at hsome; cases hsome

lemma Invariant.sheds (h : Invariant restrictive tracked s0 s)
    (hfirm : Firm restrictive tracked s) (hs : Sheds s s') :
    Invariant restrictive tracked s0 s' :=
  h.still hfirm hs.toStill fun path hn => hs.keeps (h.sound path (hs.names hn))

lemma Can.sheds {q : Call} {x : q.Answer} (hq : q.Quiet)
    (h : Can restrictive mayFail s q s' x) : Sheds s s' := by
  cases q
  case clearTimerMarker =>
    have hs : s' = { s with marker := if Option.isSome x then s.marker else none } := h
    rw [hs]
    refine ⟨⟨rfl, rfl, rfl, rfl, rfl, rfl⟩, ?_, fun _ _ h => h⟩
    cases Option.isSome x with
    | true => exact .inl rfl
    | false => exact .inr rfl
  case cleanupOwnedTimerMarker =>
    cases h with
    | inl heq => exact heq ▸ .refl
    | inr heq => exact heq ▸ ⟨⟨rfl, rfl, rfl, rfl, rfl, rfl⟩, .inr rfl, fun _ _ h => h⟩
  case removeSnapshot removed =>
    cases h with
    | inl heq => exact heq ▸ .refl
    | inr heq =>
    rw [heq]
    refine ⟨⟨rfl, rfl, rfl, rfl, rfl, rfl⟩, .inl rfl, fun path text htext => ?_⟩
    by_cases hpath : path = removed
    · simp [hpath] at htext
    · simpa [hpath] using htext
  all_goals first
    | exact hq.elim
    | exact (Can.idle (by exact hq) h).sheds

lemma idle (ht : t.Calls Call.Passive) (hinv : Invariant restrictive tracked s0 s) :
    Does restrictive mayFail tracked s0 (fun s' _ => Idle s s') t s :=
  Always.of_calls ht (fun _ hs => hinv.hardens hs.hardens)
    (fun _ _ _ _ hq hcan hs => hs.trans (Can.idle hq hcan)) .refl

theorem quiet (ht : t.Calls Call.Quiet) (hinv : Invariant restrictive tracked s0 s)
    (hfirm : Firm restrictive tracked s) :
    Does restrictive mayFail tracked s0 (fun s' _ => Sheds s s') t s :=
  Always.of_calls ht (fun _ hs => hinv.sheds hfirm hs)
    (fun _ _ _ _ hq hcan hs => hs.trans (Can.sheds hq hcan)) .refl

end Calls

end NemoClaw.Shields
