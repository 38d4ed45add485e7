import NemoClaw.Shields.ShieldsParts

/- The commands that raise the shields, and the timer.

Each of them records a lockdown only where the lock has succeeded, or where it was recorded
before, and takes the marker away only from a sandbox that is shielded. So all of them keep
the invariant; and none of them asks for a relaxed policy.
-/
namespace NemoClaw.Shields

open Js CallTree

section Raised

variable {restrictive : String → Prop} {mayFail : Reader → Prop} {tracked : Prop}
  {s0 s s' : Host} {pid : ℕ} {file : StateFile}

/-! ## What is recorded -/

variable {reader : Reader} {patch : ShieldsPatch} {r : Except Failure Unit} {opts : ShieldsUpOpts}
  {protocol : HermesShieldsProtocol}

/-- What an update has read decides about the fields that it does not give. -/
lemma Updated.state (h : Updated mayFail s reader patch file) :
    ∃ state, file = .present state ∧
      (state.shieldsDown = patch.shieldsDown.or s.stateFile.state.shieldsDown ∨
        mayFail reader ∧ state.shieldsDown = patch.shieldsDown) ∧
      ∀ path, state.shieldsPolicySnapshotPath = some path →
        patch.shieldsPolicySnapshotPath = some (some path) ∨
          s.stateFile.state.shieldsPolicySnapshotPath = some path := by
  obtain ⟨current, updatedAt, hread, rfl⟩ := h
  refine ⟨_, rfl, ?_, fun path hpath => ?_⟩
  · cases hread with
    | inl heq => exact .inl (heq ▸ rfl)
    | inr hfailed => obtain ⟨-, rfl, hmay⟩ := hfailed; exact .inr ⟨hmay, Option.or_none⟩
  · have hget : patch.shieldsPolicySnapshotPath.getD current.state.shieldsPolicySnapshotPath =
        some path := hpath
    cases hpatch : patch.shieldsPolicySnapshotPath with
    | some _ => rw [hpatch, Option.getD_some] at hget; exact .inl (congrArg some hget)
    | none =>
      rw [hpatch, Option.getD_none] at hget
      refine .inr ?_
      cases hread with
      | inl heq => exact heq ▸ hget
      | inr hfailed => rw [hfailed.2.1] at hget; cases hget

lemma Invariant.record (hinv : Invariant restrictive tracked s0 s)
    (hfirm : Firm restrictive tracked s) (hrecorded : tracked → Recorded file)
    (hpath : ∀ path, file.state.shieldsPolicySnapshotPath = some path →
      Restrictive restrictive s path)
    (hreal : s.relaxRejected = false → file.mode = .locked →
      s.lockConfirmed = true ∨ s0.stateFile.mode = .locked) :
    Invariant restrictive tracked s0 { s with stateFile := file } where
  sound := by
    intro path hnames
    cases hnames with
    | inl hfile => exact hpath path hfile
    | inr hmarker => exact hinv.sound path (.inr hmarker)
  window := fun ht => .inl ⟨⟨(hfirm ht).1.policy, (hfirm ht).1.configLocked⟩, hrecorded ht⟩
  real := hreal

lemma Invariant.corrupt (hinv : Invariant restrictive tracked s0 s)
    (hfirm : Firm restrictive tracked s) :
    Invariant restrictive tracked s0 { s with stateFile := .corrupt } :=
  hinv.record hfirm (fun _ => .corrupt) nofun nofun

/-- An update for a sandbox that stays shielded. -/
structure Raises (restrictive : String → Prop) (s : Host) (patch : ShieldsPatch) : Prop where
  down : patch.shieldsDown = some false
  path : ∀ path, patch.shieldsPolicySnapshotPath = some (some path) → Restrictive restrictive s path

lemma Raises.upPatch {lock : Option LockResult} : Raises restrictive s (upPatch lock) :=
  ⟨rfl, nofun⟩

lemma Raises.driftPatch {result : LockResult} : Raises restrictive s (driftPatch result) :=
  ⟨rfl, nofun⟩

lemma Raises.state (hraises : Raises restrictive s patch)
    (h : Updated mayFail s reader patch file) :
    ∃ state, file = .present state ∧ state.shieldsDown = some false := by
  obtain ⟨state, rfl, hdown, -⟩ := h.state
  refine ⟨state, rfl, ?_⟩
  rw [hraises.down] at hdown
  cases hdown with
  | inl heq => exact heq
  | inr hfailed => exact hfailed.2

lemma Raises.invariant (hraises : Raises restrictive s patch)
    (h : Updated mayFail s reader patch file) (hinv : Invariant restrictive tracked s0 s)
    (hfirm : Firm restrictive tracked s)
    (hreal : s.relaxRejected = false → s.lockConfirmed = true ∨ s0.stateFile.mode = .locked) :
    Invariant restrictive tracked s0 { s with stateFile := file } := by
  refine hinv.record hfirm (fun _ => ?_) (fun path hpath => ?_) fun hrejected _ => hreal hrejected
  · obtain ⟨state, rfl, hdown⟩ := hraises.state h
    exact .of_present (by simp [hdown])
  obtain ⟨state, rfl, -, hnames⟩ := h.state
  cases hnames path hpath with
  | inl hpatch => exact hraises.path path hpatch
  | inr hold => exact hinv.sound path (.inl hold)

def RecordedUp (tracked : Prop) (s : Host) : Host → Except Failure Unit → Prop :=
  Split (fun s' _ => ∃ state, state.shieldsDown = some false ∧
      s' = { s with stateFile := .present state })
    fun s' _ => ∃ file, (tracked → Recorded file) ∧
      s' = { s with stateFile := file, writeFailed := true }

lemma RecordedUp.firm (h : RecordedUp tracked s s' r) (hfirm : Firm restrictive tracked s) :
    Firm restrictive tracked s' ∧ s'.relaxRejected = s.relaxRejected := by
  have hstrong := fun (file : StateFile) (failed : Bool) (ht : tracked) =>
    (⟨(hfirm ht).1.policy, (hfirm ht).1.configLocked⟩ :
      Strong restrictive { s with stateFile := file, writeFailed := failed })
  cases r with
  | ok _ =>
    obtain ⟨state, hdown, rfl⟩ := h
    exact ⟨fun ht => ⟨hstrong _ _ ht, .of_present (by simp [hdown])⟩, rfl⟩
  | error e =>
    obtain ⟨file, hrecorded, rfl⟩ := h
    exact ⟨fun ht => ⟨hstrong _ _ ht, hrecorded ht⟩, rfl⟩

section

variable (hraises : Raises restrictive s patch)
include hraises

lemma Written.recordedUp {torn : StateFile → Prop} (hfirm : Firm restrictive tracked s)
    (htorn : ∀ file, torn file → file = .corrupt)
    (h : Written s (Updated mayFail s reader patch) torn s' r) : RecordedUp tracked s s' r := by
  cases r with
  | ok _ =>
    obtain ⟨file, hupdated, hs⟩ := h
    obtain ⟨state, rfl, hdown⟩ := hraises.state hupdated
    exact ⟨state, hdown, hs⟩
  | error e =>
    obtain ⟨file, hfile, hs⟩ := h
    refine ⟨file, fun ht => ?_, hs⟩
    obtain rfl | hcorrupt | hupdated := hfile
    · exact (hfirm ht).2
    · exact htorn file hcorrupt ▸ .corrupt
    · obtain ⟨state, rfl, hdown⟩ := hraises.state hupdated
      exact .of_present (by simp [hdown])

lemma saveUp_does (hinv : Invariant restrictive tracked s0 s) (hfirm : Firm restrictive tracked s)
    (hreal : s.relaxRejected = false → s.lockConfirmed = true ∨ s0.stateFile.mode = .locked) :
    Does restrictive mayFail tracked s0 (RecordedUp tracked s) (saveShieldsState patch) s :=
  (saveShieldsState_does hinv (fun _ h => hraises.invariant h hinv hfirm hreal)
    (hinv.corrupt hfirm)).mono fun _ _ _ h => h.recordedUp hraises hfirm fun _ => id

lemma updateUp_does (hinv : Invariant restrictive tracked s0 s)
    (hfirm : Firm restrictive tracked s)
    (hreal : s.relaxRejected = false → s.lockConfirmed = true ∨ s0.stateFile.mode = .locked) :
    Does restrictive mayFail tracked s0 (RecordedUp tracked s) (TimerArgs.updateState patch) s :=
  (updateState_does hinv fun _ h => hraises.invariant h hinv hfirm hreal).mono
    fun _ _ _ h => h.recordedUp hraises hfirm fun _ => False.elim

end

/-- The seal of a lock: an update that does not say where the shields are. -/
structure Seals (patch : ShieldsPatch) : Prop where
  down : patch.shieldsDown = none
  path : patch.shieldsPolicySnapshotPath = none

/-- A record whose shields are where they were. -/
def RecordedAsWas (tracked : Prop) (s : Host) : Host → Except Failure Unit → Prop :=
  Split (fun s' _ => ∃ file, (tracked → Recorded file) ∧ s' = { s with stateFile := file })
    fun s' _ => ∃ file, (tracked → Recorded file) ∧
      s' = { s with stateFile := file, writeFailed := true }

lemma Seals.state (hseals : Seals patch) (h : Updated mayFail s (.save patch) patch file) :
    ∃ state, file = .present state ∧
      (state.shieldsDown = s.stateFile.state.shieldsDown ∨
        mayFail (.save patch) ∧ state.shieldsDown = none) ∧
      ∀ path, state.shieldsPolicySnapshotPath = some path →
        s.stateFile.state.shieldsPolicySnapshotPath = some path := by
  obtain ⟨state, rfl, hdown, hpath⟩ := h.state
  rw [hseals.down] at hdown
  refine ⟨state, rfl, hdown, fun path hstate => ?_⟩
  cases hpath path hstate with
  | inl hpatch => rw [hseals.path] at hpatch; cases hpatch
  | inr hold => exact hold

lemma Seals.recorded (hseals : Seals patch) (h : Updated mayFail s (.save patch) patch file)
    (hmay : ∀ reader, mayFail reader → reader.StandsAlone)
    (hknown : s.stateFile.state.shieldsDown ≠ none) : Recorded file := by
  obtain ⟨state, rfl, hdown, -⟩ := hseals.state h
  refine .of_present ?_
  cases hdown with
  | inl heq => exact heq ▸ hknown
  | inr hfailed =>
    have halone : patch.standsAlone = true := hmay _ hfailed.1
    simp [ShieldsPatch.standsAlone, hseals.down] at halone

lemma saveSeal_does (hseals : Seals patch)
    (hmay : tracked → ∀ reader, mayFail reader → reader.StandsAlone)
    (hknown : tracked → s.stateFile.state.shieldsDown ≠ none)
    (hinv : Invariant restrictive tracked s0 s) (hfirm : Firm restrictive tracked s) :
    Does restrictive mayFail tracked s0 (RecordedAsWas tracked s) (saveShieldsState patch) s := by
  have hnew : ∀ file, Updated mayFail s (.save patch) patch file →
      Invariant restrictive tracked s0 { s with stateFile := file } := by
    intro file hupdated
    refine hinv.record hfirm (fun ht => hseals.recorded hupdated (hmay ht) (hknown ht))
      (fun path hpath => ?_) fun hrejected hlocked => hinv.real hrejected ?_
    · obtain ⟨state, rfl, -, hnames⟩ := hseals.state hupdated
      exact hinv.sound path (.inl (hnames path hpath))
    · obtain ⟨state, rfl, hdown, -⟩ := hseals.state hupdated
      obtain ⟨_, heq, hfalse⟩ := StateFile.mode_locked_iff.mp hlocked
      cases heq
      cases hdown with
      | inr hfailed => rw [hfailed.2] at hfalse; cases hfalse
      | inl hsame =>
        rw [hsame] at hfalse
        cases hs : s.stateFile with
        | present old =>
          rw [hs] at hfalse; exact StateFile.mode_locked_iff.mpr ⟨old, rfl, hfalse⟩
        | absent => simp [hs, StateFile.state] at hfalse
        | corrupt => simp [hs, StateFile.state] at hfalse
  refine (saveShieldsState_does hinv hnew (hinv.corrupt hfirm)).mono fun s' r _ h => ?_
  cases r with
  | ok _ =>
    obtain ⟨file, hupdated, hs⟩ := h
    exact ⟨file, fun ht => hseals.recorded hupdated (hmay ht) (hknown ht), hs⟩
  | error e =>
    obtain ⟨file, hfile, hs⟩ := h
    refine ⟨file, fun ht => ?_, hs⟩
    obtain rfl | rfl | hupdated := hfile
    · exact (hfirm ht).2
    · exact .corrupt
    · exact hseals.recorded hupdated (hmay ht) (hknown ht)

/-- No relaxed policy was rejected meanwhile. -/
def Unrejected {α : Type} (s s' : Host) (_ : Except Failure α) : Prop :=
  s'.relaxRejected = s.relaxRejected

lemma Does.since {α : Type} {t : Program α} (h : s'.relaxRejected = s.relaxRejected)
    (hdoes : Does restrictive mayFail tracked s0 (Unrejected s') t s') :
    Does restrictive mayFail tracked s0 (Unrejected s) t s' :=
  hdoes.mono fun _ _ _ h' => h'.trans h

lemma Does.passive {α β : Type} {t : Program α} {f : α → Program β}
    (ht : t.Calls Call.Passive) (hinv : Invariant restrictive tracked s0 s)
    (hf : ∀ s' a, Idle s s' → Invariant restrictive tracked s0 s' →
      Does restrictive mayFail tracked s0 (Unrejected s') (f a) s') :
    Does restrictive mayFail tracked s0 (Unrejected s) (t.bind f) s := by
  refine (idle ht hinv).bind (fun s1 a hinv1 h1 => ?_) fun s1 e _ h1 => h1.still.relaxRejected
  exact (hf s1 a h1 hinv1).since h1.still.relaxRejected

lemma Does.quiet {α : Type} {t : Program α} (ht : t.Calls Call.Quiet)
    (hinv : Invariant restrictive tracked s0 s) (hfirm : Firm restrictive tracked s) :
    Does restrictive mayFail tracked s0 (Unrejected s) t s :=
  (Shields.quiet ht hinv hfirm).mono fun _ _ _ h => h.relaxRejected

lemma Does.recordUp {α : Type} {write : Program Unit} {rest : Program α}
    (hfirm : Firm restrictive tracked s)
    (hwrite : Does restrictive mayFail tracked s0 (RecordedUp tracked s) write s)
    (hrest : rest.Calls Call.Quiet) :
    Does restrictive mayFail tracked s0 (Unrejected s) (write.bind fun _ => rest) s := by
  refine hwrite.bind (fun s1 _ hinv1 h1 => ?_) fun s1 e _ h1 => (h1.firm hfirm).2
  obtain ⟨hfirm1, hrejected⟩ := h1.firm hfirm
  exact (Does.quiet hrest hinv1 hfirm1).since hrejected

/-! ## By hand -/

lemma locked_of_down {state : ShieldsState} (hfile : s.stateFile = .present state)
    (hdown : state.shieldsDown = some false) (hinv : Invariant restrictive tracked s0 s) :
    Firm restrictive tracked s ∧
      (s.relaxRejected = false → s.lockConfirmed = true ∨ s0.stateFile.mode = .locked) := by
  refine ⟨fun ht => ?_, fun hrejected =>
    hinv.real hrejected (StateFile.mode_locked_iff.mpr ⟨state, hfile, hdown⟩)⟩
  cases hinv.window ht with
  | inl hfirm => exact hfirm
  | inr htracked =>
  obtain ⟨marker, -, state', heq, htrue, -⟩ := htracked
  cases hfile.symm.trans heq
  rw [hdown] at htrue; cases htrue

lemma RecordedAsWas.firm (h : RecordedAsWas tracked s s' r) (hfirm : Firm restrictive tracked s) :
    Firm restrictive tracked s' ∧ s'.relaxRejected = s.relaxRejected := by
  cases r with
  | ok _ =>
    obtain ⟨file, hrecorded, rfl⟩ := h
    exact ⟨fun ht => ⟨⟨(hfirm ht).1.policy, (hfirm ht).1.configLocked⟩, hrecorded ht⟩, rfl⟩
  | error e =>
    obtain ⟨file, hrecorded, rfl⟩ := h
    exact ⟨fun ht => ⟨⟨(hfirm ht).1.policy, (hfirm ht).1.configLocked⟩, hrecorded ht⟩, rfl⟩

section

variable (hmay : tracked → ∀ reader, mayFail reader → reader.StandsAlone)
include hmay

lemma sealLockdown_does {state : ShieldsState} {target : AgentConfigTarget}
    (hfile : s.stateFile = .present state) (hdown : state.shieldsDown = some false)
    (hinv : Invariant restrictive tracked s0 s) :
    Does restrictive mayFail tracked s0
      (fun s' _ => Firm restrictive tracked s' ∧ s'.relaxRejected = s.relaxRejected)
      (sealLockdown state target) s := by
  obtain ⟨hfirm, -⟩ := locked_of_down hfile hdown hinv
  refine .ite (fun _ => ⟨hinv, hfirm, rfl⟩) fun _ => ?_
  have hcapture : (captureSealHashes (target.configPath :: target.sensitiveFiles)).Calls
    Call.Passive := .bind (.ask trivial) fun _ => .done
  refine (idle hcapture hinv).bind (fun s1 hashes hinv1 h1 => ?_)
    fun s1 e _ h1 => ⟨hfirm.still h1.still, h1.still.relaxRejected⟩
  have hfirm1 := hfirm.still h1.still
  refine (saveSeal_does ⟨rfl, rfl⟩ hmay (fun _ => ?_) hinv1 hfirm1).mono fun s2 r _ h2 => ?_
  · simp [h1.still.stateFile, hfile, StateFile.state, hdown]
  · exact ⟨(h2.firm hfirm1).1, (h2.firm hfirm1).2.trans h1.still.relaxRejected⟩

lemma confirmLockdown_does {state : ShieldsState} {target : AgentConfigTarget}
    (hfile : s.stateFile = .present state) (hdown : state.shieldsDown = some false)
    (hinv : Invariant restrictive tracked s0 s) :
    Does restrictive mayFail tracked s0 (Unrejected s) (confirmLockdown state target) s := by
  refine (sealLockdown_does hmay hfile hdown hinv).bind (fun s1 _ hinv1 h1 => ?_)
    fun s1 e _ h1 => h1.2
  have hclear : (clearTimerMarker.bind fun _ => (pure () : Program Unit)).Calls Call.Quiet :=
    .bind clearTimerMarker_calls fun _ => .done
  exact (Does.quiet hclear hinv1 h1.1).since h1.2

lemma checkLockdown_does {state : ShieldsState} (hfile : s.stateFile = .present state)
    (hdown : state.shieldsDown = some false) (hinv : Invariant restrictive tracked s0 s) :
    Does restrictive mayFail tracked s0 (Unrejected s) (checkLockdown pid state opts) s := by
  refine Does.passive resolveTarget_calls hinv fun s1 target h1 hinv1 => ?_
  refine Does.passive (.bind (.ask trivial) fun _ => .done) hinv1 fun s2 issues h2 hinv2 => ?_
  refine Does.passive .done hinv2 fun s3 _ h3 hinv3 => ?_
  have hfile3 : s3.stateFile = .present state :=
    ((h1.trans h2).trans h3).still.stateFile.trans hfile
  refine .ite (fun _ => confirmLockdown_does hmay hfile3 hdown hinv3) fun _ => ?_
  obtain ⟨hfirm3, hreal3⟩ := locked_of_down hfile3 hdown hinv3
  refine Does.passive requireHermesShieldsProtocol_calls hinv3 fun s4 protocol h4 hinv4 => ?_
  refine (relock_does hinv4).bind (fun s5 relocked hinv5 h5 => ?_)
    fun s5 e _ h5 => Hardens.relaxRejected h5
  obtain ⟨hhardens, hlocked⟩ := h5
  refine Does.since hhardens.relaxRejected ?_
  cases relocked with
  | error e => exact ⟨hinv5, rfl⟩
  | ok result =>
  have hfirm5 := (hfirm3.still h4.still).hardens hhardens
  exact Does.recordUp hfirm5
    (saveUp_does .driftPatch hinv5 hfirm5 fun _ => .inl (hlocked result rfl).lockConfirmed)
    (.bind clearTimerMarker_calls fun _ => Calls.quiet appendAuditEntry_calls)

end

lemma Invariant.recorded (hinv : Invariant restrictive tracked s0 s) (ht : tracked) :
    Recorded s.stateFile := by
  cases hinv.window ht with
  | inl hfirm => exact hfirm.2
  | inr htracked =>
    obtain ⟨marker, -, state, heq, hdown, -⟩ := htracked
    exact heq ▸ .of_present (by simp [hdown])

/-- The sandbox is shielded, and a lock of this operation says so. -/
structure Confirmed (restrictive : String → Prop) (tracked : Prop) (s s' : Host) : Prop where
  firm : Firm restrictive tracked s'
  lockConfirmed : s'.lockConfirmed = true
  relaxRejected : s'.relaxRejected = s.relaxRejected

lemma requireSnapshot_does {state : ShieldsState} (hinv : Invariant restrictive tracked s0 s) :
    Does restrictive mayFail tracked s0
      (Split (fun s' _ => Idle s s' ∧
          (state.shieldsDown = some true → (snapshotToRestore state).isSome = true))
        fun s' _ => Idle s s')
      (requireSnapshot state) s := by
  refine .ite (fun hdown => ⟨hinv, .refl, fun h => absurd h hdown⟩) fun _ => ?_
  cases hpath : state.shieldsPolicySnapshotPath with
  | none => exact ⟨hinv, Idle.refl⟩
  | some path =>
  have hcalls : (snapshotPresent path).Calls Call.Passive :=
    .ite (fun _ => .done) fun _ => .ask trivial
  refine (idle hcalls hinv).bind (fun s1 present hinv1 h1 => ?_) fun s1 e _ h1 => h1
  refine .ite (fun _ => ⟨hinv1, h1, fun hdown => ?_⟩) fun _ => ⟨hinv1, h1⟩
  simp [snapshotToRestore, hdown, hpath]

lemma lockFresh_does {target : AgentConfigTarget} (hfresh : ¬tracked)
    (hinv : Invariant restrictive tracked s0 s) :
    Does restrictive mayFail tracked s0
      (Split (fun s' _ => Confirmed restrictive tracked s s')
        fun s' _ => s'.relaxRejected = s.relaxRejected)
      (lockFresh pid target protocol opts) s := by
  have hfirm : ∀ s, Firm restrictive tracked s := fun _ ht => absurd ht hfresh
  refine (lockAgentConfig_does hinv).bind (fun s1 result hinv1 h1 => ?_)
    fun s1 e _ h1 => Hardens.relaxRejected h1
  refine (saveSeal_does ⟨rfl, rfl⟩ (fun ht => absurd ht hfresh) (fun ht => absurd ht hfresh)
    hinv1 (hfirm s1)).bind (fun s2 _ hinv2 h2 => ?_) fun s2 e _ h2 => ?_
  · refine ⟨hinv2, hfirm s2, ?_, (h2.firm (hfirm s1)).2.trans h1.1.relaxRejected⟩
    obtain ⟨file, -, rfl⟩ := h2; exact h1.2.lockConfirmed
  · exact (RecordedAsWas.firm h2 (hfirm s1)).2.trans h1.1.relaxRejected

lemma activateForUp_does {path : String} {target : AgentConfigTarget}
    (hinv : Invariant restrictive tracked s0 s) (hpath : Restrictive restrictive s path) :
    Does restrictive mayFail tracked s0
      (Split (fun s' _ => Confirmed restrictive tracked s s')
        fun s' _ => s'.relaxRejected = s.relaxRejected)
      (lockForUp pid (some path) target protocol opts) s := by
  refine (activateLockdownFromSnapshot_does hinv hpath).bind (fun s1 activation hinv1 h1 => ?_)
    fun s1 e _ h1 => Hardens.relaxRejected h1
  cases activation with
  | error e => exact ⟨hinv1, h1.1.relaxRejected⟩
  | ok result =>
    obtain ⟨hpolicy, hlocked⟩ := h1.2 result rfl
    exact ⟨hinv1, fun ht => ⟨⟨hpolicy, hlocked.configLocked⟩, hinv1.recorded ht⟩,
      hlocked.lockConfirmed, h1.1.relaxRejected⟩

lemma recordUp_calls {marker : Option TimerMarker} :
    (killTimer.bind fun _ => (clearMarkerTransition marker).bind fun _ =>
      appendAuditEntry).Calls Call.Quiet :=
  .bind killTimer_calls fun _ =>
    .bind (Calls.quiet clearMarkerTransition_calls) fun _ => Calls.quiet appendAuditEntry_calls

/-- A record that says nothing is not there while the sandbox is tracked. -/
lemma Recorded.down {file : StateFile} (h : Recorded file) (hcorrupt : file ≠ .corrupt)
    (hdown : file.state.shieldsDown ≠ some false) : file.state.shieldsDown = some true := by
  cases file with
  | absent => exact absurd rfl h.present
  | corrupt => exact absurd rfl hcorrupt
  | present state =>
  have hknown := h.known state rfl
  have hfalse : state.shieldsDown ≠ some false := hdown
  show state.shieldsDown = some true
  cases hstate : state.shieldsDown with
  | none => exact absurd hstate hknown
  | some down =>
    cases down with
    | false => exact absurd hstate hfalse
    | true => rfl

lemma lockForUp_does {target : AgentConfigTarget} (hcorrupt : s.stateFile ≠ .corrupt)
    (hdown : s.stateFile.state.shieldsDown ≠ some false)
    (hsnapshot : s.stateFile.state.shieldsDown = some true →
      (snapshotToRestore s.stateFile.state).isSome = true)
    (hinv : Invariant restrictive tracked s0 s) :
    Does restrictive mayFail tracked s0
      (Split (fun s' _ => Confirmed restrictive tracked s s')
        fun s' _ => s'.relaxRejected = s.relaxRejected)
      (lockForUp pid (snapshotToRestore s.stateFile.state) target protocol opts) s := by
  cases hrestore : snapshotToRestore s.stateFile.state with
  | some path =>
    refine activateForUp_does hinv (hinv.sound path (.inl ?_))
    unfold snapshotToRestore at hrestore
    split at hrestore
    · exact hrestore
    · cases hrestore
  | none =>
    refine lockFresh_does (fun ht => ?_) hinv
    have hsome := hsnapshot ((hinv.recorded ht).down hcorrupt hdown)
    rw [hrestore] at hsome; cases hsome

lemma raise_does (hcorrupt : s.stateFile ≠ .corrupt)
    (hdown : s.stateFile.state.shieldsDown ≠ some false) (hinv : Invariant restrictive tracked s0 s) :
    Does restrictive mayFail tracked s0 (Unrejected s) (raise pid s.stateFile.state opts) s := by
  refine (requireSnapshot_does hinv).bind (fun s1 _ hinv1 h1 => ?_)
    fun s1 e _ h1 => (Idle.still h1).relaxRejected
  obtain ⟨hidle1, hsnapshot⟩ := h1
  refine Does.since hidle1.still.relaxRejected ?_
  refine Does.passive resolveTarget_calls hinv1 fun s2 target h2 hinv2 => ?_
  refine Does.passive requireHermesShieldsProtocol_calls hinv2 fun s3 protocol h3 hinv3 => ?_
  refine Does.passive (.ask trivial) hinv3 fun s4 marker h4 hinv4 => ?_
  have hfile : s4.stateFile = s.stateFile :=
    (((hidle1.trans h2).trans h3).trans h4).still.stateFile
  rw [← hfile] at hcorrupt hdown hsnapshot ⊢
  refine (lockForUp_does hcorrupt hdown hsnapshot hinv4).bind (fun s5 lock hinv5 h5 => ?_)
    fun s5 e _ h5 => h5
  refine Does.since h5.relaxRejected ?_
  have hreal := fun _ : s5.relaxRejected = false =>
    (.inl h5.lockConfirmed : s5.lockConfirmed = true ∨ s0.stateFile.mode = .locked)
  exact Does.recordUp h5.firm (saveUp_does .upPatch hinv5 h5.firm hreal) recordUp_calls

lemma shieldsUpWithoutHostLock_does
    (hmay : tracked → ∀ reader, mayFail reader → reader.StandsAlone)
    (hinv : Invariant restrictive tracked s0 s) :
    Does restrictive mayFail tracked s0 (Unrejected s) (shieldsUpWithoutHostLock pid opts) s := by
  refine (loadShieldsState_does hinv).bind (fun s1 file hinv1 h1 => ?_) fun _ _ _ h1 => h1.elim
  obtain ⟨rfl, hread⟩ := h1
  refine .lift hinv1 (fun _ hcheck => ?_) fun e _ => rfl
  have hcorrupt : file.isCorrupt = false := by
    unfold checkNotCorrupt at hcheck
    split at hcheck
    · cases hcheck
    · next h => simpa using h
  have hfile : file = s1.stateFile := by
    cases hread with
    | inl heq => exact heq
    | inr hfailed => rw [hfailed.2.1] at hcorrupt; cases hcorrupt
  subst hfile
  refine .ite (fun hdown => ?_) fun hdown => ?_
  · cases hstate : s1.stateFile with
    | absent => rw [hstate] at hdown; cases hdown
    | corrupt => rw [hstate] at hcorrupt; cases hcorrupt
    | present state =>
      rw [hstate] at hdown; exact checkLockdown_does hmay hstate hdown hinv1
  · refine raise_does (fun h => ?_) hdown hinv1
    rw [h] at hcorrupt; cases hcorrupt

lemma handOff_does {marker : TimerMarker} (hinv : Invariant restrictive tracked s0 s)
    (hpath : Restrictive restrictive s marker.snapshotPath) :
    Does restrictive mayFail tracked s0 (Hardening restrictive s fun _ _ => True)
      (handOff pid marker) s := by
  unfold handOff
  cases marker.takeoverToken with
  | none => exact ⟨hinv, .refl, trivial⟩
  | some token =>
  refine (synchronizeAutoRestoreTransition_does hinv hpath).attempt_bind
    fun s1 handed hinv1 h1 => ?_
  cases handed with
  | ok _ => exact ⟨hinv1, h1⟩
  | error e =>
  have hhardens : Hardens restrictive s s1 := h1
  cases e with
  | durable message retain => exact ⟨hinv1, hhardens⟩
  | plain message =>
    refine (idle appendAuditEntry_calls hinv1).bind (fun s2 _ hinv2 h2 => ?_)
      fun s2 e _ h2 => hhardens.trans h2.hardens
    exact ⟨hinv2, hhardens.trans h2.hardens, trivial⟩

lemma recordRecovery_calls {marker : TimerMarker} :
    ((clearMarkerTransition (some marker)).bind fun _ => clearTimerMarker.bind fun _ =>
      appendAuditEntry).Calls Call.Quiet :=
  .bind (Calls.quiet clearMarkerTransition_calls) fun _ =>
    .bind clearTimerMarker_calls fun _ => Calls.quiet appendAuditEntry_calls

section

variable (hinv : Invariant restrictive tracked s0 s)
include hinv

lemma recordRecovery_does {marker : TimerMarker} {result : LockResult}
    (hfirm : Firm restrictive tracked s) (hlocked : s.lockConfirmed = true) :
    Does restrictive mayFail tracked s0 (Unrejected s) (recordRecovery marker result) s :=
  Does.recordUp hfirm (saveUp_does .upPatch hinv hfirm fun _ => .inl hlocked)
    recordRecovery_calls

lemma recoverFromMarker_does {marker : TimerMarker}
    (hpath : Restrictive restrictive s marker.snapshotPath) :
    Does restrictive mayFail tracked s0 (Unrejected s) (recoverFromMarker pid marker) s := by
  refine (handOff_does hinv hpath).bind (fun s1 handed hinv1 h1 => ?_)
    fun s1 e _ h1 => Hardens.relaxRejected h1
  refine Does.since h1.1.relaxRejected ?_
  refine .ite (fun _ => ⟨hinv1, rfl⟩) fun _ => ?_
  refine Does.passive resolvePersistedAutoRestoreTarget_calls hinv1 fun s2 target h2 hinv2 => ?_
  refine (activateLockdownFromSnapshot_does hinv2 ((hpath.hardens h1.1).hardens
    h2.hardens)).bind (fun s3 activation hinv3 h3 => ?_) fun s3 e _ h3 => Hardens.relaxRejected h3
  refine Does.since h3.1.relaxRejected ?_
  cases activation with
  | error e => exact Does.passive appendAuditEntry_calls hinv3 fun s4 _ _ hinv4 => ⟨hinv4, rfl⟩
  | ok result =>
  obtain ⟨hpolicy, hlocked⟩ := h3.2 result rfl
  have hfirm3 : Firm restrictive tracked s3 := fun ht =>
    ⟨⟨hpolicy, hlocked.configLocked⟩, hinv3.recorded ht⟩
  refine (recordRecovery_does hinv3 hfirm3 hlocked.lockConfirmed).bind
    (fun s4 _ hinv4 h4 => ?_) fun s4 e _ h4 => h4
  exact ⟨hinv4, h4⟩

lemma recoverExpiredAutoRestoreInline_does :
    Does restrictive mayFail tracked s0 (Unrejected s)
      (recoverExpiredAutoRestoreInline pid file) s := by
  refine .ite (fun _ => ⟨hinv, rfl⟩) fun _ => ?_
  refine (readTimerMarker_does hinv).bind (fun s1 marker hinv1 h1 => ?_) fun _ _ _ h1 => h1.elim
  obtain ⟨rfl, hmarker⟩ := h1
  cases marker with
  | none => exact ⟨hinv1, rfl⟩
  | some marker =>
  obtain ⟨-, hpath⟩ := hinv1.marker hmarker
  refine Does.passive timerStanding_calls hinv1 fun s2 standing h2 hinv2 => ?_
  cases standing with
  | pending => exact ⟨hinv2, rfl⟩
  | overdue => exact ⟨hinv2, rfl⟩
  | gone => exact recoverFromMarker_does hinv2 (hpath.hardens h2.hardens)

lemma recoverExpiredAutoRestoreGate_does :
    Does restrictive mayFail tracked s0 (Unrejected s) (recoverExpiredAutoRestoreGate pid) s := by
  refine Does.passive (.ask trivial) hinv fun s1 file _ hinv1 => ?_
  refine .ite (fun _ => ⟨hinv1, rfl⟩) fun _ => ?_
  refine (recoverExpiredAutoRestoreInline_does hinv1).bind (fun s2 restored hinv2 h2 => ?_)
    fun s2 e _ h2 => h2
  refine Does.since h2 (.ite (fun _ => ?_) fun _ => ⟨hinv2, rfl⟩)
  exact (loadShieldsState_does hinv2).mono fun s3 r _ h3 => by
    cases r with
    | ok file => exact congrArg Host.relaxRejected h3.1
    | error e => exact h3.elim

end

variable {args : TimerArgs} {token : String}

lemma markerMatchesCurrentTimer_does (hinv : Invariant restrictive tracked s0 s) :
    Does restrictive mayFail tracked s0
      (Split (fun s' current => s' = s ∧
          (current = true → Restrictive restrictive s args.snapshotPath)) fun _ _ => False)
      (args.markerMatchesCurrentTimer pid) s := by
  refine (readTimerMarker_does hinv).bind (fun s1 marker hinv1 h1 => ?_) fun _ _ _ h1 => h1.elim
  obtain ⟨rfl, hmarker⟩ := h1
  refine ⟨hinv1, rfl, fun hcurrent => ?_⟩
  cases marker with
  | none => cases hcurrent
  | some marker =>
  have hpath : marker.snapshotPath = args.snapshotPath := by
    simp [TimerArgs.markerRecordMatchesCurrentTimer] at hcurrent
    exact hcurrent.1.1.1.1.1.1.1.2
  exact hpath ▸ (hinv1.marker hmarker).2

lemma markerMatchesCurrentTimer_calls :
    (args.markerMatchesCurrentTimer pid).Calls Call.Passive := .bind (.ask trivial) fun _ => .done

lemma completeAutoRestoreTransition_calls :
    (args.completeAutoRestoreTransition pid token).Calls Call.Passive :=
  .bind (.ask trivial) fun _ => .ite
    (fun _ => .bind (.ask trivial) fun _ => .bind .done fun _ => .bind (.ask trivial) fun _ => .done)
    fun _ => .done

lemma recordAutoRestore_calls :
    ((args.completeAutoRestoreTransition pid token).bind fun completed =>
      if ¬completed then return .revoked
      else do
        args.cleanupOwnedTimerMarker
        return RestoreAttemptOutcome.complete).Calls Call.Quiet :=
  .bind (Calls.quiet completeAutoRestoreTransition_calls) fun _ => .ite (fun _ => .done) fun _ =>
    .bind (.bind (.ask trivial) fun _ => .done) fun _ => .done

lemma updateDown_does (hmay : tracked → ∀ reader, mayFail reader → reader.StandsAlone)
    (hinv : Invariant restrictive tracked s0 s) :
    Does restrictive mayFail tracked s0 (Unrejected s)
      (TimerArgs.updateState { shieldsDown := some true }) s := by
  have hnew : ∀ file, Updated mayFail s (.timer { shieldsDown := some true })
      { shieldsDown := some true } file →
      Invariant restrictive tracked s0 { s with stateFile := file } := by
    intro file hupdated
    obtain ⟨state, rfl, hdown, hnames⟩ := hupdated.state
    have htrue : state.shieldsDown = some true := by
      cases hdown with
      | inl heq => exact heq
      | inr hfailed => exact hfailed.2
    refine ⟨fun path hn => ?_, fun ht => ?_, fun _ hlocked => ?_⟩
    · cases hn with
      | inl hfile =>
        cases hnames path hfile with
        | inl hpatch => cases hpatch
        | inr hold => exact hinv.sound path (.inl hold)
      | inr hmarker => exact hinv.sound path (.inr hmarker)
    · cases hinv.window ht with
      | inl hfirm =>
        refine .inl ⟨⟨hfirm.1.policy, hfirm.1.configLocked⟩, .of_present (by simp [htrue])⟩
      | inr htracked =>
        -- a read that fails would lose the snapshot here
        obtain ⟨marker, hmarker, old, hfile, -, hpath⟩ := htracked
        refine .inr ⟨marker, hmarker, state, rfl, htrue, ?_⟩
        obtain ⟨current, updatedAt, hread, heq⟩ := hupdated
        cases heq
        cases hread with
        | inl hsame => rw [hsame, hfile]; exact hpath
        | inr hfailed =>
          have halone := hmay ht _ hfailed.2.2
          simp [Reader.StandsAlone, ShieldsPatch.standsAlone] at halone
    · obtain ⟨_, heq, hfalse⟩ := StateFile.mode_locked_iff.mp hlocked
      cases heq
      rw [htrue] at hfalse; cases hfalse
  refine (updateState_does hinv hnew).mono fun s' r _ h => ?_
  cases r with
  | ok _ => obtain ⟨file, -, rfl⟩ := h; rfl
  | error e => obtain ⟨file, -, rfl⟩ := h; rfl

lemma lockTarget_does {target : AgentConfigTarget} (hinv : Invariant restrictive tracked s0 s) :
    Does restrictive mayFail tracked s0
      (Hardening restrictive s fun s' r => ∀ lock, r = .verified lock → Locked s')
      (args.lockTarget pid target) s := by
  refine Hardening.passive markerMatchesCurrentTimer_calls hinv fun s1 current h1 hinv1 => ?_
  refine .ite (fun _ => ⟨hinv1, .refl, nofun⟩) fun _ => ?_
  refine (relock_does hinv1).bind (fun s2 relocked hinv2 h2 => ?_) fun s2 e _ h2 => h2
  cases relocked with
  | ok result => exact ⟨hinv2, h2.1, fun _ _ => h2.2 result rfl⟩
  | error e => exact ⟨hinv2, h2.1, nofun⟩

lemma lockConfig_does (hconfig : args.configPath ≠ "")
    (hinv : Invariant restrictive tracked s0 s) :
    Does restrictive mayFail tracked s0
      (Hardening restrictive s fun s' r => ∀ lock, r = .verified lock → Locked s')
      (args.lockConfig pid) s := by
  refine .ite (fun h => absurd h hconfig) fun _ => ?_
  refine Hardening.passive resolvePersistedAutoRestoreTarget_calls hinv
    fun s1 target h1 hinv1 => ?_
  cases target with
  | none => exact ⟨hinv1, .refl, nofun⟩
  | some target => exact lockTarget_does hinv1

section

variable (hmay : tracked → ∀ reader, mayFail reader → reader.StandsAlone)
include hmay

lemma record_does {relocked : TimerArgs.Relocked} (hinv : Invariant restrictive tracked s0 s)
    (hpolicy : restrictive s.policy) (hlocked : ∀ lock, relocked = .verified lock → Locked s) :
    Does restrictive mayFail tracked s0 (Unrejected s) (args.record pid token relocked) s := by
  cases relocked with
  | revoked => exact ⟨hinv, rfl⟩
  | verified lock =>
    have hl := hlocked lock rfl
    refine Does.passive markerMatchesCurrentTimer_calls hinv fun s1 current h1 hinv1 => ?_
    refine .ite (fun _ => ⟨hinv1, rfl⟩) fun _ => ?_
    have hhardens : Hardens restrictive s s1 := h1.hardens
    have hl1 := hl.hardens hhardens
    have hfirm1 : Firm restrictive tracked s1 := fun ht =>
      ⟨⟨hhardens.restrictive_policy hpolicy, hl1.configLocked⟩, hinv1.recorded ht⟩
    exact Does.recordUp hfirm1
      (updateUp_does .upPatch hinv1 hfirm1 fun _ => .inl hl1.lockConfirmed) recordAutoRestore_calls
  | unverified =>
    refine Does.passive markerMatchesCurrentTimer_calls hinv fun s1 current h1 hinv1 => ?_
    refine .ite (fun _ => ⟨hinv1, rfl⟩) fun _ => ?_
    exact (updateDown_does hmay hinv1).bind (fun s2 _ hinv2 h2 => ⟨hinv2, h2⟩) fun _ _ _ h => h

lemma relockAfterRestore_does (hconfig : args.configPath ≠ "")
    (hinv : Invariant restrictive tracked s0 s) (hpolicy : restrictive s.policy) :
    Does restrictive mayFail tracked s0 (Unrejected s) (args.relockAfterRestore pid token) s := by
  refine Does.passive markerMatchesCurrentTimer_calls hinv fun s1 current h1 hinv1 => ?_
  refine .ite (fun _ => ⟨hinv1, rfl⟩) fun _ => ?_
  refine (lockConfig_does hconfig hinv1).bind (fun s2 relocked hinv2 h2 => ?_)
    fun s2 e _ h2 => Hardens.relaxRejected h2
  obtain ⟨hhardens, hlocked⟩ := h2
  refine Does.since hhardens.relaxRejected (record_does hmay hinv2 ?_ hlocked)
  exact (h1.hardens.trans hhardens).restrictive_policy hpolicy

/-- One attempt of the timer; a configuration was given to it. -/
lemma attempt_does (hconfig : args.configPath ≠ "") (hinv : Invariant restrictive tracked s0 s) :
    Does restrictive mayFail tracked s0 (Unrejected s) (args.attempt pid token) s := by
  refine (markerMatchesCurrentTimer_does hinv).bind (fun s1 current hinv1 h1 => ?_)
    fun _ _ _ h1 => h1.elim
  obtain ⟨rfl, hpath⟩ := h1
  refine .ite (fun _ => ⟨hinv1, rfl⟩) fun hcurrent => ?_
  have hpath1 := hpath (by simpa using hcurrent)
  refine Does.passive (.ask trivial) hinv1 fun s2 present h2 hinv2 => ?_
  refine .ite (fun _ => ⟨hinv2, rfl⟩) fun _ => ?_
  refine (applyShieldsPolicySnapshot_does hinv2 (hpath1.hardens h2.hardens)).bind
    (fun s3 status hinv3 h3 => ?_) fun s3 e _ h3 => Hardens.relaxRejected h3
  refine Does.since h3.1.relaxRejected (.ite (fun _ => ⟨hinv3, rfl⟩) fun hstatus => ?_)
  exact relockAfterRestore_does hmay hconfig hinv3 (h3.2 (status_zero (not_not.mp hstatus)))

lemma restore_does (hconfig : args.configPath ≠ "") (hinv : Invariant restrictive tracked s0 s) :
    Does restrictive mayFail tracked s0 (Unrejected s) (args.restore pid) s := by
  unfold TimerArgs.restore
  split
  · exact ⟨hinv, rfl⟩
  · exact attempt_does hmay hconfig hinv

end

end Raised

end NemoClaw.Shields
