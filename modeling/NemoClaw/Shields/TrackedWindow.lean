import NemoClaw.Shields.RealLockdown

/- No untracked mutable window, as long as updates read what they change.

From a sandbox that is locked, any sequence of operations, each of them cut anywhere and
with any outcome of its calls, leads only to sandboxes that are shielded or recorded as
down, with the captured snapshot and a timer for it. What this takes is that no update of
the state file goes over a read that failed, unless the update itself says where the
shields are. An update that needs the old fields takes a file that cannot be read for an
empty one: the timer then records a failed lock without the snapshot.
-/
namespace NemoClaw.Shields

open Js CallTree

section Runs

variable (restrictive : String → Prop) (mayFail : Reader → Prop)

/-- A part of an operation, from its beginning to where it ends or its process does. -/
def OperationStep (s s' : Host) : Prop :=
  ∃ (pid : ℕ) (op : Operation), op.WithTimer ∧
    Passes (Can restrictive mayFail) s.begin (op.program pid) s'

def Leads : Host → Host → Prop := Relation.ReflTransGen (OperationStep restrictive mayFail)

/-- The shields are recorded as up, and they are; what the record or a marker names is restrictive,
or nothing. -/
structure LockedDown (s : Host) : Prop where
  mode : s.stateFile.mode = .locked
  policy : restrictive s.policy
  configLocked : s.configLocked
  sound : ∀ path, s.Names path → Restrictive restrictive s path

/-- A sandbox that is not shielded is recorded as down, with a snapshot that restores it and a
timer for that snapshot. -/
def NoUntrackedWindow (s : Host) : Prop :=
  ¬(restrictive s.policy ∧ s.configLocked) →
    ∃ marker, s.marker = some marker ∧ RecordedDown s.stateFile marker.snapshotPath ∧
      Restrictive restrictive s marker.snapshotPath

variable {restrictive mayFail} {s0 s s' : Host}

lemma LockedDown.recorded (h : LockedDown restrictive s) : Recorded s.stateFile := by
  obtain ⟨state, heq, hdown⟩ := StateFile.mode_locked_iff.mp h.mode
  exact heq ▸ .of_present (by simp [hdown])

lemma LockedDown.invariant (h : LockedDown restrictive s) :
    Invariant restrictive True s s where
  sound := h.sound
  window := fun _ => .inl ⟨⟨h.policy, h.configLocked⟩, h.recorded⟩
  real := fun _ hlocked => .inr hlocked

/-- The next operation begins with the record as it is. -/
lemma Invariant.begin (h : Invariant restrictive True s0 s) :
    Invariant restrictive True s s.begin where
  sound := h.sound
  window := fun ht => (h.window ht).imp_left fun hfirm =>
    ⟨⟨hfirm.1.policy, hfirm.1.configLocked⟩, hfirm.2⟩
  real := fun _ hlocked => .inr hlocked

lemma OperationStep.invariant (hmay : ∀ reader, mayFail reader → reader.StandsAlone)
    (h : OperationStep restrictive mayFail s s') (hinv : Invariant restrictive True s0 s) :
    Invariant restrictive True s s' := by
  obtain ⟨pid, op, htimer, hpasses⟩ := h
  have hdoes : Does restrictive mayFail True s
      (fun s' _ => s'.relaxRejected → AfterRejection op s.begin s')
      (op.program pid) s.begin :=
    program_does rfl (fun _ => hmay) (fun _ => htimer) (fun h => absurd trivial h) hinv.begin
  exact hdoes.passes hpasses

/-- The run: each operation takes over where the one before it ended or was cut. -/
lemma Leads.invariant (hmay : ∀ reader, mayFail reader → reader.StandsAlone)
    (h : Leads restrictive mayFail s0 s) (hlocked : LockedDown restrictive s0) :
    ∃ s1, Invariant restrictive True s1 s := by
  induction h with
  | refl => exact ⟨s0, hlocked.invariant⟩
  | tail _ hstep ih => obtain ⟨s1, hinv⟩ := ih; exact ⟨_, hstep.invariant hmay hinv⟩

lemma Invariant.noUntrackedWindow (h : Invariant restrictive True s0 s) :
    NoUntrackedWindow restrictive s := by
  intro hweak
  cases h.window trivial with
  | inl hfirm => exact absurd ⟨hfirm.1.policy, hfirm.1.configLocked⟩ hweak
  | inr htracked =>
    obtain ⟨marker, hmarker, hdown⟩ := htracked
    exact ⟨marker, hmarker, hdown, h.sound _ (.inr ⟨marker, hmarker, rfl⟩)⟩

/-- If no read fails in an update that needs what it reads, then in every state that a
sequence of operations leads to, a sandbox that is not shielded is tracked. -/
theorem leads_noUntrackedWindow (hlocked : LockedDown restrictive s0)
    (h : Leads restrictive Reader.StandsAlone s0 s) : NoUntrackedWindow restrictive s := by
  obtain ⟨s1, hinv⟩ := h.invariant (fun _ => id) hlocked
  exact hinv.noUntrackedWindow

end Runs

/-- A sandbox that was locked down; its policy is the only restrictive one. -/
def lockedHost : Host :=
  { freshHost with stateFile := .present { shieldsDown := some false }, configLocked := true }

lemma lockedHost_lockedDown : LockedDown (· = "restricted") lockedHost where
  mode := rfl
  policy := rfl
  configLocked := rfl
  sound := fun _ _ _ h => by cases h

lemma operationStep_of_outcome {restrictive : String → Prop} {mayFail : Reader → Prop}
    {faults : Faults} {pid : ℕ} {op : Operation} {s : Host}
    (hmay : ∀ reader, faults.unreadable reader → mayFail reader) (htimer : op.WithTimer)
    (hfresh : (op.program pid).Meets (execute faults) Host.Fresh s.begin) :
    OperationStep restrictive mayFail s (outcome faults pid op s).1 :=
  ⟨pid, op, htimer, (Ends.of_finish (execute_can hmay) hfresh).passes⟩

/-- Lowered for five minutes, and nothing goes wrong. -/
def loweredHost : Host := (outcome .none 1 (.shieldsDown fiveMinutes) lockedHost).1

lemma loweredHost_leads {mayFail : Reader → Prop} :
    Leads (· = "restricted") mayFail lockedHost loweredHost :=
  .single (operationStep_of_outcome (fun _ h => by cases h) rfl (by decide +kernel))

def fiveMinutesTimer : ConfiguredTimer where
  val :=
    { snapshotPath := "policy-snapshot-0.yaml"
      restoreAt := ⟨"1970-01-01T00:00:00.000Z", some 300000⟩
      configPath := openclawTarget.configPath
      configDir := openclawTarget.configDir
      processToken := some fiveMinutes.processToken
      allowLegacyHermesProtocol := false
      leaseOwner := none
      agentName := openclawTarget.agentName }
  property := by decide

/-- The timer can restore the policy, but not the lock, and then not read the state file. -/
def relockFailing : Faults where
  relaxRejected := false
  lockFails := true
  unreadable
    | .timer _ => true
    | .load | .save _ => false

def relockedHost : Host := (outcome relockFailing 7 (.autoRestore fiveMinutesTimer) loweredHost).1

/-- The configuration is unlocked and the snapshot is no longer on record. -/
theorem untracked_window :
    ¬∀ (restrictive : String → Prop) (s0 s : Host), LockedDown restrictive s0 →
      Leads restrictive (fun _ => True) s0 s →
      ¬(restrictive s.policy ∧ s.configLocked) → ∃ path, RecordedDown s.stateFile path := by
  intro h
  have hstep : OperationStep (· = "restricted") (fun _ => True) loweredHost relockedHost :=
    operationStep_of_outcome (fun _ _ => trivial) trivial (by decide +kernel)
  obtain ⟨path, state, hfile, -, hpath⟩ := h _ lockedHost relockedHost lockedHost_lockedDown
    (.tail loweredHost_leads hstep) (fun hshielded => absurd hshielded.2 (by decide +kernel))
  have hlost : relockedHost.stateFile.state.shieldsPolicySnapshotPath = none := by decide +kernel
  rw [hfile] at hlost
  rw [show state.shieldsPolicySnapshotPath = none from hlost] at hpath; cases hpath

/-- While it is lowered the sandbox is tracked. -/
theorem leads_noUntrackedWindow_lowered :
    loweredHost.configLocked = false ∧ NoUntrackedWindow (· = "restricted") loweredHost :=
  ⟨by decide +kernel, leads_noUntrackedWindow lockedHost_lockedDown loweredHost_leads⟩

end NemoClaw.Shields
