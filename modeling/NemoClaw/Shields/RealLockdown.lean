import NemoClaw.Shields.ShieldsOperations

/- A recorded lockdown is a real one, but for one branch.

Wherever an operation ends with a state file that says locked, a lock has succeeded in it
or the state file said so before. The branch that misses this is the rejection of the
relaxed policy: it takes the configuration to be still locked and records shields that are
up, also for a sandbox that was never locked. That is the exact condition: with it the
record is wrong whatever else happens, unless the state file could not be written.

The gateway, the sandbox and the files may do anything that `Can` allows here; policies
need not be restrictive.
-/
namespace NemoClaw.Shields

open Js CallTree

abbrev CanAny : Host → (q : Call) → Host → q.Answer → Prop := Can (fun _ => True) fun _ => True

/-- If the state file derives locked then a lock has succeeded, or it did so before. -/
def RealLockdown (s0 s : Host) : Prop :=
  s.stateFile.mode = .locked → s.lockConfirmed ∨ s0.stateFile.mode = .locked

/-- A shields-down whose relaxed policy was rejected leaves the derived mode. -/
def RejectionUndone (op : Operation) (s0 s : Host) : Prop :=
  op.lowers → s.relaxRejected → s.stateFile.mode = s0.stateFile.mode

/-- A shields-down from a sandbox that was never locked, whose relaxed policy is rejected. -/
structure RejectedUnlocked (op : Operation) (s0 s : Host) : Prop where
  lowers : op.lowers
  mode : s0.stateFile.mode = .mutableDefault
  rejected : s.relaxRejected

section Real

variable {pid : ℕ} {op : Operation} {s0 s : Host} {r : Except Failure Unit}

lemma begin_invariant : Invariant (fun _ => True) False s0 s0.begin where
  sound := fun _ _ _ _ => trivial
  window := False.elim
  real := fun _ hlocked => .inr hlocked

lemma program_ends (h : Ends CanAny s0.begin (op.program pid) s r) :
    Real s0 s ∧ (s.relaxRejected → AfterRejection op s0.begin s) := by
  have hdoes : Does (fun _ => True) (fun _ => True) False s0
      (fun s _ => s.relaxRejected → AfterRejection op s0.begin s)
      (op.program pid) s0.begin :=
    program_does rfl False.elim False.elim (fun _ _ => trivial) begin_invariant
  exact ⟨(hdoes.passes h.passes).real, hdoes.ends h⟩

lemma AfterRejection.mode_locked (h : AfterRejection op s0.begin s)
    (hmode : s0.stateFile.mode ≠ .mutableDefault) : s0.stateFile.mode = .locked := by
  have hne : s0.stateFile.mode ≠ .temporarilyUnlocked := h.mode
  cases heq : s0.stateFile.mode with
  | mutableDefault => exact absurd heq hmode
  | locked => rfl
  | temporarilyUnlocked => exact absurd heq hne

/-- A rejection in a sandbox that was never locked records a lockdown that never happened. -/
lemma AfterRejection.not_real (h : AfterRejection op s0.begin s)
    (hmode : s0.stateFile.mode = .mutableDefault) (hwrites : s.writeFailed = false) :
    ¬RealLockdown s0 s := by
  intro hreal
  cases h.recorded with
  | inl hfailed => rw [hwrites] at hfailed; cases hfailed
  | inr hlocked =>
    have hnot : s.lockConfirmed = false := hlocked.2
    cases hreal hlocked.1 with
    | inl hconfirmed => rw [hnot] at hconfirmed; cases hconfirmed
    | inr hbefore => rw [hmode] at hbefore; cases hbefore

lemma real_of_not_rejectedUnlocked (h : Ends CanAny s0.begin (op.program pid) s r)
    (hnot : ¬RejectedUnlocked op s0 s) : RealLockdown s0 s := by
  obtain ⟨hreal, hafter⟩ := program_ends h
  intro hlocked
  cases hrejected : s.relaxRejected with
  | false => exact hreal hrejected hlocked
  | true =>
    have hrej := hafter hrejected
    refine .inr (hrej.mode_locked fun hmode => ?_)
    exact hnot ⟨hrej.lowers, hmode, hrejected⟩

lemma undone_of_not_rejectedUnlocked (h : Ends CanAny s0.begin (op.program pid) s r)
    (hwrites : s.writeFailed = false) (hnot : ¬RejectedUnlocked op s0 s) :
    RejectionUndone op s0 s := by
  intro hlowers hrejected
  have hrej := (program_ends h).2 hrejected
  have hmode := hrej.mode_locked fun hmode => hnot ⟨hlowers, hmode, hrejected⟩
  cases hrej.recorded with
  | inl hfailed => rw [hwrites] at hfailed; cases hfailed
  | inr hlocked => rw [hlocked.1, hmode]

/-- Whatever the outcomes are: unless a relaxed policy is rejected in a sandbox that was never
locked, a recorded lockdown is a real one. Where the state file could be written, the
lockdown is real and a rejection leaves the derived mode exactly under that condition. -/
theorem recordedLockdown_iff (h : Ends CanAny s0.begin (op.program pid) s r) :
    (¬RejectedUnlocked op s0 s → RealLockdown s0 s) ∧
      (s.writeFailed = false →
        (RealLockdown s0 s ∧ RejectionUndone op s0 s ↔ ¬RejectedUnlocked op s0 s)) := by
  refine ⟨real_of_not_rejectedUnlocked h, fun hwrites => ⟨fun hboth hfresh => ?_, fun hnot => ?_⟩⟩
  · exact ((program_ends h).2 hfresh.rejected).not_real hfresh.mode hwrites hboth.1
  · exact ⟨real_of_not_rejectedUnlocked h hnot, undone_of_not_rejectedUnlocked h hwrites hnot⟩

end Real

/-- Nothing was done with the shields of the sandbox yet. -/
def freshHost : Host where
  stateFile := .absent
  marker := none
  transitions := fun _ => none
  snapshots := fun _ => none
  policy := "restricted"
  configLocked := false
  lockConfirmed := false
  relaxRejected := false
  writeFailed := false

/-- `shields down` for five minutes. -/
def fiveMinutes : ShieldsDownOpts where
  timeout := .ok 300
  reason := none
  policy := none
  skipTimer := false
  allowLegacyHermesProtocol := false
  deferAutoRestoreWhileOwnerAlive := false
  processToken := "0123456789abcdef0123456789abcdef"

def plainUp : ShieldsUpOpts := ⟨false, false⟩

def outcome (faults : Faults) (pid : ℕ) (op : Operation) (s : Host) : Host × Except Failure Unit :=
  (op.program pid).finish (execute faults) s.begin

lemma outcome_ends {faults : Faults} {pid : ℕ} {op : Operation} {s : Host}
    (hfresh : (op.program pid).Meets (execute faults) Host.Fresh s.begin) :
    Ends CanAny s.begin (op.program pid) (outcome faults pid op s).1
      (outcome faults pid op s).2 :=
  .of_finish (execute_can fun _ _ => trivial) hfresh

def rejecting : Faults := { Faults.none with relaxRejected := true }

/-- The gateway rejects the relaxed policy of a sandbox whose configuration was never locked:
the state file says locked, and it said nothing before. -/
theorem recordedLockdown_rejected :
    ¬∀ (pid : ℕ) (op : Operation) (s0 s : Host) (r : Except Failure Unit),
      Ends CanAny s0.begin (op.program pid) s r →
        RealLockdown s0 s ∧ (s.writeFailed = false → RejectionUndone op s0 s) := by
  intro h
  have hends : Ends CanAny freshHost.begin ((Operation.shieldsDown fiveMinutes).program 1)
      (outcome rejecting 1 (.shieldsDown fiveMinutes) freshHost).1
      (outcome rejecting 1 (.shieldsDown fiveMinutes) freshHost).2 :=
    outcome_ends (by decide +kernel)
  obtain ⟨hreal, -⟩ := h 1 (.shieldsDown fiveMinutes) freshHost _ _ hends
  have hlocked : (outcome rejecting 1 (.shieldsDown fiveMinutes) freshHost).1.stateFile.mode =
      .locked := by decide +kernel
  cases hreal hlocked with
  | inl hconfirmed => exact absurd hconfirmed (by decide +kernel)
  | inr hbefore => exact absurd hbefore (by decide +kernel)

/-- `shields up` for the same sandbox locks it and says so. -/
theorem recordedLockdown_iff_fresh :
    (outcome .none 1 (.shieldsUp plainUp) freshHost).1.stateFile.mode = .locked ∧
      RealLockdown freshHost (outcome .none 1 (.shieldsUp plainUp) freshHost).1 := by
  refine ⟨by decide +kernel, ?_⟩
  refine (recordedLockdown_iff (outcome_ends (by decide +kernel))).1 fun h => ?_
  cases h.lowers

end NemoClaw.Shields
