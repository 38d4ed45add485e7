import NemoClaw.Shields.ShieldsLowered

/- The operations on the shields of a sandbox, one after the other.

All of them run under the transition lock, so one ends, or its process does, before the
next one begins. The timer was started by a shields-down, which gives it the path of the
configuration.

What is provided:
  1. `Operation` and its program; `program_does` — what holds all along and at the end.
  2. `execute` — a host that does what it is asked, but for the faults that are given.
-/
namespace NemoClaw.Shields

open Js CallTree

/-- What a timer is started with: there is a configuration to lock. -/
abbrev ConfiguredTimer := { args : TimerArgs // args.configPath ≠ "" }

inductive Operation where
  | shieldsDown (opts : ShieldsDownOpts)
  | shieldsUp (opts : ShieldsUpOpts)
  /-- the recovery that other commands begin with -/
  | recover
  /-- an attempt of the timer -/
  | autoRestore (args : ConfiguredTimer)

namespace Operation

def recoverProgram (pid : ℕ) : Program Unit := do
  let _file ← recoverExpiredAutoRestoreGate pid
  return ()

def autoRestoreProgram (pid : ℕ) (args : TimerArgs) : Program Unit := do
  let _outcome ← args.restore pid
  return ()

def program (pid : ℕ) : Operation → Program Unit
  | shieldsDown opts => shieldsDownWithoutHostLock pid opts
  | shieldsUp opts => shieldsUpWithoutHostLock pid opts
  | recover => recoverProgram pid
  | autoRestore args => autoRestoreProgram pid args.1

def lowers : Operation → Bool
  | shieldsDown _ => true
  | shieldsUp _ | recover | autoRestore _ => false

def WithTimer : Operation → Prop
  | shieldsDown opts => opts.skipTimer = false
  | shieldsUp _ | recover | autoRestore _ => True

end Operation

section Does

variable {restrictive : String → Prop} {mayFail : Reader → Prop} {tracked : Prop}
  {s0 s s' : Host} {pid : ℕ} {op : Operation}

/-- What is known of a relaxed policy that was rejected. -/
structure AfterRejection (op : Operation) (s s' : Host) : Prop where
  lowers : op.lowers
  mode : s.stateFile.mode ≠ .temporarilyUnlocked
  recorded : s'.writeFailed ∨
    s'.stateFile.mode = .locked ∧ s'.lockConfirmed = s.lockConfirmed

lemma of_unrejected {α : Type} {r : Except Failure α} (hs : s.relaxRejected = false)
    (h : Unrejected s s' r) : s'.relaxRejected → AfterRejection op s s' := by
  intro hrejected
  rw [show s'.relaxRejected = s.relaxRejected from h, hs] at hrejected; cases hrejected

/-- Every operation keeps the invariant at every point. -/
theorem program_does (hs : s.relaxRejected = false)
    (hmay : tracked → ∀ reader, mayFail reader → reader.StandsAlone)
    (htimer : tracked → op.WithTimer) (hfree : ¬tracked → ∀ text, restrictive text)
    (hinv : Invariant restrictive tracked s0 s) :
    Does restrictive mayFail tracked s0
      (fun s' _ => s'.relaxRejected → AfterRejection op s s') (op.program pid) s := by
  cases op with
  | shieldsDown opts =>
    exact (shieldsDownWithoutHostLock_does hs htimer hfree hinv).mono
      fun s' r _ h hrejected => ⟨rfl, h.2 hrejected, h.1 hrejected⟩
  | shieldsUp opts =>
    exact (shieldsUpWithoutHostLock_does hmay hinv).mono fun _ _ _ h => of_unrejected hs h
  | recover =>
    refine (recoverExpiredAutoRestoreGate_does hinv).bind (fun s1 _ hinv1 h1 => ?_)
      fun s1 e _ h1 => of_unrejected hs h1
    exact ⟨hinv1, of_unrejected hs h1⟩
  | autoRestore args =>
    refine (restore_does hmay args.2 hinv).bind (fun s1 _ hinv1 h1 => ?_)
      fun s1 e _ h1 => of_unrejected hs h1
    exact ⟨hinv1, of_unrejected hs h1⟩

end Does

/-- What goes wrong. -/
structure Faults where
  relaxRejected : Bool
  lockFails : Bool
  unreadable : Reader → Bool

def Faults.none : Faults := ⟨false, false, fun _ => false⟩

instance (s : Host) (path : String) : Decidable (s.Names path) :=
  decidable_of_iff (s.stateFile.state.shieldsPolicySnapshotPath = some path ∨
      (s.marker.map (·.snapshotPath)) = some path) (by
    cases hmarker : s.marker with
    | none => simp [Host.Names, hmarker]
    | some marker => simp [Host.Names, hmarker])

def Host.Fresh (s : Host) : Call → Prop
  | .writeSnapshot path _ => ¬s.Names path
  | _ => True

instance (s : Host) (q : Call) : Decidable (s.Fresh q) := by
  unfold Host.Fresh
  split
  · infer_instance
  · infer_instance

/-- The configuration of the agent that the host resolves. -/
def openclawTarget : AgentConfigTarget where
  agentName := some "openclaw"
  configPath := "/sandbox/.openclaw/openclaw.json"
  configDir := "/sandbox/.openclaw"
  sensitiveFiles := []

def execute (faults : Faults) (s : Host) : (q : Call) → Host × q.Answer
  | .readStateFile reader =>
    (s, if faults.unreadable reader && s.stateFile ≠ .absent then .corrupt else s.stateFile)
  | .writeStateFile state => ({ s with stateFile := .present state }, .ok ())
  | .replaceStateFile state => ({ s with stateFile := .present state }, .ok ())
  | .removeStateFile => ({ s with stateFile := .absent }, .ok ())
  | .readTimerMarker => (s, s.marker)
  | .clearTimerMarker => ({ s with marker := none }, (none : Option String))
  | .writeTimerMarkerAtomic marker => ({ s with marker := some marker }, .ok ())
  | .cleanupOwnedTimerMarker _ => ({ s with marker := none }, .ok ())
  | .readShieldsDownTransition token => (s, s.transitions token)
  | .transitionExists token => (s, (s.transitions token).isSome)
  | .writeTransition transition =>
    ({ s with transitions :=
      Function.update s.transitions transition.processToken (some transition) }, .ok ())
  | .clearShieldsDownTransition token =>
    ({ s with transitions := Function.update s.transitions token none }, ())
  | .snapshotExists path => (s, (s.snapshots path).isSome)
  | .readSnapshot path =>
    (s, match s.snapshots path with
      | some text => .ok text
      | none => .error (.plain "ENOENT: no such file or directory"))
  | .writeSnapshot path policyYaml =>
    ({ s with snapshots := Function.update s.snapshots path (some policyYaml) }, .ok ())
  | .removeSnapshot path =>
    ({ s with snapshots := Function.update s.snapshots path none }, .ok ())
  | .getPolicy => (s, some s.policy)
  | .setPolicy .relax policy =>
    if faults.relaxRejected then ({ s with relaxRejected := true }, some (1 : ℤ))
    else ({ s with policy := policy }, some (0 : ℤ))
  | .setPolicy .restore policy => ({ s with policy := policy }, some (0 : ℤ))
  | .resolveExactManagedMcpPolicies _ => (s, .ok [])
  | .resolveProvableManagedMcpPoliciesForDeadline => (s, [])
  | .assertLegacyMcpPolicyRestoreSafe _ => (s, .ok ())
  | .buildRuntimePermissivePolicy _ _ => (s, .ok "permissive")
  | .policyFileExists _ => (s, true)
  | .buildRuntimePolicyFile policyName _ => (s, .ok policyName)
  | .buildRuntimeManagedMcpPolicy base _ _ => (s, .ok base)
  | .buildDeadlineRuntimeManagedMcpPolicy base _ _ => (s, .ok base)
  | .resolveAgentConfig => (s, .ok openclawTarget)
  | .inspectHermesShieldsProtocol _ => (s, .ok .sealedPlanV1)
  | .lockAgentConfigUnderMutationLock _ _ _ =>
    if faults.lockFails then (s, .error (.plain "Config re-lock verification failed"))
    else ({ s with configLocked := true, lockConfirmed := true }, .ok ⟨true, []⟩)
  | .unlockAgentConfigUnderMutationLock _ _ _ => ({ s with configLocked := false }, .ok ())
  | .verifyShieldsLockState _ _ _ => (s, .ok [])
  | .captureSealHashes _ => (s, .ok [])
  | .waitForHermesInferenceRouteConvergence => (s, ⟨true, 200, 1⟩)
  | .isProcessAlive _ => (s, true)
  | .verifyTimerMarkerIdentity _ => (s, none)
  | .readProcessStartIdentity _ => (s, some "1234")
  | .forkTimer _ => (s, .ok (some 7))
  | .authorizeTimer _ _ => (s, .ok true)
  | .waitForShieldsDownForwardCommit token => (s, .ok (s.transitions token))
  | .dateIn seconds => (s, (⟨"1970-01-01T00:00:00.000Z", some (seconds * 1000)⟩, seconds * 1000))
  | .appendAuditEntry => (s, .ok ())

/-- The host can do that, wherever the path of a snapshot is new. -/
lemma execute_can {restrictive : String → Prop} {mayFail : Reader → Prop} {faults : Faults}
    (hmay : ∀ reader, faults.unreadable reader → mayFail reader) (s : Host) (q : Call)
    (hfresh : s.Fresh q) :
    Can restrictive mayFail s q (execute faults s q).1 (execute faults s q).2 := by
  cases q
  case readStateFile reader =>
    refine ⟨rfl, ?_⟩
    show CanRead mayFail s reader (if faults.unreadable reader && s.stateFile ≠ .absent then
      .corrupt else s.stateFile)
    split
    · next h =>
      simp only [Bool.and_eq_true, decide_eq_true_eq] at h
      exact .inr ⟨h.2, rfl, hmay reader h.1⟩
    · exact .inl rfl
  case readSnapshot path =>
    refine ⟨rfl, fun text htext => ?_⟩
    cases hs : s.snapshots path with
    | none => simp [execute, hs] at htext
    | some found =>
      simp only [execute, hs] at htext; exact congrArg some (Except.ok.inj htext)
  case setPolicy purpose policy =>
    cases purpose with
    | restore => exact rfl
    | relax => cases hrejected : faults.relaxRejected <;> simp [execute, hrejected, Can]
  case lockAgentConfigUnderMutationLock =>
    cases hfails : faults.lockFails <;> simp [execute, hfails, Can, Split]
  case readTimerMarker => exact ⟨rfl, .inl rfl⟩
  case cleanupOwnedTimerMarker => exact .inr rfl
  case readShieldsDownTransition => exact ⟨rfl, .inl rfl⟩
  case clearShieldsDownTransition => exact .inr rfl
  case snapshotExists => exact ⟨rfl, rfl⟩
  case writeSnapshot path policyYaml => exact ⟨hfresh, rfl⟩
  case removeSnapshot => exact .inr rfl
  case getPolicy => exact ⟨rfl, fun _ h => (Option.some.inj h).symm⟩
  case buildRuntimeManagedMcpPolicy =>
    exact ⟨rfl, fun _ h hbase => Except.ok.inj h ▸ hbase⟩
  case buildDeadlineRuntimeManagedMcpPolicy =>
    exact ⟨rfl, fun _ h hbase => Except.ok.inj h ▸ hbase⟩
  all_goals exact rfl

end NemoClaw.Shields
