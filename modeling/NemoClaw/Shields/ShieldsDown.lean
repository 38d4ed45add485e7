import NemoClaw.Shields.ShieldsState

/- Lowering the shields of a sandbox.

The command captures the policy, publishes the transition, starts the timer and writes
the state file; then it sets the relaxed policy and unlocks the configuration. What
fails before the relaxed policy is set is undone, what fails after it is rolled back.

Correspondence (shields/index.ts ↔ Lean): functions keep their names. The branches of
`shieldsDownWithoutHostLock` that follow the state write are `weaken`, `applyRelaxed`,
`rejected`, `unlock`, `activate`; `startTimer` is the block of the timer. What
`parseDuration` makes of the timeout is in the options. The runtime policy file is its
text, so its removal is left out. `pid` is the process itself.
-/
namespace NemoClaw.Shields

open Js CallTree

/-! ## Restoring a policy snapshot -/

/-- `ShieldsPolicySnapshotRestoreOptions`. -/
structure RestoreOptions where
  transitionProcessToken : Option String := none
  deadlineAuthoritative : Bool := false
  expiredTimerRecovery : Bool := false

/-- There is a record of a lowering under the token. -/
def transitionExists (token : String) : Program Bool := Tree.ask (Call.transitionExists token)

/-- The record of the lowering that a restore is for. -/
def restoreTransition (snapshotPath : String) (options : RestoreOptions) :
    Program (Option ShieldsDownTransition) :=
  match options.transitionProcessToken with
  | none => return none
  | some token =>
    if ¬isTakeoverToken token then throw (.plain "Invalid Shields transition recovery token")
    else do
      let transition ← readShieldsDownTransition token
      match transition with
      | none => do
        let exists' ← transitionExists token
        if exists' then throw (.plain "Shields transition recovery authority is invalid")
        else return none
      | some found =>
        if found.snapshotPath ≠ snapshotPath then
          throw (.plain
            "Shields transition does not authorize the policy snapshot being restored")
        else return some found

/-- The warning of a marker whose process is not the timer. -/
def verifyTimerMarkerIdentity (marker : TimerMarker) : Program (Option String) :=
  Tree.ask (Call.verifyTimerMarkerIdentity marker)

/-- The date of the marker is past and its process is not the timer any more. -/
def expiredTimerIsInactive (marker : TimerMarker) : Program Bool := do
  let time ← now
  if marker.restoreAt.ms.all (time.2 < ·) then return false
  else do
    let alive ← isProcessAlive marker.pid
    if ¬alive then return true
    else do
      let warning ← verifyTimerMarkerIdentity marker
      return warning.isSome

/-- The marker is of the same snapshot and token as the restore. -/
def markerMatchesRecovery (marker : TimerMarker) (snapshotPath : String)
    (options : RestoreOptions) : Bool :=
  marker.snapshotPath = snapshotPath && marker.processToken = options.transitionProcessToken

/-- The error of a deadline restore that no marker authorizes. -/
def notAuthorized : Failure :=
  .plain "The active auto-restore timer does not authorize deadline restoration"

/-- The marker is that of the restore, by this process or by one that is gone. -/
def checkMarkerAuthority (pid : ℕ) (marker : TimerMarker) (snapshotPath : String)
    (options : RestoreOptions) (inactive : Bool) : Except Failure Unit :=
  if options.transitionProcessToken.isNone ∨
      ¬markerMatchesRecovery marker snapshotPath options ∨ (marker.pid ≠ pid ∧ ¬inactive) then
    .error notAuthorized
  else .ok ()

/-- A restore at the deadline has to be authorized by its marker. -/
def checkDeadlineAuthority (pid : ℕ) (snapshotPath : String) (options : RestoreOptions) :
    Program Unit :=
  if ¬options.deadlineAuthoritative then return ()
  else do
    let marker ← readTimerMarker
    match marker with
    | none => throw notAuthorized
    | some marker =>
      if options.expiredTimerRecovery ∧ markerMatchesRecovery marker snapshotPath options then do
        let inactive ← expiredTimerIsInactive marker
        .lift (checkMarkerAuthority pid marker snapshotPath options inactive)
      else .lift (checkMarkerAuthority pid marker snapshotPath options false)

/-- A snapshot is restored only where the record or the state names it. -/
def checkRestore (file : StateFile) (transition : Option ShieldsDownTransition)
    (snapshotPath : String) (options : RestoreOptions) : Except Failure Unit :=
  let bound := file.state.shieldsPolicySnapshotPath = some snapshotPath
  if file.isCorrupt ∧ transition.isNone then
    .error (.plain "Cannot restore a Shields policy while persisted state is corrupt")
  else if transition.isNone ∧ ¬bound then
    .error (.plain "Shields state does not match the policy snapshot being restored")
  else if bound ∧ ¬options.deadlineAuthoritative ∧
      (transition.bind (·.managedMcpPolicyKeys)).isSome ∧
      file.state.shieldsManagedMcpPolicyKeys.isSome ∧
      ¬sameManagedMcpPolicyKeys (transition.bind (·.managedMcpPolicyKeys))
        file.state.shieldsManagedMcpPolicyKeys then
    .error (.plain "Shields transition ownership does not match persisted policy ownership")
  else .ok ()

/-- The managed entries that the snapshot had, as far as they are recorded. -/
def snapshotManagedPolicyKeys (file : StateFile) (transition : Option ShieldsDownTransition)
    (snapshotPath : String) : Option (List String) :=
  (transition.bind (·.managedMcpPolicyKeys)).or
    (if file.state.shieldsPolicySnapshotPath = some snapshotPath then
      file.state.shieldsManagedMcpPolicyKeys else none)

/-- The text of a policy snapshot. -/
def readSnapshot (path : String) : Program String := do
  let answer ← Tree.ask (Call.readSnapshot path)
  .lift answer

/-- The gateway is given a policy; the answer is the exit status. -/
def setPolicy (purpose : Purpose) (policy : String) : Program (Option ℤ) :=
  Tree.ask (Call.setPolicy purpose policy)

/-- Without recorded keys a snapshot is restored only where nothing managed is involved. -/
def assertLegacyMcpPolicyRestoreSafe (policyYaml : String) : Program Unit := do
  let answer ← Tree.ask (Call.assertLegacyMcpPolicyRestoreSafe policyYaml)
  .lift answer

/-- The managed entries that are to hold now. -/
def resolveExactManagedMcpPolicies (livePolicyYaml : Option String) :
    Program (List ManagedMcpPolicy) := do
  let answer ← Tree.ask (Call.resolveExactManagedMcpPolicies livePolicyYaml)
  .lift answer

/-- Those that can be proved at a deadline. -/
def resolveProvableManagedMcpPoliciesForDeadline : Program (List ManagedMcpPolicy) :=
  Tree.ask Call.resolveProvableManagedMcpPoliciesForDeadline

/-- The policy with the managed entries in place of the snapshot's. -/
def buildRuntimeManagedMcpPolicy (base : String) (policies : List ManagedMcpPolicy)
    (snapshotKeys : List String) : Program String := do
  let answer ← Tree.ask (Call.buildRuntimeManagedMcpPolicy base policies snapshotKeys)
  .lift answer

/-- The policy of a restore at the deadline. -/
def buildDeadlineRuntimeManagedMcpPolicy (base : String) (policies : List ManagedMcpPolicy)
    (snapshotKeys : List String) : Program String := do
  let answer ← Tree.ask (Call.buildDeadlineRuntimeManagedMcpPolicy base policies snapshotKeys)
  .lift answer

/-- The text that is set: the snapshot, with the managed entries as they are now. -/
def runtimePolicy (snapshotPath : String) (keys : Option (List String)) (deadline : Bool) :
    Program String :=
  if deadline then do
    let policies ← resolveProvableManagedMcpPoliciesForDeadline
    let base ← readSnapshot snapshotPath
    buildDeadlineRuntimeManagedMcpPolicy base policies (keys.getD [])
  else match keys with
    | some keys => do
      let policies ← resolveExactManagedMcpPolicies none
      let base ← readSnapshot snapshotPath
      buildRuntimeManagedMcpPolicy base policies keys
    | none => do
      -- no manifest of the managed entries: the snapshot as it is
      let base ← readSnapshot snapshotPath
      assertLegacyMcpPolicyRestoreSafe base
      return base

/-- The policy of a snapshot is put back. -/
def applyShieldsPolicySnapshot (pid : ℕ) (snapshotPath : String) (options : RestoreOptions) :
    Program (Option ℤ) := do
  let file ← loadShieldsState
  let transition ← restoreTransition snapshotPath options
  checkDeadlineAuthority pid snapshotPath options
  Tree.lift (checkRestore file transition snapshotPath options)
  let policy ← runtimePolicy snapshotPath
    (snapshotManagedPolicyKeys file transition snapshotPath) options.deadlineAuthoritative
  setPolicy .restore policy

/-- The lowering, after it has committed, lost its owner or run out of time. -/
def waitForShieldsDownForwardCommit (token : String) :
    Program (Option ShieldsDownTransition) := do
  let answer ← Tree.ask (Call.waitForShieldsDownForwardCommit token)
  .lift answer

/-- The policy was set. -/
def checkHandoffStatus (status : Option ℤ) : Except Failure Unit :=
  if status.getD 1 ≠ 0 then
    .error (.plain ("Policy restore after shields-down handoff exited with status " ++
      toString (status.getD 1)))
  else .ok ()

/-- The policy is put back once more, after the lowering has come to a stop. -/
def restoreAfterHandoff (pid : ℕ) (token : String) (transition : ShieldsDownTransition)
    (expiredTimerRecovery retainTransition : Bool) : Program Unit := do
  let marker ← readTimerMarker
  let timerOwnsRecovery := marker.any fun marker => marker.pid = pid &&
    marker.processToken = some token && marker.snapshotPath = transition.snapshotPath
  let status ← applyShieldsPolicySnapshot pid transition.snapshotPath
    { transitionProcessToken := some token
      deadlineAuthoritative := timerOwnsRecovery || expiredTimerRecovery
      expiredTimerRecovery }
  Tree.lift (checkHandoffStatus status)
  if retainTransition then return () else clearShieldsDownTransition token

/-- A lock at the deadline first sees to a lowering under way. -/
def synchronizeAutoRestoreTransition (pid : ℕ) (token snapshotPath : String)
    (expiredTimerRecovery retainTransition : Bool) : Program Unit := do
  let transition ← waitForShieldsDownForwardCommit token
  match transition with
  | none => return ()
  | some transition =>
    if transition.snapshotPath ≠ snapshotPath then
      throw (.plain
        "Auto-restore snapshot does not match shields-down transition ownership")
    else restoreAfterHandoff pid token transition expiredTimerRecovery retainTransition

/-- Only the timer itself waits for a transition. -/
def synchronizeAutoRestoreWithShieldsDown (pid : ℕ) : Program Unit := do
  let marker ← readTimerMarker
  match marker with
  | none => return ()
  | some marker =>
    match marker.takeoverToken with
    | none => return ()
    | some token =>
      if marker.pid ≠ pid then return ()
      else synchronizeAutoRestoreTransition pid token marker.snapshotPath false true

/-- The config is locked, or it fails. -/
def lockUnderMutationLock (target : AgentConfigTarget) (rollbackLocked : Bool)
    (protocol : HermesShieldsProtocol) : Program LockResult := do
  let answer ← Tree.ask (Call.lockAgentConfigUnderMutationLock target rollbackLocked protocol)
  .lift answer

/-- The config is locked, after a lowering under way is seen to. -/
def lockAgentConfig (pid : ℕ) (rawTarget : AgentConfigTarget) (rollbackLocked : Bool)
    (allowLegacyHermesProtocol : Bool) (cachedProtocol : Option HermesShieldsProtocol) :
    Program LockResult := do
  let target := ensureConfigHashSensitiveFile rawTarget
  let protocol ← resolveHermesShieldsProtocol target allowLegacyHermesProtocol cachedProtocol
  synchronizeAutoRestoreWithShieldsDown pid
  lockUnderMutationLock target rollbackLocked protocol

/-- The config is unlocked, or it fails. -/
def unlockUnderMutationLock (target : AgentConfigTarget) (rollbackLocked : Bool)
    (protocol : HermesShieldsProtocol) : Program Unit := do
  let answer ← Tree.ask (Call.unlockAgentConfigUnderMutationLock target rollbackLocked protocol)
  .lift answer

/-- The config is unlocked by the protocol of the sandbox. -/
def unlockAgentConfig (rawTarget : AgentConfigTarget) (rollbackLocked : Bool)
    (allowLegacyHermesProtocol : Bool) (cachedProtocol : Option HermesShieldsProtocol) :
    Program Unit := do
  let target := ensureConfigHashSensitiveFile rawTarget
  let protocol ← resolveHermesShieldsProtocol target allowLegacyHermesProtocol cachedProtocol
  unlockUnderMutationLock target rollbackLocked protocol

/-! ## Lowering -/

/-- The options of the command. -/
structure ShieldsDownOpts where
  /-- what `parseDuration` makes of the timeout, in seconds -/
  timeout : Except Failure ℕ
  reason : Option String
  policy : Option String
  skipTimer : Bool
  allowLegacyHermesProtocol : Bool
  deferAutoRestoreWhileOwnerAlive : Bool
  processToken : String

/-- What the command knows when it is about to change something. -/
structure Descent where
  pid : ℕ
  opts : ShieldsDownOpts
  initial : StateFile
  target : AgentConfigTarget
  protocol : HermesShieldsProtocol
  timeoutSeconds : ℕ
  snapshotPath : String
  managedMcpPolicyKeys : List String
  policyName : String
  policy : String

/-- What a failed lowering leaves. -/
inductive RollbackOutcome where
  | mutableDefaultRestored
  | lockdownRestored
  | manualInterventionRequired
  deriving DecidableEq

namespace Descent

variable (d : Descent)

/-- The mode from which the shields are lowered. -/
def initialMode : ShieldsMode := d.initial.mode

/-- `lockAgentConfig` in a rollback. -/
def lockBack : Program LockResult :=
  lockAgentConfig d.pid d.target true d.opts.allowLegacyHermesProtocol (some d.protocol)

/-- The way back for a configuration that was never locked. -/
def restoreMutableDefault : Program Unit := do
  unlockAgentConfig d.target false d.opts.allowLegacyHermesProtocol (some d.protocol)
  let cancellation ← killTimer
  if ¬cancellation.authorityRevoked then
    throw (.plain ("Cannot revoke auto-restore timer authority: " ++
      "; ".intercalate cancellation.warnings))
  else restoreShieldsStateSnapshot d.initial

/-- The way back to the lock. -/
def restoreLockdown : Program RollbackOutcome := do
  let relocked ← relock d.lockBack
  match relocked with
  | .error _ => return .manualInterventionRequired
  | .ok result => do
    saveShieldsState (upPatch (some result))
    return .lockdownRestored

/-- The policy is restored; a default posture is tried before the lock. -/
def rollbackConfig : Program RollbackOutcome :=
  if d.initialMode = .mutableDefault ∧ d.target.agentName = some "openclaw" then do
    let restored ← d.restoreMutableDefault.attempt
    match restored with
    | .ok _ => return .mutableDefaultRestored
    | .error _ => d.restoreLockdown
  else d.restoreLockdown

/-- The policy and then the config are put back. -/
def rollbackShieldsDown : Program RollbackOutcome := do
  let result ← (applyShieldsPolicySnapshot d.pid d.snapshotPath {}).attempt
  match result with
  | .ok (some 0) => d.rollbackConfig
  | _ => return .manualInterventionRequired

/-- The patch that a lowering saves. -/
def downPatch (at' : String) : ShieldsPatch where
  shieldsDown := some true
  shieldsDownAt := some (some at')
  shieldsDownTimeout := some (some d.timeoutSeconds)
  shieldsDownReason := some d.opts.reason
  shieldsDownPolicy := some (some d.policyName)
  shieldsPolicySnapshotPath := some (some d.snapshotPath)
  shieldsManagedMcpPolicyKeys := some d.managedMcpPolicyKeys

/-- What takes the record back when the relaxed policy was rejected. -/
def rejectedPatch : ShieldsPatch :=
  { upPatch none with shieldsPolicySnapshotPath := some none }

/-- The record says that the policy was refused. -/
def markRejected (transition : Option ShieldsDownTransition) : Program Unit :=
  match transition with
  | none => return ()
  | some transition => do
    let _marked ← (writeShieldsDownTransition { transition with phase := .policyRejected }
      (some .preparing)).attempt
    return ()

/-- The error of a policy that could not be set. -/
def couldNotApply : Failure := .plain ("Could not apply " ++ d.policyName ++ " policy")

/-- The policy was refused: the state goes back, and the timer with it. -/
def rejected (transition : Option ShieldsDownTransition) : Program Unit := do
  let cleared ← (saveShieldsState rejectedPatch).attempt
  match cleared with
  | .error _ => do
    markRejected transition
    throw d.couldNotApply
  | .ok _ => do
    clearTransition transition
    let _cancelled ← killTimer
    throw d.couldNotApply

/-- The host waits until the inference route works again. -/
def waitForConvergence : Program Convergence :=
  Tree.ask Call.waitForHermesInferenceRouteConvergence

/-- It works again. -/
def checkConvergence (convergence : Convergence) : Except Failure Unit :=
  if convergence.ok then .ok ()
  else .error (.plain ("Hermes inference route did not converge after policy transition (" ++
    (if 0 < convergence.httpStatus then "HTTP " ++ toString convergence.httpStatus
      else "unavailable") ++ "; " ++ toString convergence.attempts ++ " attempts)"))

/-- The config is unlocked, and a Hermes agent's route waited for. -/
def unlockConfig : Program Unit := do
  unlockAgentConfig d.target (d.initialMode = .locked) d.opts.allowLegacyHermesProtocol
    (some d.protocol)
  if d.target.agentName = some "hermes" then do
    let convergence ← waitForConvergence
    .lift (checkConvergence convergence)
  else return ()

/-- The transition becomes active; from here on the timer may take over. -/
def activate (transition : Option ShieldsDownTransition) : Program Unit :=
  match transition with
  | none => appendAuditEntry
  | some transition => do
    let activated ← (writeShieldsDownTransition { transition with phase := .active }
      (some .preparing)).attempt
    match activated with
    | .ok _ => appendAuditEntry
    | .error error => do
      let _outcome ← d.rollbackShieldsDown
      clearShieldsDownTransition transition.processToken
      throw error

/-- The config is unlocked, or everything is rolled back. -/
def unlock (transition : Option ShieldsDownTransition) : Program Unit := do
  let unlocked ← d.unlockConfig.attempt
  match unlocked with
  | .ok _ => d.activate transition
  | .error error => do
    let _outcome ← d.rollbackShieldsDown
    clearTransition transition
    throw error

/-- The relaxed policy is set, and then the config unlocked. -/
def applyRelaxed (transition : Option ShieldsDownTransition) : Program Unit := do
  let status ← setPolicy .relax d.policy
  if status ≠ some 0 then d.rejected transition else d.unlock transition

/-- The authority to recover goes, if there is one. -/
def withdraw (transition : Option ShieldsDownTransition) : Program Unit :=
  match transition with
  | none => return ()
  | some transition => do
    clearShieldsDownTransition transition.processToken
    let _cancelled ← killTimer
    return ()

/-- The record first, then the policy and the configuration. -/
def weaken (at' : String) (transition : Option ShieldsDownTransition) : Program Unit := do
  let saved ← (saveShieldsState (d.downPatch at')).attempt
  match saved with
  | .ok _ => d.applyRelaxed transition
  | .error error => do
    withdraw transition
    throw error

/-- What the timer of this lowering is started with. -/
def timerArgs (restoreAt : Date) (transition : ShieldsDownTransition) : TimerArgs where
  snapshotPath := d.snapshotPath
  restoreAt := restoreAt
  configPath := d.target.configPath
  configDir := d.target.configDir
  processToken := some d.opts.processToken
  allowLegacyHermesProtocol := d.opts.allowLegacyHermesProtocol
  leaseOwner := if d.opts.deferAutoRestoreWhileOwnerAlive then
    some (transition.ownerPid, transition.ownerStartIdentity) else none
  agentName := d.target.agentName

/-- The marker of a timer. -/
def timerMarker (args : TimerArgs) (timerPid : ℕ) : TimerMarker where
  pid := timerPid
  snapshotPath := args.snapshotPath
  restoreAt := args.restoreAt
  processToken := args.processToken
  allowLegacyHermesProtocol := some args.allowLegacyHermesProtocol
  agentName := args.agentName
  configPath := some args.configPath
  configDir := some args.configDir
  leaseOwner := args.leaseOwner

/-- The timer is started; the answer is its pid. -/
def forkTimer (args : TimerArgs) : Program (Option ℕ) := do
  let answer ← Tree.ask (Call.forkTimer args)
  .lift answer

/-- The timer is told to go on. -/
def authorizeTimer (timerPid : ℕ) (token : String) : Program Bool := do
  let answer ← Tree.ask (Call.authorizeTimer timerPid token)
  .lift answer

/-- The marker is there before the timer is allowed to act. -/
def publishTimer (args : TimerArgs) (timerPid : ℕ) : Program Unit := do
  writeTimerMarkerAtomic (timerMarker args timerPid)
  let authorized ← authorizeTimer timerPid d.opts.processToken
  if ¬authorized then
    throw (.plain "auto-restore timer authorization channel closed early")
  else return ()

/-- The record is written, and a timer started for it. -/
def launchTimer (restoreAt : Date) (transition : ShieldsDownTransition) : Program Unit := do
  writeShieldsDownTransition transition none
  let timerPid ← forkTimer (d.timerArgs restoreAt transition)
  match timerPid with
  | none => throw (.plain "auto-restore timer did not report a process id")
  | some timerPid => d.publishTimer (d.timerArgs restoreAt transition) timerPid

/-- How this process is told from a later one with its pid. -/
def readOwnStartIdentity : Program (Option String) :=
  Tree.ask (Call.readProcessStartIdentity d.pid)

/-- The record of a lowering that begins. -/
def newTransition (ownerStartIdentity : String) : ShieldsDownTransition where
  phase := .preparing
  ownerPid := d.pid
  ownerStartIdentity := ownerStartIdentity
  processToken := d.opts.processToken
  snapshotPath := d.snapshotPath
  managedMcpPolicyKeys := some d.managedMcpPolicyKeys

/-- A timer that does not start takes its marker and the transition with it. -/
def launchOrClear (restoreAt : Date) (transition : ShieldsDownTransition) :
    Program ShieldsDownTransition := do
  let launched ← (d.launchTimer restoreAt transition).attempt
  match launched with
  | .ok _ => return transition
  | .error error => do
    let _cleared ← clearTimerMarker
    clearShieldsDownTransition transition.processToken
    throw (.plain ("Cannot start auto-restore timer: " ++ error.message))

/-- A timer is started, unless the options ask for none. -/
def startTimer : Program (Option ShieldsDownTransition) :=
  if d.opts.skipTimer then return none
  else do
    let restoreAt ← dateIn d.timeoutSeconds
    if ¬isTakeoverToken d.opts.processToken then
      throw (.plain "Invalid shields-down recovery process token")
    else do
      let identity ← d.readOwnStartIdentity
      match identity with
      | none => throw (.plain "Cannot identify shields-down owner process")
      | some identity => do
        let transition ← d.launchOrClear restoreAt.1 (d.newTransition identity)
        return some transition

/-- The timer is started before anything is weakened. -/
def commit : Program Unit := do
  let at' ← now
  let transition ← d.startTimer
  d.weaken at'.1.iso transition

end Descent

/-- The shields are not down already. -/
def checkNotDown (file : StateFile) : Except Failure Unit :=
  if file.isCorrupt then .error (.plain "Shields state is corrupt")
  else if file.state.shieldsDown = some true then .error (.plain "Config is already unlocked")
  else .ok ()

/-- No older timer can act any more. -/
def checkRevoked (cancellation : KillTimerResult) : Except Failure Unit :=
  if cancellation.authorityRevoked then .ok ()
  else .error (.plain "Cannot revoke stale auto-restore timer authority")

/-- The policy that the gateway has now. -/
def getPolicy : Program (Option String) := Tree.ask Call.getPolicy

/-- That policy, or the command fails. -/
def capturePolicy : Program String := do
  let policyYaml ← getPolicy
  match policyYaml with
  | none => throw (.plain "Cannot capture current policy")
  | some policyYaml => return policyYaml

/-- The permissive policy, with what the live one and the managed entries need. -/
def buildRuntimePermissivePolicy (livePolicyYaml : String) (policies : List ManagedMcpPolicy) :
    Program String := do
  let answer ← Tree.ask (Call.buildRuntimePermissivePolicy livePolicyYaml policies)
  .lift answer

/-- There is a file of the policy. -/
def policyFileExists (policyName : String) : Program Bool :=
  Tree.ask (Call.policyFileExists policyName)

/-- The policy of a file with the managed entries. -/
def buildRuntimePolicyFile (policyName : String) (policies : List ManagedMcpPolicy) :
    Program String := do
  let answer ← Tree.ask (Call.buildRuntimePolicyFile policyName policies)
  .lift answer

/-- The snapshot is written, or it fails. -/
def writeSnapshot (path policyYaml : String) : Program Unit := do
  let answer ← Tree.ask (Call.writeSnapshot path policyYaml)
  .lift answer

/-- The snapshot is removed, or it fails. -/
def removeSnapshot (path : String) : Program Unit := do
  let answer ← Tree.ask (Call.removeSnapshot path)
  .lift answer

/-- The policy that the shields are lowered to. -/
def relaxedPolicy (snapshotPath policyName policyYaml : String)
    (policies : List ManagedMcpPolicy) : Program String :=
  if policyName = "permissive" then buildRuntimePermissivePolicy policyYaml policies
  else do
    let found ← policyFileExists policyName
    if ¬found then do
      removeSnapshot snapshotPath
      throw (.plain ("Unknown policy \"" ++ policyName ++ "\""))
    else buildRuntimePolicyFile policyName policies

/-- That policy; where there is none the snapshot is removed. -/
def relaxedPolicyOrDiscard (snapshotPath policyName policyYaml : String)
    (policies : List ManagedMcpPolicy) : Program String := do
  let composed ← (relaxedPolicy snapshotPath policyName policyYaml policies).attempt
  match composed with
  | .ok policy => return policy
  | .error error => do
    removeSnapshot snapshotPath
    throw (.plain ("Cannot compose Shields-down policy: " ++ error.message))

/-- `policy-snapshot-<ms>.yaml` in the state directory. -/
def snapshotPathAt (ms : ℕ) : String := "policy-snapshot-" ++ toString ms ++ ".yaml"

/-- The policy, captured and saved, and the one that is to take its place. -/
def prepareDescent (pid : ℕ) (opts : ShieldsDownOpts) (file : StateFile)
    (target : AgentConfigTarget) (protocol : HermesShieldsProtocol) : Program Descent := do
  let timeoutSeconds ← Tree.lift opts.timeout
  let policyYaml ← capturePolicy
  let policies ← labelled "Cannot preserve managed MCP policy state: "
    (resolveExactManagedMcpPolicies (some policyYaml))
  let time ← now
  writeSnapshot (snapshotPathAt time.2) policyYaml
  let policy ← relaxedPolicyOrDiscard (snapshotPathAt time.2) (opts.policy.getD "permissive")
    policyYaml policies
  return {
    pid, opts, target, protocol, timeoutSeconds, policy
    initial := file
    snapshotPath := snapshotPathAt time.2
    managedMcpPolicyKeys := policies.map (·.key)
    policyName := opts.policy.getD "permissive" }

/-- The command, with the host's lock held. -/
def shieldsDownWithoutHostLock (pid : ℕ) (opts : ShieldsDownOpts) : Program Unit := do
  let file ← loadShieldsState
  Tree.lift (checkNotDown file)
  let target ← resolveTarget
  let protocol ← requireHermesShieldsProtocol target opts.allowLegacyHermesProtocol
  let cancellation ← killTimer
  Tree.lift (checkRevoked cancellation)
  let descent ← prepareDescent pid opts file target protocol
  descent.commit

end NemoClaw.Shields
