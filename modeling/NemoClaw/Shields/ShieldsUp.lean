import NemoClaw.Shields.ShieldsDown

/- Raising the shields of a sandbox.

By hand, or by a command that finds the timer's date past and the timer gone; the timer
itself comes last. Each of them restores the policy of the snapshot, locks the
configuration, and writes the state file only when the lock has held.

Correspondence (shields/index.ts, shields/timer.ts ↔ Lean): functions keep their names.
The two branches of `shieldsUpWithoutHostLock` are `checkLockdown` and `raise`; `attempt`
is the callback of `restoreUnderDeadlineFence`. A lockdown without a complete seal is
accepted if the environment says so, which is in the options. What the timer audits is
left out: it does not fail.
-/
namespace NemoClaw.Shields

open Js CallTree

/-- There is a file of the snapshot. -/
def snapshotExists (path : String) : Program Bool := Tree.ask (Call.snapshotExists path)

/-- `snapshotPath && fs.existsSync(snapshotPath)`. -/
def snapshotPresent (path : String) : Program Bool :=
  if path = "" then return false else snapshotExists path

/-- The target at hand, or else that of the sandbox. -/
def cachedOrResolved (cachedTarget : Option AgentConfigTarget) : Program AgentConfigTarget :=
  match cachedTarget with
  | some target => return target
  | none => resolveAgentConfig

/-- `activateLockdownFromSnapshot`, after the policy was restored. -/
def activateLock (pid : ℕ) (allowLegacyHermesProtocol : Bool)
    (cachedTarget : Option AgentConfigTarget) (cachedProtocol : Option HermesShieldsProtocol) :
    Program (Except Failure LockResult) := do
  let rawTarget ← cachedOrResolved cachedTarget
  let target := ensureConfigHashSensitiveFile rawTarget
  let protocol ←
    (resolveHermesShieldsProtocol target allowLegacyHermesProtocol cachedProtocol).attempt
  match protocol with
  | .error error => return .error error
  | .ok protocol =>
    relock (lockAgentConfig pid target false allowLegacyHermesProtocol (some protocol))

/-- The policy of the snapshot is put back and the config locked. -/
def activateLockdownFromSnapshot (pid : ℕ) (snapshotPath : String)
    (allowLegacyHermesProtocol : Bool) (cachedTarget : Option AgentConfigTarget)
    (cachedProtocol : Option HermesShieldsProtocol) (options : RestoreOptions) :
    Program (Except Failure LockResult) := do
  let present ← snapshotPresent snapshotPath
  if ¬present then return .error (.plain "saved snapshot is missing")
  else do
    let restored ← (applyShieldsPolicySnapshot pid snapshotPath options).attempt
    match restored with
    | .error error =>
      return .error (.plain ("policy restore preparation failed: " ++ error.message))
    | .ok status =>
      if status.getD 1 ≠ 0 then
        return .error (.plain ("policy restore exited with status " ++
          toString (status.getD 1)))
      else activateLock pid allowLegacyHermesProtocol cachedTarget cachedProtocol

/-- `loadMarkerAgentStateLockPlan` is part of the lock. -/
def persistedTarget (agentName : Option String) (configPath configDir : String) :
    AgentConfigTarget where
  agentName := agentName
  configPath := configPath
  configDir := configDir
  sensitiveFiles := configHashPath configDir ::
    (if agentName = some "hermes" then
      [String.ofList (configDir.toList.reverse.dropWhile (· = '/')).reverse ++ "/.env"] else [])

/-- The target of the registry if it is still the same one. -/
def sameTarget (agentName : Option String) (configPath configDir : String)
    (resolved : Except Failure AgentConfigTarget) : AgentConfigTarget :=
  match resolved with
  | .error _ => persistedTarget agentName configPath configDir
  | .ok resolved =>
    if (agentName.all fun name => resolved.agentName = some name) ∧
        resolved.configPath = configPath ∧ resolved.configDir = configDir then
      ensureConfigHashSensitiveFile resolved
    else persistedTarget agentName configPath configDir

/-- The target that the marker names, if it is still the sandbox's. -/
def resolvePersistedAutoRestoreTarget (agentName : Option String)
    (configPath configDir : String) : Program (Option AgentConfigTarget) :=
  if configPath = "" ∨ configDir = "" then return none
  else do
    let resolved ← resolveAgentConfig.attempt
    return some (sameTarget agentName configPath configDir resolved)

/-- How long after its time a timer may still be at work. -/
def autoRestoreCompletionGraceMs : ℕ := 30000

/-- What is to be expected of a timer. -/
inductive TimerStanding where
  /-- the date is not past, or the timer has time left -/
  | pending
  | overdue
  | gone
  deriving DecidableEq

/-- The standing of the timer of a marker. -/
def timerStanding (marker : TimerMarker) : Program TimerStanding := do
  let time ← now
  match marker.restoreAt.ms with
  | none => return .pending
  | some restoreAt =>
    if time.2 < restoreAt then return .pending
    else do
      let alive ← isProcessAlive marker.pid
      if ¬alive then return .gone
      else do
        let warning ← verifyTimerMarkerIdentity marker
        match warning with
        | some _ => return .gone
        | none =>
          if time.2 ≤ restoreAt + autoRestoreCompletionGraceMs then return .pending
          else return .overdue

/-- The transition is waited for and its snapshot restored; a failed wait ends the recovery. -/
def handOff (pid : ℕ) (marker : TimerMarker) : Program Bool :=
  match marker.takeoverToken with
  | none => return true
  | some token => do
    let handed ← (synchronizeAutoRestoreTransition pid token marker.snapshotPath true
      true).attempt
    match handed with
    | .ok _ => return true
    | .error (.durable message retain) => throw (.durable message retain)
    | .error (.plain _) => do
      appendAuditEntry
      return false

/-- The options of a restore in the place of the timer. -/
def recoveryOptions (marker : TimerMarker) : RestoreOptions :=
  match marker.takeoverToken with
  | none => {}
  | some token =>
    { transitionProcessToken := some token
      deadlineAuthoritative := true
      expiredTimerRecovery := true }

/-- The record of the marker's lowering is removed. -/
def clearMarkerTransition (marker : Option TimerMarker) : Program Unit :=
  match marker.bind (·.takeoverToken) with
  | none => return ()
  | some token => clearShieldsDownTransition token

/-- The state is written before the transition and the marker go. -/
def recordRecovery (marker : TimerMarker) (result : LockResult) : Program Unit := do
  saveShieldsState (upPatch (some result))
  clearMarkerTransition (some marker)
  let _cleared ← clearTimerMarker
  appendAuditEntry

/-- The recovery itself. -/
def recoverFromMarker (pid : ℕ) (marker : TimerMarker) : Program Bool := do
  let handed ← handOff pid marker
  if ¬handed then return false
  else do
    let target ← resolvePersistedAutoRestoreTarget marker.agentName
      (marker.configPath.getD "") (marker.configDir.getD "")
    let activation ← activateLockdownFromSnapshot pid marker.snapshotPath
      (marker.allowLegacyHermesProtocol = some true) target none (recoveryOptions marker)
    match activation with
    | .error _ => do
      appendAuditEntry
      return false
    | .ok result => do
      recordRecovery marker result
      return true

/-- The restore that an overdue timer has left; the answer is whether it was done. -/
def recoverExpiredAutoRestoreInline (pid : ℕ) (file : StateFile) : Program Bool :=
  if file.isCorrupt ∨ file.state.shieldsDown ≠ some true then return false
  else do
    let marker ← readTimerMarker
    match marker with
    | none => return false
    | some marker => do
      let standing ← timerStanding marker
      match standing with
      | .pending | .overdue => return false
      | .gone => recoverFromMarker pid marker

/-- The state after an overdue restore has been made up for. -/
def recoverExpiredAutoRestoreGate (pid : ℕ) : Program StateFile := do
  let file ← loadShieldsState
  if file.mode ≠ .temporarilyUnlocked then return file
  else do
    let restored ← recoverExpiredAutoRestoreInline pid file
    if restored then loadShieldsState else return file

/-! ## By hand -/

/-- The options of the command. -/
structure ShieldsUpOpts where
  allowLegacyHermesProtocol : Bool
  /-- `NEMOCLAW_SHIELDS_ACCEPT_LEGACY_BASELINE` is 1 -/
  acceptLegacyBaseline : Bool

/-- The text occurs in the entry. -/
def includesText (entry text : String) : Bool := text.toList <:+: entry.toList

/-- What the messages about hashes contain. -/
def hashIssuePatterns : List String :=
  ["content drifted", "sha256sum failed", "sha256sum output unparsable", "no seal recorded"]

/-- The issue is about a hash. -/
def isHashVerificationIssue (entry : String) : Bool :=
  hashIssuePatterns.any (includesText entry)

/-- The issues about hashes, missing seals aside. -/
def realHashDrift (issues : List String) : List String :=
  (issues.filter isHashVerificationIssue).filter fun entry =>
    ¬includesText entry "no seal recorded"

/-- Some file has no seal. -/
def hasMissingSeals (issues : List String) : Bool :=
  (realHashDrift issues).length < (issues.filter isHashVerificationIssue).length

/-- A tampered file is never sealed again, an unsealed one only if the operator says so. -/
def checkSeal (state : ShieldsState) (issues : List String) (opts : ShieldsUpOpts) :
    Except Failure Unit :=
  if realHashDrift issues ≠ [] then
    .error (.plain ("Locked file seal cannot be trusted: " ++
      "; ".intercalate (realHashDrift issues)))
  else if (state.fileHashes.isNone ∨ hasMissingSeals issues) ∧ ¬opts.acceptLegacyBaseline then
    .error (.plain (if state.fileHashes.isSome then
      "Locked sandbox seal is incomplete; refusing to seal the missing entries without explicit operator acknowledgement"
      else "Locked sandbox has no content seal; refusing to seal a legacy baseline without explicit operator acknowledgement"))
  else .ok ()

/-- The hashes of the files, or it fails. -/
def captureSealHashes (files : List String) : Program FileHashes := do
  let answer ← Tree.ask (Call.captureSealHashes files)
  .lift answer

/-- The lock is clean; a missing seal is taken of the files as they are. -/
def sealLockdown (state : ShieldsState) (target : AgentConfigTarget) : Program Unit :=
  if state.fileHashes.isSome then return ()
  else do
    let hashes ← captureSealHashes (target.configPath :: target.sensitiveFiles)
    saveShieldsState { fileHashes := some hashes }

/-- The files are sealed, and a marker that is left goes. -/
def confirmLockdown (state : ShieldsState) (target : AgentConfigTarget) : Program Unit := do
  sealLockdown state target
  let _cleared ← clearTimerMarker
  return ()

/-- The patch that a new lock saves. -/
def driftPatch (result : LockResult) : ShieldsPatch where
  shieldsDown := some false
  chattrApplied := some result.chattrApplied
  fileHashes := some result.fileHashes

/-- The new lock is recorded. -/
def recordRelock (result : LockResult) : Program Unit := do
  saveShieldsState (driftPatch result)
  let _cleared ← clearTimerMarker
  appendAuditEntry

/-- The lock has drifted and is applied again. -/
def reapplyLockdown (pid : ℕ) (target : AgentConfigTarget) (opts : ShieldsUpOpts) :
    Program Unit := do
  let protocol ← requireHermesShieldsProtocol target opts.allowLegacyHermesProtocol
  let relocked ← relock
    (lockAgentConfig pid target true opts.allowLegacyHermesProtocol (some protocol))
  match relocked with
  | .error error => throw error
  | .ok result => recordRelock result

/-- What is not as the lock left it. -/
def verifyShieldsLockState (target : AgentConfigTarget) (verifyChattr : Bool)
    (expectedHashes : Option FileHashes) : Program (List String) := do
  let answer ← Tree.ask (Call.verifyShieldsLockState target verifyChattr expectedHashes)
  .lift answer

/-- Shields that are up are looked at, and the config locked again where it drifted. -/
def checkLockdown (pid : ℕ) (state : ShieldsState) (opts : ShieldsUpOpts) : Program Unit := do
  let target ← resolveTarget
  let issues ← verifyShieldsLockState target (state.chattrApplied = some true) state.fileHashes
  Tree.lift (checkSeal state issues opts)
  if issues = [] then confirmLockdown state target else reapplyLockdown pid target opts

/-- The snapshot to go back to, if the shields are down. -/
def snapshotToRestore (state : ShieldsState) : Option String :=
  if state.shieldsDown = some true then state.shieldsPolicySnapshotPath else none

/-- The error of a snapshot that is gone. -/
def snapshotMissing : Failure := .plain "Saved policy snapshot is missing"

/-- Shields that are down cannot be raised without the snapshot. -/
def requireSnapshot (state : ShieldsState) : Program Unit :=
  if state.shieldsDown ≠ some true then return ()
  else match state.shieldsPolicySnapshotPath with
    | none => throw snapshotMissing
    | some path => do
      let present ← snapshotPresent path
      if present then return () else throw snapshotMissing

/-- The first lock of a fresh sandbox; its seal is saved at once. -/
def lockFresh (pid : ℕ) (target : AgentConfigTarget) (protocol : HermesShieldsProtocol)
    (opts : ShieldsUpOpts) : Program (Option LockResult) := do
  let result ← lockAgentConfig pid target false opts.allowLegacyHermesProtocol (some protocol)
  saveShieldsState
    { chattrApplied := some result.chattrApplied, fileHashes := some result.fileHashes }
  return none

/-- What is to be recorded of the lock, if it was not recorded yet. -/
def lockForUp (pid : ℕ) (snapshotPath : Option String) (target : AgentConfigTarget)
    (protocol : HermesShieldsProtocol) (opts : ShieldsUpOpts) : Program (Option LockResult) :=
  match snapshotPath with
  | none => lockFresh pid target protocol opts
  | some path => do
    let activation ← activateLockdownFromSnapshot pid path opts.allowLegacyHermesProtocol
      (some target) (some protocol) {}
    match activation with
    | .error error => throw error
    | .ok result => return some result

/-- The shields are up: the state, the timer and its record follow. -/
def recordUp (marker : Option TimerMarker) (lock : Option LockResult) : Program Unit := do
  saveShieldsState (upPatch lock)
  let _cancelled ← killTimer
  clearMarkerTransition marker
  appendAuditEntry

/-- The policy is put back, the config locked, and both recorded. -/
def raise (pid : ℕ) (state : ShieldsState) (opts : ShieldsUpOpts) : Program Unit := do
  requireSnapshot state
  let target ← resolveTarget
  let protocol ← requireHermesShieldsProtocol target opts.allowLegacyHermesProtocol
  let marker ← readTimerMarker
  let lock ← lockForUp pid (snapshotToRestore state) target protocol opts
  recordUp marker lock

/-- The state file can be read. -/
def checkNotCorrupt (file : StateFile) : Except Failure Unit :=
  if file.isCorrupt then
    .error (.plain "Cannot raise shields while persisted shields state is corrupt")
  else .ok ()

/-- The command, with the host's lock held. -/
def shieldsUpWithoutHostLock (pid : ℕ) (opts : ShieldsUpOpts) : Program Unit := do
  let file ← loadShieldsState
  Tree.lift (checkNotCorrupt file)
  if file.state.shieldsDown = some false then checkLockdown pid file.state opts
  else raise pid file.state opts

/-! ## By the timer -/

/-- How an attempt of the timer ends. -/
inductive RestoreAttemptOutcome where
  | complete
  | retry
  | revoked
  deriving DecidableEq

namespace TimerArgs

variable (pid : ℕ) (args : TimerArgs)

/-- The marker is of this timer, in every field. -/
def markerRecordMatchesCurrentTimer (marker : Option TimerMarker) : Bool :=
  marker.any fun marker => marker.pid = pid && marker.snapshotPath = args.snapshotPath &&
    marker.restoreAt.iso = args.restoreAt.iso && marker.processToken = args.processToken &&
    (marker.allowLegacyHermesProtocol = some true) = args.allowLegacyHermesProtocol &&
    marker.leaseOwner = args.leaseOwner && marker.agentName = args.agentName &&
    marker.configPath.all (· = args.configPath) && marker.configDir.all (· = args.configDir)

/-- The marker that is there is of this timer. -/
def markerMatchesCurrentTimer : Program Bool := do
  let marker ← readTimerMarker
  return args.markerRecordMatchesCurrentTimer pid marker

/-- The state file is replaced, or it fails. -/
def replaceStateFile (state : ShieldsState) : Program Unit := do
  let answer ← Tree.ask (Call.replaceStateFile state)
  .lift answer

/-- The state as it is now, with the patch, replaces the file. -/
def updateState (patch : ShieldsPatch) : Program Unit := do
  let current ← Tree.ask (Call.readStateFile (.timer patch))
  let time ← now
  replaceStateFile (patch.apply current.state time.1.iso)

/-- The record of the lowering is of this timer's snapshot. -/
def checkCompletion (transition : Option ShieldsDownTransition) : Except Failure Unit :=
  if transition.any fun transition => transition.snapshotPath ≠ args.snapshotPath then
    .error (.plain
      "Auto-restore completion does not match shields-down transition ownership")
  else .ok ()

/-- The transition goes, unless the marker is another one by now. -/
def completeAutoRestoreTransition (token : String) : Program Bool := do
  let marker ← readTimerMarker
  if marker.any fun marker => marker.pid = pid && marker.processToken = some token &&
      marker.snapshotPath = args.snapshotPath then do
    let transition ← readShieldsDownTransition token
    Tree.lift (args.checkCompletion transition)
    clearShieldsDownTransition token
    return true
  else return false

/-- This timer's marker is removed, or it fails. -/
def cleanupOwnedTimerMarker : Program Unit := do
  let answer ← Tree.ask (Call.cleanupOwnedTimerMarker args)
  .lift answer

/-- What locking the config came to. -/
inductive Relocked where
  | revoked
  | verified (result : Option LockResult)
  | unverified

/-- The config is locked, while the marker is this timer's. -/
def lockTarget (target : AgentConfigTarget) : Program Relocked := do
  let current ← args.markerMatchesCurrentTimer pid
  if ¬current then return .revoked
  else do
    let relocked ← relock
      (lockAgentConfig pid target false args.allowLegacyHermesProtocol none)
    match relocked with
    | .ok result => return .verified (some result)
    | .error _ => return .unverified

/-- A timer without a configuration path has nothing to lock. -/
def lockConfig : Program Relocked :=
  if args.configPath = "" then return .verified none
  else do
    let target ← resolvePersistedAutoRestoreTarget args.agentName args.configPath args.configDir
    match target with
    | none => return .unverified
    | some target => args.lockTarget pid target

/-- The restore is recorded, and the lowering's record removed. -/
def recordAutoRestore (token : String) (lock : Option LockResult) :
    Program RestoreAttemptOutcome := do
  updateState (upPatch lock)
  let completed ← args.completeAutoRestoreTransition pid token
  if ¬completed then return .revoked
  else do
    args.cleanupOwnedTimerMarker
    return .complete

/-- The shields are recorded as up only if the lock was verified. -/
def record (token : String) (relocked : Relocked) : Program RestoreAttemptOutcome :=
  match relocked with
  | .revoked => return .revoked
  | .verified lock => do
    let current ← args.markerMatchesCurrentTimer pid
    if ¬current then return .revoked else args.recordAutoRestore pid token lock
  | .unverified => do
    let current ← args.markerMatchesCurrentTimer pid
    if ¬current then return .revoked
    else do
      updateState { shieldsDown := some true }
      return .retry

/-- The config is locked after the policy is back. -/
def relockAfterRestore (token : String) : Program RestoreAttemptOutcome := do
  let current ← args.markerMatchesCurrentTimer pid
  if ¬current then return .revoked
  else do
    let relocked ← args.lockConfig pid
    args.record pid token relocked

/-- The policy of the snapshot is put back, and then the config locked. -/
def restorePolicy (token : String) : Program RestoreAttemptOutcome := do
  let status ← applyShieldsPolicySnapshot pid args.snapshotPath
    { transitionProcessToken := some token, deadlineAuthoritative := true }
  if status.getD 1 ≠ 0 then return .retry else args.relockAfterRestore pid token

/-- One attempt under the transition lock. -/
def attempt (token : String) : Program RestoreAttemptOutcome := do
  let current ← args.markerMatchesCurrentTimer pid
  if ¬current then return .revoked
  else do
    let present ← snapshotExists args.snapshotPath
    if ¬present then return .retry else args.restorePolicy pid token

/-- An attempt by a timer that has a takeover token. -/
def restore : Program RestoreAttemptOutcome :=
  match args.processToken.filter isTakeoverToken with
  | none => throw (.plain "Auto-restore timer has no valid transition takeover token")
  | some token => args.attempt pid token

end TimerArgs

end NemoClaw.Shields
