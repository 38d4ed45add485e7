import NemoClaw.Js.Text
import NemoClaw.Lib.Outcomes

/- The shields of one sandbox: what the host keeps about them, and the calls that change it.

The host has a state file, a marker of the timer that will raise the shields again, a file
for each transition that is under way, and the policy snapshots. The gateway has a policy,
and the configuration in the sandbox is locked or not.

Correspondence (shields/index.ts, timer-control.ts, relock-reconfirm.ts ↔ Lean): functions
keep their names. A field that is null is one that is missing. A state file that is no
JSON is corrupt; `loadShieldsState` says so, and the timer takes it for an empty one. What
`lockAgentConfigUnderMutationLock` does in the sandbox is one call, and so are the reading
and composing of policies and the wait for a transition that is under way. The name of
the sandbox is left out, and so are log lines and what an audit entry says.
-/
namespace NemoClaw.Shields

open Js CallTree

/-! ## The state file -/

/-- What the shields are: never raised, up, or down for a time. -/
inductive ShieldsMode where
  | mutableDefault
  | locked
  | temporarilyUnlocked
  deriving DecidableEq

/-- The hashes of locked files, by path. -/
abbrev FileHashes := List (String × String)

/-- The state file of a sandbox; a field that is absent is `none`. -/
structure ShieldsState where
  shieldsDown : Option Bool := none
  shieldsDownAt : Option String := none
  shieldsDownTimeout : Option ℕ := none
  shieldsDownReason : Option String := none
  shieldsDownPolicy : Option String := none
  shieldsPolicySnapshotPath : Option String := none
  shieldsManagedMcpPolicyKeys : Option (List String) := none
  chattrApplied : Option Bool := none
  fileHashes : Option FileHashes := none
  updatedAt : Option String := none
  deriving DecidableEq

/-- The mode that a state file stands for. -/
def deriveShieldsMode (state : ShieldsState) (hasStateFile : Bool) : ShieldsMode :=
  if ¬hasStateFile then .mutableDefault
  else match state.shieldsDown with
    | some true => .temporarilyUnlocked
    | some false => .locked
    | none => .mutableDefault

/-- What is at the path of the state file, which is also what `loadShieldsState` returns. -/
inductive StateFile where
  | absent
  | corrupt
  | present (state : ShieldsState)
  deriving DecidableEq

namespace StateFile

/-- There is a file, readable or not. -/
def hasStateFile : StateFile → Bool
  | absent => false
  | corrupt | present _ => true

/-- The file does not read as a state. -/
def isCorrupt : StateFile → Bool
  | corrupt => true
  | absent | present _ => false

/-- The state of the file, the default one where there is none to read. -/
def state : StateFile → ShieldsState
  | present state => state
  | absent | corrupt => {}

/-- The mode of the file. -/
def mode (file : StateFile) : ShieldsMode := deriveShieldsMode file.state file.hasStateFile

lemma mode_locked_iff {file : StateFile} :
    file.mode = .locked ↔ ∃ state, file = present state ∧ state.shieldsDown = some false := by
  cases file with
  | absent => simp [mode, deriveShieldsMode, hasStateFile]
  | corrupt => simp [mode, deriveShieldsMode, hasStateFile, StateFile.state]
  | present state =>
  simp only [mode, deriveShieldsMode, hasStateFile, StateFile.state]
  cases hdown : state.shieldsDown with
  | none => simp [hdown]
  | some down => cases down <;> simp [hdown]

end StateFile

/-- The fields that an update gives; the others stay. -/
structure ShieldsPatch where
  shieldsDown : Option Bool := none
  shieldsDownAt : Option (Option String) := none
  shieldsDownTimeout : Option (Option ℕ) := none
  shieldsDownReason : Option (Option String) := none
  shieldsDownPolicy : Option (Option String) := none
  shieldsPolicySnapshotPath : Option (Option String) := none
  shieldsManagedMcpPolicyKeys : Option (List String) := none
  chattrApplied : Option Bool := none
  fileHashes : Option FileHashes := none
  deriving DecidableEq

/-- The fields of the patch over those that are there. -/
def ShieldsPatch.apply (patch : ShieldsPatch) (current : ShieldsState) (updatedAt : String) :
    ShieldsState where
  shieldsDown := patch.shieldsDown.or current.shieldsDown
  shieldsDownAt := patch.shieldsDownAt.getD current.shieldsDownAt
  shieldsDownTimeout := patch.shieldsDownTimeout.getD current.shieldsDownTimeout
  shieldsDownReason := patch.shieldsDownReason.getD current.shieldsDownReason
  shieldsDownPolicy := patch.shieldsDownPolicy.getD current.shieldsDownPolicy
  shieldsPolicySnapshotPath :=
    patch.shieldsPolicySnapshotPath.getD current.shieldsPolicySnapshotPath
  shieldsManagedMcpPolicyKeys :=
    patch.shieldsManagedMcpPolicyKeys.or current.shieldsManagedMcpPolicyKeys
  chattrApplied := patch.chattrApplied.or current.chattrApplied
  fileHashes := patch.fileHashes.or current.fileHashes
  updatedAt := some updatedAt

/-- What locking the config leaves: whether it is immutable, and its hashes. -/
structure LockResult where
  chattrApplied : Bool
  fileHashes : FileHashes
  deriving DecidableEq

/-- The patch that a raise saves: the fields of the lowering are cleared. -/
def upPatch (lock : Option LockResult) : ShieldsPatch where
  shieldsDown := some false
  shieldsDownAt := some none
  shieldsDownTimeout := some none
  shieldsDownReason := some none
  shieldsDownPolicy := some none
  chattrApplied := lock.map (·.chattrApplied)
  fileHashes := lock.map (·.fileHashes)

/-- A date, and the time it stands for if it is one. -/
structure Date where
  iso : String
  ms : Option ℕ
  deriving DecidableEq

/-- The file by which a restore timer is known. -/
structure TimerMarker where
  pid : ℕ
  snapshotPath : String
  restoreAt : Date
  processToken : Option String
  allowLegacyHermesProtocol : Option Bool
  agentName : Option String
  configPath : Option String
  configDir : Option String
  leaseOwner : Option (ℕ × String)
  deriving DecidableEq

/-- 32 lower-case hex digits. -/
def isTakeoverToken (token : String) : Bool := isLowerHexOf 32 token

/-- The token of the marker, if it is one. -/
def TimerMarker.takeoverToken (marker : TimerMarker) : Option String :=
  marker.processToken.filter isTakeoverToken

/-- How far a lowering has come. -/
inductive Phase where
  | preparing
  | active
  | policyRejected
  deriving DecidableEq

/-- The record of a lowering under way, by which it is recovered. -/
structure ShieldsDownTransition where
  phase : Phase
  ownerPid : ℕ
  ownerStartIdentity : String
  processToken : String
  snapshotPath : String
  managedMcpPolicyKeys : Option (List String)
  deriving DecidableEq

/-- What the restore timer is started with. -/
structure TimerArgs where
  snapshotPath : String
  restoreAt : Date
  configPath : String
  configDir : String
  processToken : Option String
  allowLegacyHermesProtocol : Bool
  leaseOwner : Option (ℕ × String)
  agentName : Option String
  deriving DecidableEq

/-- The config of an agent and the files beside it that are locked too. -/
structure AgentConfigTarget where
  agentName : Option String
  configPath : String
  configDir : String
  sensitiveFiles : List String
  deriving DecidableEq

/-- How the Hermes agent's config is sealed. -/
inductive HermesShieldsProtocol where
  | sealedPlanV1
  | sealedV1
  | legacy
  deriving DecidableEq

/-- The hash file in a config directory, slashes at its end aside. -/
def configHashPath (configDir : String) : String :=
  String.ofList (configDir.toList.reverse.dropWhile (· = '/')).reverse ++ "/.config-hash"

/-- The target with its hash file among the locked ones. -/
def ensureConfigHashSensitiveFile (target : AgentConfigTarget) : AgentConfigTarget :=
  if configHashPath target.configDir ∈ target.sensitiveFiles then target
  else { target with
    sensitiveFiles := target.sensitiveFiles ++ [configHashPath target.configDir] }

/-! ## Calls -/

/-- What is thrown: an error, or one after which the lifecycle gates may stay held. -/
inductive Failure where
  | plain (message : String)
  | durable (message : String) (retainOwnedLifecycleGates : Bool)
  deriving DecidableEq

/-- The text of the error. -/
def Failure.message : Failure → String
  | plain message | durable message _ => message

/-- `isDurableContainmentFailure`. -/
def Failure.isDurable : Failure → Bool
  | plain _ => false
  | durable _ _ => true

/-- Who reads the state file: a command, or an update of it before it writes. -/
inductive Reader where
  | load
  | save (patch : ShieldsPatch)
  | timer (patch : ShieldsPatch)

/-- A managed policy entry and its text. -/
structure ManagedMcpPolicy where
  key : String
  policy : String

/-- What came of waiting for the policy to hold. -/
structure Convergence where
  ok : Bool
  httpStatus : ℕ
  attempts : ℕ

/-- What a policy is set for. -/
inductive Purpose where
  | relax
  | restore
  deriving DecidableEq

/-- What the commands ask of their host. -/
inductive Call where
  | readStateFile (reader : Reader)
  | writeStateFile (state : ShieldsState)
  /-- written aside and renamed into place, by the timer -/
  | replaceStateFile (state : ShieldsState)
  | removeStateFile
  | readTimerMarker
  | clearTimerMarker
  | writeTimerMarkerAtomic (marker : TimerMarker)
  | cleanupOwnedTimerMarker (args : TimerArgs)
  | readShieldsDownTransition (token : String)
  | transitionExists (token : String)
  | writeTransition (transition : ShieldsDownTransition)
  | clearShieldsDownTransition (token : String)
  | snapshotExists (path : String)
  | readSnapshot (path : String)
  | writeSnapshot (path policyYaml : String)
  | removeSnapshot (path : String)
  | getPolicy
  | setPolicy (purpose : Purpose) (policy : String)
  | resolveExactManagedMcpPolicies (livePolicyYaml : Option String)
  | resolveProvableManagedMcpPoliciesForDeadline
  | assertLegacyMcpPolicyRestoreSafe (policyYaml : String)
  | buildRuntimePermissivePolicy (livePolicyYaml : String) (policies : List ManagedMcpPolicy)
  | policyFileExists (policyName : String)
  | buildRuntimePolicyFile (policyName : String) (policies : List ManagedMcpPolicy)
  | buildRuntimeManagedMcpPolicy (base : String) (policies : List ManagedMcpPolicy)
      (snapshotKeys : List String)
  | buildDeadlineRuntimeManagedMcpPolicy (base : String) (policies : List ManagedMcpPolicy)
      (snapshotKeys : List String)
  | resolveAgentConfig
  | inspectHermesShieldsProtocol (target : AgentConfigTarget)
  | lockAgentConfigUnderMutationLock (target : AgentConfigTarget) (rollbackLocked : Bool)
      (protocol : HermesShieldsProtocol)
  | unlockAgentConfigUnderMutationLock (target : AgentConfigTarget) (rollbackLocked : Bool)
      (protocol : HermesShieldsProtocol)
  | verifyShieldsLockState (target : AgentConfigTarget) (verifyChattr : Bool)
      (expectedHashes : Option FileHashes)
  | captureSealHashes (files : List String)
  | waitForHermesInferenceRouteConvergence
  | isProcessAlive (pid : ℕ)
  | verifyTimerMarkerIdentity (marker : TimerMarker)
  | readProcessStartIdentity (pid : ℕ)
  | forkTimer (args : TimerArgs)
  | authorizeTimer (pid : ℕ) (token : String)
  | waitForShieldsDownForwardCommit (token : String)
  /-- the date so many seconds from now -/
  | dateIn (seconds : ℕ)
  | appendAuditEntry

/-- What the host answers to each call. -/
def Call.Answer : Call → Type
  | readStateFile _ => StateFile
  | writeStateFile _ | replaceStateFile _ | removeStateFile => Except Failure Unit
  | readTimerMarker => Option TimerMarker
  -- the warning, if the marker could not be removed
  | clearTimerMarker => Option String
  | writeTimerMarkerAtomic _ | cleanupOwnedTimerMarker _ => Except Failure Unit
  | readShieldsDownTransition _ => Option ShieldsDownTransition
  | transitionExists _ => Bool
  | writeTransition _ => Except Failure Unit
  | clearShieldsDownTransition _ => Unit
  | snapshotExists _ => Bool
  | readSnapshot _ => Except Failure String
  | writeSnapshot _ _ | removeSnapshot _ => Except Failure Unit
  | getPolicy => Option String
  -- the exit status, if the command was not killed
  | setPolicy _ _ => Option ℤ
  | resolveExactManagedMcpPolicies _ => Except Failure (List ManagedMcpPolicy)
  | resolveProvableManagedMcpPoliciesForDeadline => List ManagedMcpPolicy
  | assertLegacyMcpPolicyRestoreSafe _ => Except Failure Unit
  | buildRuntimePermissivePolicy _ _ => Except Failure String
  | policyFileExists _ => Bool
  | buildRuntimePolicyFile _ _ | buildRuntimeManagedMcpPolicy _ _ _
  | buildDeadlineRuntimeManagedMcpPolicy _ _ _ => Except Failure String
  | resolveAgentConfig => Except Failure AgentConfigTarget
  | inspectHermesShieldsProtocol _ => Except Failure HermesShieldsProtocol
  | lockAgentConfigUnderMutationLock _ _ _ => Except Failure LockResult
  | unlockAgentConfigUnderMutationLock _ _ _ => Except Failure Unit
  | verifyShieldsLockState _ _ _ => Except Failure (List String)
  | captureSealHashes _ => Except Failure FileHashes
  | waitForHermesInferenceRouteConvergence => Convergence
  | isProcessAlive _ => Bool
  -- the warning, if the process is not the timer
  | verifyTimerMarkerIdentity _ => Option String
  | readProcessStartIdentity _ => Option String
  -- the process id, if the child reports one
  | forkTimer _ => Except Failure (Option ℕ)
  | authorizeTimer _ _ => Except Failure Bool
  | waitForShieldsDownForwardCommit _ => Except Failure (Option ShieldsDownTransition)
  | dateIn _ => Date × ℕ
  | appendAuditEntry => Except Failure Unit

/-- A command as a tree of calls. -/
abbrev Program (α : Type) := Tree Call Call.Answer Failure α

/-- The state file, as a command first reads it. -/
def loadShieldsState : Program StateFile := Tree.ask (Call.readStateFile .load)

/-- The state file is written, or it fails. -/
def writeStateFile (state : ShieldsState) : Program Unit := do
  let answer ← Tree.ask (Call.writeStateFile state)
  .lift answer

/-- The state file is removed, or it fails. -/
def removeStateFile : Program Unit := do
  let answer ← Tree.ask Call.removeStateFile
  .lift answer

/-- The date so many seconds from now, and its time in milliseconds. -/
def dateIn (seconds : ℕ) : Program (Date × ℕ) := Tree.ask (Call.dateIn seconds)

/-- The time of the host. -/
def now : Program (Date × ℕ) := dateIn 0

/-- The state as it is now, with the patch, is written with the time. -/
def saveShieldsState (patch : ShieldsPatch) : Program Unit := do
  let current ← Tree.ask (Call.readStateFile (.save patch))
  let time ← now
  writeStateFile (patch.apply current.state time.1.iso)

/-- The file is put back as it was read before. -/
def restoreShieldsStateSnapshot (file : StateFile) : Program Unit :=
  match file with
  | .absent => removeStateFile
  | .corrupt => throw (.plain "Cannot restore a corrupt shields state snapshot")
  | .present state => writeStateFile state

/-- The marker of the restore timer, if there is one. -/
def readTimerMarker : Program (Option TimerMarker) := Tree.ask Call.readTimerMarker

/-- The marker is removed; the answer is the warning if it could not be. -/
def clearTimerMarker : Program (Option String) := Tree.ask Call.clearTimerMarker

/-- Whether the timer can no longer act, and what is to be warned of. -/
structure KillTimerResult where
  authorityRevoked : Bool
  warnings : List String

/-- Whether a process runs under the pid. -/
def isProcessAlive (pid : ℕ) : Program Bool := Tree.ask (Call.isProcessAlive pid)

/-- The warning of a marker whose process runs but is not the timer. -/
def identityWarning : Option TimerMarker → Program (Option String)
  | none => return none
  | some marker => do
    let alive ← isProcessAlive marker.pid
    if alive then Tree.ask (Call.verifyTimerMarkerIdentity marker) else return none

/-- The timer loses its marker, whether or not its process is found. -/
def killTimer : Program KillTimerResult := do
  let marker ← readTimerMarker
  let unverified ← identityWarning marker
  let uncleared ← clearTimerMarker
  return ⟨uncleared.isNone, unverified.toList ++ uncleared.toList⟩

/-- The marker is written, or it fails. -/
def writeTimerMarkerAtomic (marker : TimerMarker) : Program Unit := do
  let answer ← Tree.ask (Call.writeTimerMarkerAtomic marker)
  .lift answer

/-- The record of a lowering, by the token of its timer. -/
def readShieldsDownTransition (token : String) : Program (Option ShieldsDownTransition) :=
  Tree.ask (Call.readShieldsDownTransition token)

/-- The record is removed. -/
def clearShieldsDownTransition (token : String) : Program Unit :=
  Tree.ask (Call.clearShieldsDownTransition token)

/-- `sameManagedMcpPolicyKeys`, for lists that are there or not. -/
def sameManagedMcpPolicyKeys (left right : Option (List String)) : Bool := left = right

/-- The record is still that of this lowering, in the phase it left. -/
def checkTransitionOwner (transition : ShieldsDownTransition) (expectedPhase : Phase)
    (current : Option ShieldsDownTransition) : Except Failure Unit :=
  if current.any fun current => current.phase = expectedPhase &&
      current.ownerPid = transition.ownerPid && current.snapshotPath = transition.snapshotPath &&
      sameManagedMcpPolicyKeys current.managedMcpPolicyKeys transition.managedMcpPolicyKeys then
    .ok ()
  else .error (.plain "Shields-down recovery ownership changed during the transition")

/-- The record is written, or it fails. -/
def writeTransition (transition : ShieldsDownTransition) : Program Unit := do
  let answer ← Tree.ask (Call.writeTransition transition)
  .lift answer

/-- The record is written, when a phase is expected only over this lowering's own. -/
def writeShieldsDownTransition (transition : ShieldsDownTransition)
    (expectedPhase : Option Phase) : Program Unit :=
  match expectedPhase with
  | none => writeTransition transition
  | some phase => do
    let current ← readShieldsDownTransition transition.processToken
    Tree.lift (checkTransitionOwner transition phase current)
    writeTransition transition

/-- The record of a lowering that has one is removed. -/
def clearTransition (transition : Option ShieldsDownTransition) : Program Unit :=
  match transition with
  | none => return ()
  | some transition => clearShieldsDownTransition transition.processToken

/-- The config of the sandbox's agent. -/
def resolveAgentConfig : Program AgentConfigTarget := do
  let answer ← Tree.ask Call.resolveAgentConfig
  .lift answer

/-- The config with its hash file. -/
def resolveTarget : Program AgentConfigTarget := do
  let target ← resolveAgentConfig
  return ensureConfigHashSensitiveFile target

/-- The protocol of the sandbox, asked of its image. -/
def askHermesShieldsProtocol (target : AgentConfigTarget) : Program HermesShieldsProtocol := do
  let answer ← Tree.ask (Call.inspectHermesShieldsProtocol target)
  .lift answer

/-- The protocol of the sandbox; other agents have the newest. -/
def inspectHermesShieldsProtocol (target : AgentConfigTarget) : Program HermesShieldsProtocol :=
  if target.agentName ≠ some "hermes" then return .sealedPlanV1
  else askHermesShieldsProtocol target

/-- The error of an image that knows the legacy protocol only. -/
def predatesSealedShields : Failure :=
  .plain
    "This Hermes sandbox image predates sealed shields transitions; rebuild the sandbox before changing shields"

/-- The protocol of the sandbox, the legacy one only where it is allowed. -/
def requireHermesShieldsProtocol (target : AgentConfigTarget)
    (allowLegacyHermesProtocol : Bool) : Program HermesShieldsProtocol := do
  let protocol ← inspectHermesShieldsProtocol target
  if protocol = .legacy ∧ ¬allowLegacyHermesProtocol then throw predatesSealedShields
  else return protocol

/-- The legacy protocol is refused to a Hermes sandbox where it is not allowed. -/
def checkProtocol (target : AgentConfigTarget) (allowLegacyHermesProtocol : Bool)
    (protocol : HermesShieldsProtocol) : Except Failure HermesShieldsProtocol :=
  if target.agentName = some "hermes" ∧ protocol = .legacy ∧ ¬allowLegacyHermesProtocol then
    .error predatesSealedShields
  else .ok protocol

/-- The protocol at hand, or else that of the sandbox, checked. -/
def resolveHermesShieldsProtocol (target : AgentConfigTarget) (allowLegacyHermesProtocol : Bool)
    (cachedProtocol : Option HermesShieldsProtocol) : Program HermesShieldsProtocol :=
  match cachedProtocol with
  | some protocol => .lift (checkProtocol target allowLegacyHermesProtocol protocol)
  | none => do
    let protocol ← requireHermesShieldsProtocol target allowLegacyHermesProtocol
    .lift (checkProtocol target allowLegacyHermesProtocol protocol)

/-- A lock, the wait and the lock again; the whole once more if only the second one failed. -/
def relockAndReconfirm (lock : Program LockResult) (lastError : Failure) :
    ℕ → Program (Except Failure LockResult)
  | 0 => return .error lastError
  | attempts + 1 => do
    let applied ← lock.attempt
    match applied with
    | .error error => return .error error
    | .ok _ => do
      let confirmed ← lock.attempt
      match confirmed with
      | .ok result => return .ok result
      | .error error => relockAndReconfirm lock error attempts

/-- How often a relock is tried. -/
def defaultMaxAttempts : ℕ := 3

/-- The config is locked and looked at again, until it stays locked. -/
def relock (lock : Program LockResult) : Program (Except Failure LockResult) :=
  relockAndReconfirm lock (.plain "Config re-lock did not re-confirm after settle window")
    defaultMaxAttempts

/-- The program with a label before the text of its error. -/
def labelled {α : Type} (label : String) (t : Program α) : Program α :=
  t.handle fun error => throw (.plain (label ++ error.message))

/-- An entry is added to the audit log. -/
def appendAuditEntry : Program Unit := do
  let answer ← Tree.ask Call.appendAuditEntry
  .lift answer

end NemoClaw.Shields
