import NemoClaw.Onboard.CheckpointFormat
import NemoClaw.Onboard.StationExpress

/- The durable onboarding session: its record, the normaliser every load and
every save goes through, and the file.

`saveSession` normalises what it is given and, when the normaliser refuses it,
writes a brand new session in its place. The model keeps that fallback.

Correspondence (state/onboard-session.ts, reasoning-mode.ts,
tool-disclosure.ts, serving/profile-provenance.ts ↔ Lean): definitions keep
the source's names. `Env` collects what the session code calls but does not
depend on for its decisions: redaction, the messaging plan parser, the digest
of a recovery receipt and the `URL` constructor. `Ambient` is what one
operation draws from the clock and the random generator.
-/
namespace NemoClaw.Onboard

open Js Js.Json

/-- The successive clock readings and generated session identifiers of an
operation. -/
structure Ambient where
  clock : Nat → IsoTimestamp
  freshId : Nat → String

/-- The inputs of the `k`-th part of an operation. -/
def Ambient.part (a : Ambient) (k : Nat) : Ambient :=
  ⟨fun n => a.clock (Nat.pair k n), fun n => a.freshId (Nat.pair k n)⟩

/-- `SessionRecoveryReceiptReason`. -/
inductive RecoveryReason where
  | failedTerminalSnapshot
  | reopenedCompleteSnapshot
  deriving DecidableEq

def RecoveryReason.id : RecoveryReason → String
  | failedTerminalSnapshot => "failed_terminal_snapshot"
  | reopenedCompleteSnapshot => "reopened_complete_snapshot"

/-- Functions of other modules that session code calls. A messaging plan stays a
JSON value. -/
structure Env where
  urls : UrlApi
  redactSensitiveText : Option Json → Option String
  redactUrl : String → Option String
  /-- the plan, and the sandbox name it must carry if one is given -/
  parseSandboxMessagingPlan : Option Json → Option String → Option Json
  compactSandboxMessagingPlanForPersistence : Json → Json
  getActiveChannelIdsFromPlan : Json → List String
  getDisabledChannelIdsFromPlan : Json → List String
  createSessionRecoveryReceiptId : String → Nat → RecoveryReason → OnboardMachineState → String

/-! ## Records -/

inductive StepStatus where
  | pending
  | inProgress
  | complete
  | failed
  | skipped
  deriving DecidableEq

def StepStatus.id : StepStatus → String
  | pending => "pending"
  | inProgress => "in_progress"
  | complete => "complete"
  | failed => "failed"
  | skipped => "skipped"

structure StepState where
  status : StepStatus
  startedAt : Option String
  completedAt : Option String
  error : Option String
  deriving DecidableEq

structure SessionFailure where
  step : Option String
  message : Option String
  recordedAt : String
  interrupted : Bool
  deriving DecidableEq

structure SessionMetadata where
  gatewayName : String
  fromDockerfile : Option String
  deriving DecidableEq

structure SessionRecoveryReceipt where
  id : String
  reason : RecoveryReason
  entry : OnboardMachineState
  appliedAt : String
  revision : Nat
  deriving DecidableEq

structure OnboardMachineSnapshot where
  state : OnboardMachineState
  stateEnteredAt : Option String
  revision : Nat
  recoveryReceipt : Option SessionRecoveryReceipt
  deriving DecidableEq

structure SandboxPromptProgress where
  sandboxName : Bool
  webSearch : Bool
  messaging : Bool
  resourceProfile : Bool
  deriving DecidableEq

inductive HermesAuthMethod where
  | oauth
  | apiKey
  deriving DecidableEq

def HermesAuthMethod.id : HermesAuthMethod → String
  | oauth => "oauth"
  | apiKey => "api_key"

inductive ReasoningEffort where
  | low
  | medium
  | high
  deriving DecidableEq

def ReasoningEffort.id : ReasoningEffort → String
  | low => "low"
  | medium => "medium"
  | high => "high"

inductive ToolDisclosure where
  | progressive
  | direct
  deriving DecidableEq

def ToolDisclosure.id : ToolDisclosure → String
  | progressive => "progressive"
  | direct => "direct"

structure WechatConfig where
  accountId : Option String
  baseUrl : Option String
  userId : Option String
  deriving DecidableEq

/-- `exactKeys`: the same keys, in any order. -/
def exactKeys (record : Json) (expected : List String) : Bool :=
  sortedKeys record.keys == sortedKeys expected

/-- `/^sha256:[a-f0-9]{64}$/u`. -/
def isSha256Digest (s : String) : Bool :=
  "sha256:".toList.isPrefixOf s.toList && isSha256 (.ofList (s.toList.drop 7))

/-- `null`, or a safe integer that is not negative. -/
def isNullableByteCount (v : Option Json) : Bool := isNull v || (readSafeNat v).isSome

/-- The checks of `parseServingProfileProvenance`. -/
def isServingProfileProvenance (input : Json) : Bool :=
  match readObject (some input), readObject (input.get? "preset"),
      readObject (input.get? "recipe"), readObject (input.get? "model") with
  | some input, some p, some r, some m =>
    exactKeys input ["catalogDigest", "estimatedImageDownloadBytes",
        "estimatedModelDownloadBytes", "model", "preset", "recipe", "runtimeImage",
        "schemaVersion"] &&
      readNat (input.get? "schemaVersion") == some 1 &&
      (readString (input.get? "catalogDigest")).any isSha256Digest &&
      exactKeys p ["digest", "displayName", "id", "supportState"] &&
      exactKeys r ["backend", "digest", "id"] && exactKeys m ["id", "revision"] &&
      (readString (p.get? "id")).isSome && (readString (p.get? "digest")).any isSha256Digest &&
      (readString (p.get? "displayName")).isSome &&
      (readString (p.get? "supportState")).any
        (fun s => s ∈ ["supported", "experimental", "disabled"]) &&
      (readString (r.get? "id")).isSome && (readString (r.get? "digest")).any isSha256Digest &&
      (readString (r.get? "backend")).isSome && (readString (m.get? "id")).isSome &&
      (readString (m.get? "revision")).isSome &&
      (isNull (input.get? "runtimeImage") || (readString (input.get? "runtimeImage")).isSome) &&
      isNullableByteCount (input.get? "estimatedImageDownloadBytes") &&
      isNullableByteCount (input.get? "estimatedModelDownloadBytes")
  | _, _, _, _ => false

/-- A serving recipe identity: a value that has passed every check, kept as it
was read. -/
abbrev ServingProfileProvenance := { j : Json // isServingProfileProvenance j }

/-- The parser checks and clones. -/
def parseServingProfileProvenance : Option Json → Option ServingProfileProvenance
  | some j => if h : isServingProfileProvenance j then some ⟨j, h⟩ else none
  | none => none

structure Session where
  sessionId : String
  resumable : Bool
  status : String
  mode : String
  startedAt : String
  updatedAt : String
  lastStepStarted : Option String
  lastCompletedStep : Option String
  failure : Option SessionFailure
  agent : Option String
  sandboxName : Option String
  provider : Option String
  model : Option String
  servingProfileProvenance : Option ServingProfileProvenance
  stationExpressIntent : Option StationExpressResumeIntent
  stationExpressReceiptRetirement : Option String
  endpointUrl : Option String
  credentialEnv : Option String
  hermesAuthMethod : Option HermesAuthMethod
  preferredInferenceApi : Option String
  compatibleEndpointReasoning : Option String
  compatibleEndpointReasoningEffort : Option ReasoningEffort
  nimContainer : Option String
  routerPid : Option Nat
  routerCredentialHash : Option String
  webSearchConfig : Option WebSearchConfig
  sandboxPromptProgress : SandboxPromptProgress
  resourceProfile : Option CheckpointResourceProfile
  toolDisclosure : ToolDisclosure
  observabilityEnabled : Bool
  observabilityRequestedExplicitly : Bool
  hermesToolGateways : Option (List String)
  policyPresets : Option (List String)
  messagingPlan : Option Json
  stagedCredentialProviders : List String
  migratedLegacyValueHashes : Option (List (String × String))
  gpuPassthrough : Bool
  telegramConfig : Option Bool
  wechatConfig : Option WechatConfig
  metadata : SessionMetadata
  machine : OnboardMachineSnapshot
  checkpoint : Option OnboardCheckpoint
  steps : StepName → StepState

/-! ## Readers -/

def readHermesAuthMethod : Option Json → Option HermesAuthMethod :=
  readEnum HermesAuthMethod.id [.oauth, .apiKey]

def readPositiveInteger (v : Option Json) : Option Nat := (readNat v).filter (0 < ·)

def readStepStatus : Option Json → Option StepStatus :=
  readEnum StepStatus.id [.pending, .inProgress, .complete, .failed, .skipped]

/-- The member whose identifier is the string read, ignoring case and outer white
space. -/
def readEnumLoose {α : Type} (id : α → String) (all : List α) (v : Option Json) : Option α :=
  (readString v).bind fun s => all.find? fun a => id a == jsToLowerCase (jsTrim s)

def normalizeReasoningEffort : Option Json → Option ReasoningEffort :=
  readEnumLoose ReasoningEffort.id [.low, .medium, .high]

def normalizeToolDisclosure : Option Json → Option ToolDisclosure :=
  readEnumLoose ToolDisclosure.id [.progressive, .direct]

/-- `normalizeSessionToolDisclosure`; the default is `progressive`. -/
def normalizeSessionToolDisclosure (v : Option Json) : ToolDisclosure :=
  (normalizeToolDisclosure v).getD .progressive

def parseWebSearchConfig (v : Option Json) : Option WebSearchConfig := normalizeWebSearchConfig v

def parseSessionResourceProfile (v : Option Json) : Option CheckpointResourceProfile :=
  parseResourceProfileValue v

/-- The choices `parseSandboxPromptProgress` looks at; `none` where the object
has no such property. -/
structure PromptChoices where
  sandboxName : Option Json
  webSearchConfig : Option Json
  messagingPlan : Option Json
  resourceProfile : Option Json

/-- A completed choice counts only when the value it stands for is valid. -/
def parseSandboxPromptProgress (env : Env) (value : Option Json) (choices : PromptChoices) :
    SandboxPromptProgress :=
  let progress := (readObject value).getD (.obj [])
  { sandboxName := isTrue (progress.get? "sandboxName") &&
      (readString choices.sandboxName).any isValidSandboxName
    webSearch := isTrue (progress.get? "webSearch") && choices.webSearchConfig.isSome &&
      (isNull choices.webSearchConfig || (parseWebSearchConfig choices.webSearchConfig).isSome)
    messaging := isTrue (progress.get? "messaging") && choices.messagingPlan.isSome &&
      (isNull choices.messagingPlan ||
        (readString choices.sandboxName).any fun name =>
          (env.parseSandboxMessagingPlan choices.messagingPlan (some name)).isSome)
    resourceProfile := isTrue (progress.get? "resourceProfile") &&
      choices.resourceProfile.isSome &&
      (isNull choices.resourceProfile ||
        (parseSessionResourceProfile choices.resourceProfile).isSome) }

def parseTelegramConfig (v : Option Json) : Option Bool := do
  let v ← readObject v
  readBool (v.get? "requireMention")

/-- The non-empty strings of the three fields, if there is any. -/
def parseWechatConfig (v : Option Json) : Option WechatConfig := do
  let v ← readObject v
  let result : WechatConfig :=
    { accountId := readNonEmpty (v.get? "accountId")
      baseUrl := readNonEmpty (v.get? "baseUrl")
      userId := readNonEmpty (v.get? "userId") }
  guard (result.accountId.isSome ∨ result.baseUrl.isSome ∨ result.userId.isSome)
  return result

def parseSessionMetadata (v : Option Json) : Option SessionMetadata := do
  let v ← readObject v
  return { gatewayName := (readString (v.get? "gatewayName")).getD "nemoclaw"
           fromDockerfile := readString (v.get? "fromDockerfile") }

def parseStepState (env : Env) (v : Option Json) : Option StepState := do
  let v ← readObject v
  let status ← readStepStatus (v.get? "status")
  return { status, startedAt := readString (v.get? "startedAt")
           completedAt := readString (v.get? "completedAt")
           error := env.redactSensitiveText (v.get? "error") }

def parseSessionRecoveryReceipt (env : Env) (value : Option Json)
    (snapshotState : OnboardMachineState) (snapshotStateEnteredAt : Option String)
    (snapshotRevision : Nat) (sessionId : String) : Option SessionRecoveryReceipt := do
  let value ← readObject value
  let id ← readString (value.get? "id")
  guard (isSha256 id)
  let reason ← readEnum RecoveryReason.id [.failedTerminalSnapshot, .reopenedCompleteSnapshot]
    (value.get? "reason")
  let entry ← readMachineState (value.get? "entry")
  guard (entry.isTerminal = false)
  let appliedAt ← readCanonicalIsoTimestamp (value.get? "appliedAt")
  let revision ← readNat (value.get? "revision")
  guard (entry = snapshotState)
  guard (some appliedAt = snapshotStateEnteredAt)
  guard (revision = snapshotRevision)
  guard (id = env.createSessionRecoveryReceiptId sessionId revision reason entry)
  return { id, reason, entry, appliedAt, revision }

def parseMachineSnapshot (env : Env) (value : Option Json) (sessionId : String) :
    Option OnboardMachineSnapshot := do
  let value ← readObject value
  guard (readNat (value.get? "version") = some 1)
  let state ← readMachineState (value.get? "state")
  let stateEnteredAt := readString (value.get? "stateEnteredAt")
  let revision := (readNat (value.get? "revision")).getD 0
  return { state, stateEnteredAt, revision,
           recoveryReceipt := parseSessionRecoveryReceipt env (value.get? "recoveryReceipt")
             state stateEnteredAt revision sessionId }

/-- `sanitizeFailure` on an object; `now` stands in for a missing time. -/
def sanitizeFailure (env : Env) (now : IsoTimestamp) (input : Option Json) :
    Option SessionFailure := do
  let input ← readObject input
  let step := readString (input.get? "step")
  let message := env.redactSensitiveText (input.get? "message")
  -- an empty step or message is falsy
  guard ((step.getD "") ≠ "" ∨ (message.getD "") ≠ "")
  return { step, message,
           recordedAt := (readString (input.get? "recordedAt")).getD now.val
           interrupted := isTrue (input.get? "interrupted") }

def createMachineSnapshot (state : OnboardMachineState) (stateEnteredAt : Option String)
    (revision : Nat) : OnboardMachineSnapshot :=
  { state, stateEnteredAt, revision, recoveryReceipt := none }

/-- The step a session's `lastStepStarted` names, when it is in progress. -/
def startedStepInProgress (session : Session) : Option StepState :=
  (session.lastStepStarted.bind StepName.ofKey).bind fun n =>
    if (session.steps n).status = .inProgress then some (session.steps n) else none

def inferMachineState (session : Session) : OnboardMachineState :=
  if session.status = "complete" then .complete
  else if session.status = "failed" then .failed
  else
    match machineStateFromOnboardSessionStep session.lastStepStarted,
        startedStepInProgress session with
    | some state, some _ => state
    | _, _ =>
      (nextMachineStateAfterCompletedStep session.lastCompletedStep session.agent).getD .init

def inferMachineStateEnteredAt (session : Session) (state : OnboardMachineState) :
    Option String :=
  if state = .failed then some ((session.failure.map (·.recordedAt)).getD session.updatedAt)
  else if state = .complete then some session.updatedAt
  else
    match decide (machineStateFromOnboardSessionStep session.lastStepStarted = some state),
        startedStepInProgress session with
    | true, some step => some (step.startedAt.getD session.updatedAt)
    | _, _ =>
      if nextMachineStateAfterCompletedStep session.lastCompletedStep session.agent = some state
      then
        some (((session.lastCompletedStep.bind StepName.ofKey).bind fun n =>
          (session.steps n).completedAt).getD session.updatedAt)
      else some session.startedAt

def inferMachineSnapshot (session : Session) : OnboardMachineSnapshot :=
  let state := inferMachineState session
  createMachineSnapshot state (inferMachineStateEnteredAt session state) 0

/-- The unchecked move: a state that does not change keeps its snapshot, any
other gets the next revision. -/
def transitionMachineSnapshot (session : Session) (state : OnboardMachineState)
    (now : IsoTimestamp) : Session :=
  if session.machine.state = state then
    { session with machine :=
        { session.machine with
          stateEnteredAt := some (session.machine.stateEnteredAt.getD now.val) } }
  else
    { session with machine :=
        createMachineSnapshot state (some now.val) (session.machine.revision + 1) }

/-! ## Creating and normalising a session -/

/-- `none` stands for `undefined` or `null`; the four choices that prompt progress refers to tell
an absent property (`none`) from `null` (`some none`). -/
structure SessionOverrides where
  sessionId : Option String := none
  mode : Option String := none
  startedAt : Option String := none
  updatedAt : Option String := none
  lastStepStarted : Option String := none
  lastCompletedStep : Option String := none
  failure : Option SessionFailure := none
  agent : Option String := none
  sandboxName : Option (Option String) := none
  provider : Option String := none
  model : Option String := none
  servingProfileProvenance : Option ServingProfileProvenance := none
  stationExpressIntent : Option StationExpressResumeIntent := none
  stationExpressReceiptRetirement : Option String := none
  endpointUrl : Option String := none
  credentialEnv : Option String := none
  hermesAuthMethod : Option HermesAuthMethod := none
  preferredInferenceApi : Option String := none
  compatibleEndpointReasoning : Option String := none
  compatibleEndpointReasoningEffort : Option ReasoningEffort := none
  nimContainer : Option String := none
  routerPid : Option Nat := none
  routerCredentialHash : Option String := none
  webSearchConfig : Option (Option WebSearchConfig) := none
  sandboxPromptProgress : SandboxPromptProgress := ⟨false, false, false, false⟩
  resourceProfile : Option (Option CheckpointResourceProfile) := none
  toolDisclosure : Option ToolDisclosure := none
  observabilityEnabled : Bool := false
  observabilityRequestedExplicitly : Bool := false
  hermesToolGateways : Option (List String) := none
  policyPresets : Option (List String) := none
  messagingPlan : Option (Option Json) := none
  stagedCredentialProviders : List String := []
  migratedLegacyValueHashes : Option (List (String × String)) := none
  gpuPassthrough : Bool := false
  telegramConfig : Option Bool := none
  wechatConfig : Option WechatConfig := none
  metadata : Option SessionMetadata := none
  checkpoint : Option Json := none

def SandboxPromptProgress.toJson (p : SandboxPromptProgress) : Json :=
  .obj [("sandboxName", .bool p.sandboxName), ("webSearch", .bool p.webSearch),
    ("messaging", .bool p.messaging), ("resourceProfile", .bool p.resourceProfile)]

def SessionOverrides.choices (o : SessionOverrides) : PromptChoices :=
  { sandboxName := o.sandboxName.map ofString?
    webSearchConfig := o.webSearchConfig.map (ofOption WebSearchConfig.toJson)
    messagingPlan := o.messagingPlan.map fun plan => plan.getD .null
    resourceProfile := o.resourceProfile.map (ofOption CheckpointResourceProfile.toJson) }

def defaultStep : StepState :=
  { status := .pending, startedAt := none, completedAt := none, error := none }

/-- The values drawn are the clock reading and the identifier at index 0. -/
def createSession (env : Env) (amb : Ambient) (o : SessionOverrides) : Session :=
  let now := (amb.clock 0).val
  let startedAt := o.startedAt.getD now
  { sessionId := o.sessionId.getD (amb.freshId 0)
    resumable := true
    status := "in_progress"
    mode := o.mode.getD "interactive"
    startedAt
    updatedAt := o.updatedAt.getD now
    lastStepStarted := o.lastStepStarted
    lastCompletedStep := o.lastCompletedStep
    failure := o.failure
    agent := o.agent
    sandboxName := o.sandboxName.join
    provider := o.provider
    model := o.model
    servingProfileProvenance := o.servingProfileProvenance
    stationExpressIntent :=
      o.stationExpressIntent.bind fun i => parseStationExpressResumeIntent (some i.toJson)
    stationExpressReceiptRetirement :=
      o.stationExpressReceiptRetirement.filter fun g => isReceiptGeneration g
    endpointUrl := o.endpointUrl
    credentialEnv := o.credentialEnv
    hermesAuthMethod := o.hermesAuthMethod
    preferredInferenceApi := o.preferredInferenceApi
    compatibleEndpointReasoning := o.compatibleEndpointReasoning
    compatibleEndpointReasoningEffort := o.compatibleEndpointReasoningEffort
    nimContainer := o.nimContainer
    routerPid := o.routerPid.filter (0 < ·)
    routerCredentialHash := o.routerCredentialHash
    webSearchConfig := o.webSearchConfig.join.bind fun c =>
      normalizeWebSearchConfig (some c.toJson)
    sandboxPromptProgress :=
      parseSandboxPromptProgress env (some o.sandboxPromptProgress.toJson) o.choices
    resourceProfile := o.resourceProfile.join
    toolDisclosure := o.toolDisclosure.getD .progressive
    observabilityEnabled := o.observabilityEnabled
    observabilityRequestedExplicitly := o.observabilityRequestedExplicitly
    hermesToolGateways := o.hermesToolGateways
    policyPresets := o.policyPresets
    messagingPlan := o.messagingPlan.join.bind fun plan =>
      env.parseSandboxMessagingPlan (some plan) none
    stagedCredentialProviders := o.stagedCredentialProviders
    migratedLegacyValueHashes := o.migratedLegacyValueHashes
    gpuPassthrough := o.gpuPassthrough
    telegramConfig := o.telegramConfig
    wechatConfig := o.wechatConfig
    metadata := o.metadata.getD { gatewayName := "nemoclaw", fromDockerfile := none }
    machine := createMachineSnapshot .init (some startedAt) 0
    checkpoint := parseStoredCheckpoint env.urls o.checkpoint
    steps := fun _ => defaultStep }

/-- The parsed value of an optional property; a value that is there, is not
`null` and does not parse makes the whole session unreadable. -/
def readOrReject {α : Type} (parse : Option Json → Option α) (v : Option Json) :
    Option (Option α) :=
  if v.isSome ∧ isNull v = false ∧ (parse v).isNone then none else some (parse v)

/-- The overrides `normalizeSession` hands to `createSession`. -/
def normalizedOverrides (env : Env) (amb : Ambient) (data : Json)
    (servingProfileProvenance : Option ServingProfileProvenance)
    (compatibleEndpointReasoningEffort : Option ReasoningEffort)
    (stationExpressIntent : Option StationExpressResumeIntent)
    (stationExpressReceiptRetirement : Option String) : SessionOverrides :=
  { sessionId := readString (data.get? "sessionId")
    mode := readString (data.get? "mode")
    startedAt := readString (data.get? "startedAt")
    updatedAt := readString (data.get? "updatedAt")
    lastStepStarted := readString (data.get? "lastStepStarted")
    lastCompletedStep := readString (data.get? "lastCompletedStep")
    failure := sanitizeFailure env (amb.clock 1) (data.get? "failure")
    agent := readString (data.get? "agent")
    sandboxName := some (readString (data.get? "sandboxName"))
    provider := readString (data.get? "provider")
    model := readString (data.get? "model")
    servingProfileProvenance
    stationExpressIntent
    stationExpressReceiptRetirement
    endpointUrl := (readString (data.get? "endpointUrl")).bind env.redactUrl
    credentialEnv := readString (data.get? "credentialEnv")
    hermesAuthMethod := readHermesAuthMethod (data.get? "hermesAuthMethod")
    preferredInferenceApi := readString (data.get? "preferredInferenceApi")
    compatibleEndpointReasoning := readString (data.get? "compatibleEndpointReasoning")
    compatibleEndpointReasoningEffort
    nimContainer := readString (data.get? "nimContainer")
    routerPid := readPositiveInteger (data.get? "routerPid")
    routerCredentialHash := readString (data.get? "routerCredentialHash")
    webSearchConfig := some (parseWebSearchConfig (data.get? "webSearchConfig"))
    sandboxPromptProgress :=
      parseSandboxPromptProgress env (data.get? "sandboxPromptProgress")
        { sandboxName := data.get? "sandboxName"
          webSearchConfig := data.get? "webSearchConfig"
          messagingPlan := data.get? "messagingPlan"
          resourceProfile := data.get? "resourceProfile" }
    resourceProfile := some (parseSessionResourceProfile (data.get? "resourceProfile"))
    toolDisclosure := some (normalizeSessionToolDisclosure (data.get? "toolDisclosure"))
    observabilityEnabled := isTrue (data.get? "observabilityEnabled")
    observabilityRequestedExplicitly := isTrue (data.get? "observabilityRequestedExplicitly")
    hermesToolGateways := readStringArray (data.get? "hermesToolGateways")
    policyPresets := readStringArray (data.get? "policyPresets")
    messagingPlan := some (env.parseSandboxMessagingPlan (data.get? "messagingPlan") none)
    stagedCredentialProviders :=
      (readStringArray (data.get? "stagedCredentialProviders")).getD []
    migratedLegacyValueHashes := readStringRecord (data.get? "migratedLegacyValueHashes")
    gpuPassthrough := isTrue (data.get? "gpuPassthrough")
    telegramConfig := parseTelegramConfig (data.get? "telegramConfig")
    wechatConfig := parseWechatConfig (data.get? "wechatConfig")
    metadata := parseSessionMetadata (data.get? "metadata")
    checkpoint := data.get? "checkpoint" }

/-- The steps of a session file: known names that parse, over the defaults. -/
def normalizedSteps (env : Env) (steps : Option Json) : StepName → StepState :=
  fun n => ((readObject steps).bind fun s => parseStepState env (s.get? n.key)).getD defaultStep

/-- The session as read, before the cross-field checks and the machine snapshot. -/
def draftSession (env : Env) (amb : Ambient) (data : Json)
    (provenance : Option ServingProfileProvenance) (effort : Option ReasoningEffort)
    (intent : Option StationExpressResumeIntent) (retirement : Option String) : Session :=
  let created := createSession env amb
    (normalizedOverrides env amb data provenance effort intent retirement)
  { created with
    resumable := !(readBool (data.get? "resumable") == some false)
    status := (readString (data.get? "status")).getD created.status
    steps := normalizedSteps env (data.get? "steps") }

/-- With an intent, the file must be that of a resumable non-interactive run that
is in progress or failed. -/
def intentAllowed (data : Json) (session : Session) : Prop :=
  session.stationExpressIntent = none ∨
    (isTrue (data.get? "resumable") ∧ session.mode = "non-interactive" ∧
      (readString (data.get? "status") = some "in_progress" ∨
        readString (data.get? "status") = some "failed"))

/-- With a receipt awaiting retirement, the run must be complete. -/
def retirementAllowed (session : Session) : Prop :=
  session.stationExpressReceiptRetirement = none ∨
    (session.status = "complete" ∧ session.resumable = false ∧
      session.stationExpressIntent = none)

/-- With an intent, provider selection is complete exactly when the intent is bound, and then the
session names the provider and model it is bound to. -/
def bindingConsistent (session : Session) : Bool :=
  match session.stationExpressIntent with
  | none => true
  | some intent =>
    match intent.boundModel with
    | some served =>
      (session.steps .providerSelection).status = .complete ∧
        session.provider = some "vllm-local" ∧ session.model = some served
    | none =>
      (session.steps .providerSelection).status ≠ .complete ∧
        session.provider = none ∧ session.model = none

instance (data : Json) (session : Session) : Decidable (intentAllowed data session) :=
  inferInstanceAs (Decidable (_ ∨ _))

instance (session : Session) : Decidable (retirementAllowed session) :=
  inferInstanceAs (Decidable (_ ∨ _))

/-- The draft with the file's machine snapshot, or one inferred from its steps. -/
def withMachine (env : Env) (data : Json) (draft : Session) : Session :=
  { draft with
    machine := (parseMachineSnapshot env (data.get? "machine") draft.sessionId).getD
      (inferMachineSnapshot draft) }

def normalizeSession (env : Env) (amb : Ambient) (value : Option Json) : Option Session := do
  let data ← readObject value
  guard (readNat (data.get? "version") = some 1)
  let provenance ←
    readOrReject parseServingProfileProvenance (data.get? "servingProfileProvenance")
  let effort ←
    readOrReject normalizeReasoningEffort (data.get? "compatibleEndpointReasoningEffort")
  let intent ← readOrReject parseStationExpressResumeIntent (data.get? "stationExpressIntent")
  let retirement ← readOrReject (fun v => (readString v).filter fun g => isReceiptGeneration g)
    (data.get? "stationExpressReceiptRetirement")
  let draft := draftSession env amb data provenance effort intent retirement
  guard (intentAllowed data draft)
  guard (retirementAllowed draft)
  guard (bindingConsistent draft)
  return withMachine env data draft

def StepState.toJson (s : StepState) : Json :=
  .obj [("status", .str s.status.id), ("startedAt", ofString? s.startedAt),
    ("completedAt", ofString? s.completedAt), ("error", ofString? s.error)]

def SessionFailure.toJson (f : SessionFailure) : Json :=
  .obj [("step", ofString? f.step), ("message", ofString? f.message),
    ("recordedAt", .str f.recordedAt), ("interrupted", .bool f.interrupted)]

def SessionMetadata.toJson (m : SessionMetadata) : Json :=
  .obj [("gatewayName", .str m.gatewayName), ("fromDockerfile", ofString? m.fromDockerfile)]

def SessionRecoveryReceipt.toJson (r : SessionRecoveryReceipt) : Json :=
  .obj [("id", .str r.id), ("reason", .str r.reason.id), ("entry", .str r.entry.id),
    ("appliedAt", .str r.appliedAt), ("revision", ofNat r.revision)]

def OnboardMachineSnapshot.toJson (m : OnboardMachineSnapshot) : Json :=
  .obj ([("version", ofNat 1), ("state", .str m.state.id),
    ("stateEnteredAt", ofString? m.stateEnteredAt), ("revision", ofNat m.revision)] ++
    optField "recoveryReceipt" (m.recoveryReceipt.map SessionRecoveryReceipt.toJson))

def WechatConfig.toJson (w : WechatConfig) : Json :=
  .obj (optField "accountId" (w.accountId.map .str) ++ optField "baseUrl" (w.baseUrl.map .str) ++
    optField "userId" (w.userId.map .str))

/-- The in-memory session as the object `normalizeSession` is applied to. -/
def Session.toJson (s : Session) : Json :=
  .obj [("version", ofNat 1), ("sessionId", .str s.sessionId), ("resumable", .bool s.resumable),
    ("status", .str s.status), ("mode", .str s.mode), ("startedAt", .str s.startedAt),
    ("updatedAt", .str s.updatedAt), ("lastStepStarted", ofString? s.lastStepStarted),
    ("lastCompletedStep", ofString? s.lastCompletedStep),
    ("failure", ofOption SessionFailure.toJson s.failure), ("agent", ofString? s.agent),
    ("sandboxName", ofString? s.sandboxName), ("provider", ofString? s.provider),
    ("model", ofString? s.model),
    ("servingProfileProvenance", ofOption Subtype.val s.servingProfileProvenance),
    ("stationExpressIntent",
      ofOption StationExpressResumeIntent.toJson s.stationExpressIntent),
    ("stationExpressReceiptRetirement", ofString? s.stationExpressReceiptRetirement),
    ("endpointUrl", ofString? s.endpointUrl), ("credentialEnv", ofString? s.credentialEnv),
    ("hermesAuthMethod", ofOption (fun m => .str m.id) s.hermesAuthMethod),
    ("preferredInferenceApi", ofString? s.preferredInferenceApi),
    ("compatibleEndpointReasoning", ofString? s.compatibleEndpointReasoning),
    ("compatibleEndpointReasoningEffort",
      ofOption (fun e => .str e.id) s.compatibleEndpointReasoningEffort),
    ("nimContainer", ofString? s.nimContainer), ("routerPid", ofOption ofNat s.routerPid),
    ("routerCredentialHash", ofString? s.routerCredentialHash),
    ("webSearchConfig", ofOption WebSearchConfig.toJson s.webSearchConfig),
    ("sandboxPromptProgress", s.sandboxPromptProgress.toJson),
    ("resourceProfile", ofOption CheckpointResourceProfile.toJson s.resourceProfile),
    ("toolDisclosure", .str s.toolDisclosure.id),
    ("observabilityEnabled", .bool s.observabilityEnabled),
    ("observabilityRequestedExplicitly", .bool s.observabilityRequestedExplicitly),
    ("hermesToolGateways", ofOption ofStrings s.hermesToolGateways),
    ("policyPresets", ofOption ofStrings s.policyPresets),
    ("messagingPlan", s.messagingPlan.getD .null),
    ("stagedCredentialProviders", ofStrings s.stagedCredentialProviders),
    ("migratedLegacyValueHashes",
      ofOption (fun h => .obj (h.map fun kv => (kv.1, .str kv.2))) s.migratedLegacyValueHashes),
    ("gpuPassthrough", .bool s.gpuPassthrough),
    ("telegramConfig", ofOption (fun b => .obj [("requireMention", .bool b)]) s.telegramConfig),
    ("wechatConfig", ofOption WechatConfig.toJson s.wechatConfig),
    ("metadata", s.metadata.toJson), ("machine", s.machine.toJson),
    ("checkpoint", ofOption serializeCheckpoint s.checkpoint),
    ("steps", .obj (StepName.all.map fun n => (n.key, (s.steps n).toJson)))]

/-- The object written to disk: the session with its messaging plan compacted. -/
def serializeSessionForDisk (env : Env) (s : Session) : Json :=
  Session.toJson { s with
    messagingPlan := s.messagingPlan.map env.compactSandboxMessagingPlanForPersistence }

/-- The session file (`none` when it is missing or is not JSON) and the sessions
written to it, the latest first. -/
structure SessionStore where
  file : Option Json
  writes : List Session

/-- `null` when there is no file or the normaliser refuses it. -/
def loadSession (env : Env) (amb : Ambient) (store : SessionStore) : Option Session :=
  normalizeSession env amb store.file

/-- The session that `saveSession` writes: what the normaliser makes of the one
it is given, or else a new one. -/
def sessionToSave (env : Env) (amb : Ambient) (session : Session) : Session :=
  let normalized := (normalizeSession env (amb.part 0) (some session.toJson)).getD
    (createSession env (amb.part 1) {})
  { normalized with updatedAt := ((amb.part 2).clock 0).val }

def SessionStore.write (env : Env) (store : SessionStore) (session : Session) : SessionStore :=
  { file := some (serializeSessionForDisk env session), writes := session :: store.writes }

/-! ## A concrete environment

For evaluating the model: texts without secrets, no messaging plan and no
externally supervised gateway. -/

def plainEnv : Env where
  urls := { parse := fun _ => none, parse_empty := rfl, parse_origin := fun h => nomatch h }
  redactSensitiveText := readString
  redactUrl := fun s => if s = "" then none else some s
  parseSandboxMessagingPlan := fun _ _ => none
  compactSandboxMessagingPlanForPersistence := fun plan => plan
  getActiveChannelIdsFromPlan := fun _ => []
  getDisabledChannelIdsFromPlan := fun _ => []
  createSessionRecoveryReceiptId := fun _ _ _ _ => ""

/-- The first instant of 2026. -/
def newYear : IsoTimestamp := ⟨"2026-01-01T00:00:00.000Z", by decide⟩

/-- A stopped clock and one generated identifier. -/
def plainAmbient (id : String) : Ambient := ⟨fun _ => newYear, fun _ => id⟩

end NemoClaw.Onboard
