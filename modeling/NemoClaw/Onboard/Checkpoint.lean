import NemoClaw.Js.Text
import NemoClaw.Onboard.Machine

/- The onboarding checkpoint: its record types, the strict parser that runs when
a session is saved or loaded, and the serialiser.

Correspondence (onboard-checkpoint-types.ts, onboard-checkpoint-decision.ts,
onboard-checkpoint.ts, inference/web-search.ts ↔ Lean): definitions keep the
source's names. A parser that answers `null` answers `none` here; one that
tells `null` from `undefined` answers `Option (Option _)`, the outer `none`
being `undefined`. `new URL(..)` is the `UrlApi` parameter.

What is proved (round trip of the format):
  `parseSchema_wellFormed`: what the parser accepts is well formed.
  `parseSchema_serialize`: the parser gives the serialised form of a well-formed
    checkpoint back in its canonical form.
-/
namespace NemoClaw.Onboard

open Js Js.Json

/-! ## Records -/

/-- An answer of the user: none yet, no, or a value. -/
inductive CheckpointDecision (α : Type) where
  | unset
  | declined
  | selected (value : α)
  deriving DecidableEq

def CheckpointDecision.map {α : Type} (f : α → α) : CheckpointDecision α → CheckpointDecision α
  | .selected v => .selected (f v)
  | .unset => .unset
  | .declined => .declined

inductive WebSearchProvider where
  | brave
  | tavily
  deriving DecidableEq

/-- What was chosen for searching the web. -/
structure WebSearchConfig where
  fetchEnabled : Bool
  provider : Option WebSearchProvider
  deriving DecidableEq

/-- The sandbox that is set up, and its agent. -/
structure CheckpointSandboxIdentity where
  name : String
  agent : String
  deriving DecidableEq

/-- The resources that were chosen. -/
structure CheckpointResourceProfile where
  cpu : String
  memory : String
  deriving DecidableEq

/-- The channels that were chosen. -/
structure CheckpointMessagingSelection where
  selectedChannels : List String
  disabledChannels : List String
  deriving DecidableEq

/-- The groups of effects that are recorded as done. -/
inductive CheckpointEffectGroupName where
  | webSearchProvider
  | messagingProviders
  | sandboxCreate
  | sandboxRegister
  deriving DecidableEq

/-- The key of a group in the file. -/
def CheckpointEffectGroupName.key : CheckpointEffectGroupName → String
  | webSearchProvider => "web_search_provider"
  | messagingProviders => "messaging_providers"
  | sandboxCreate => "sandbox_create"
  | sandboxRegister => "sandbox_register"

/-- When a group was done, and with which inputs. -/
structure CheckpointEffectGroupRecord where
  completedAt : String
  fingerprint : String
  deriving DecidableEq

/-- A provider that was registered with the gateway. -/
structure CheckpointProviderBinding where
  name : String
  type : String
  credentialEnv : String
  deriving DecidableEq

inductive GatewaySupervisorKind where
  | systemdSystem
  | systemdUser
  deriving DecidableEq

/-- The service that runs the gateway. -/
structure CheckpointGatewaySupervisor where
  kind : GatewaySupervisorKind
  serviceName : String
  execPath : String
  deriving DecidableEq

inductive GatewayMode where
  | nemoclawManaged
  | externallySupervised
  deriving DecidableEq

inductive GatewaySource where
  | declared
  | packagedService
  | standalone
  deriving DecidableEq

/-- The gateway that the sandbox belongs to. -/
structure CheckpointGatewayAuthority where
  gatewayName : String
  gatewayPort : Nat
  mode : GatewayMode
  source : GatewaySource
  endpoint : Option String
  stateDir : Option String
  supervisor : Option CheckpointGatewaySupervisor
  requiredCapabilities : List String
  deriving DecidableEq

/-- What the setup has bound outside the file. -/
structure CheckpointBindings where
  credentialEnvs : List String
  registeredProviders : List CheckpointProviderBinding
  deriving DecidableEq

/-- The phases of a sandbox replacement, in the order it runs through them. -/
inductive CheckpointSandboxRecreatePhase where
  | planned
  | deleting
  | deleted
  | creating
  | created
  | registryCommitting
  | completed
  deriving DecidableEq

/-- The image of the sandbox that is recreated. -/
structure CheckpointSandboxRecreateWorkload where
  reference : Option String
  shared : Bool
  deriving DecidableEq

/-- The runtime ownership fields needed to remove one replaced image. The
workload's kind is always `legacy-dockerfile`. -/
structure CheckpointSandboxRecreateSourceWorkload where
  openshellDriver : Option String
  imageTag : String
  workload : Option CheckpointSandboxRecreateWorkload
  deriving DecidableEq

/-- The journal of one same-name sandbox replacement; its version is always 1. -/
structure CheckpointSandboxRecreateTransaction where
  id : String
  revision : Nat
  sandboxName : String
  gatewayName : String
  gatewayPort : Nat
  sourceRegistryFingerprint : String
  sourceLiveIdentityFingerprint : Option String
  sourceWorkload : Option CheckpointSandboxRecreateSourceWorkload
  targetIntentFingerprint : String
  targetGeneration : String
  targetLiveIdentityFingerprint : Option String
  phase : CheckpointSandboxRecreatePhase
  startedAt : String
  updatedAt : String
  deriving DecidableEq

/-- An onboarding checkpoint at `CHECKPOINT_SCHEMA_VERSION`, which is 3. -/
structure OnboardCheckpoint where
  sessionId : String
  machineState : OnboardMachineState
  updatedAt : String
  sandboxIdentity : CheckpointDecision CheckpointSandboxIdentity
  webSearch : CheckpointDecision WebSearchConfig
  messaging : CheckpointDecision CheckpointMessagingSelection
  resourceProfile : CheckpointDecision CheckpointResourceProfile
  gatewayAuthority : CheckpointDecision CheckpointGatewayAuthority
  effectGroups : CheckpointEffectGroupName → Option CheckpointEffectGroupRecord
  bindings : CheckpointBindings
  sandboxRecreate : Option CheckpointSandboxRecreateTransaction

/-- What a file reads as. -/
inductive CheckpointLoadResult where
  | none
  | loaded (checkpoint : OnboardCheckpoint)
  | migrated (checkpoint : OnboardCheckpoint) (fromVersion : Nat)
  | unsupportedFuture (foundVersion : Int)
  | corrupt

def WebSearchProvider.id : WebSearchProvider → String
  | brave => "brave"
  | tavily => "tavily"

def GatewaySupervisorKind.id : GatewaySupervisorKind → String
  | systemdSystem => "systemd-system"
  | systemdUser => "systemd-user"

def GatewayMode.id : GatewayMode → String
  | nemoclawManaged => "nemoclaw-managed"
  | externallySupervised => "externally-supervised"

def GatewaySource.id : GatewaySource → String
  | declared => "declared"
  | packagedService => "packaged-service"
  | standalone => "standalone"

def CheckpointSandboxRecreatePhase.id : CheckpointSandboxRecreatePhase → String
  | planned => "planned"
  | deleting => "deleting"
  | deleted => "deleted"
  | creating => "creating"
  | created => "created"
  | registryCommitting => "registry_committing"
  | completed => "completed"

/-- The position of a phase in `PHASE_ORDER`. -/
def CheckpointSandboxRecreatePhase.index : CheckpointSandboxRecreatePhase → Nat
  | planned => 0
  | deleting => 1
  | deleted => 2
  | creating => 3
  | created => 4
  | registryCommitting => 5
  | completed => 6

/-- The member of `all` whose identifier is the string read. -/
def readEnum {α : Type} (id : α → String) (all : List α) (v : Option Json) : Option α :=
  (readString v).bind fun s => all.find? fun a => id a == s

def readWebSearchProvider : Option Json → Option WebSearchProvider :=
  readEnum WebSearchProvider.id [.brave, .tavily]

def readGatewaySupervisorKind : Option Json → Option GatewaySupervisorKind :=
  readEnum GatewaySupervisorKind.id [.systemdSystem, .systemdUser]

def readGatewayMode : Option Json → Option GatewayMode :=
  readEnum GatewayMode.id [.nemoclawManaged, .externallySupervised]

def readGatewaySource : Option Json → Option GatewaySource :=
  readEnum GatewaySource.id [.declared, .packagedService, .standalone]

def readSandboxRecreatePhase : Option Json → Option CheckpointSandboxRecreatePhase :=
  readEnum CheckpointSandboxRecreatePhase.id
    [.planned, .deleting, .deleted, .creating, .created, .registryCommitting, .completed]

/-! ## The parser -/

def nameMaxLength : Nat := 19

def isNameChar (c : Char) : Bool := isLower c || isDigit c || c == '-'

def noDoubleDash : List Char → Bool
  | '-' :: '-' :: _ => false
  | _ :: rest => noDoubleDash rest
  | [] => true

/-- `NAME_VALID_PATTERN`: a lower-case letter, then letters, digits and single
inner dashes. -/
def nameValidPattern (s : String) : Bool :=
  noDoubleDash s.toList && s.toList.all isNameChar && s.toList.head?.any isLower &&
    s.toList.getLast?.any (· != '-')

def isValidSandboxName (s : String) : Bool :=
  decide (jsLength s ≤ nameMaxLength) && nameValidPattern s

/-- A time as the date API writes it. -/
def readCanonicalIsoTimestamp (v : Option Json) : Option String :=
  (readString v).filter fun s => isCanonicalIsoTimestamp s

/-- A decision, with a reader for its value. -/
def parseCheckpointDecision {α : Type} (parseValue : Option Json → Option α)
    (raw : Option Json) : Option (CheckpointDecision α) := do
  let raw ← readObject raw
  let kind ← readString (raw.get? "kind")
  if kind = "unset" then some .unset
  else if kind = "declined" then some .declined
  else if kind = "selected" then (parseValue (raw.get? "value")).map .selected
  else none

def parseSandboxIdentityValue (value : Option Json) : Option CheckpointSandboxIdentity := do
  let value ← readObject value
  let name ← readString (value.get? "name")
  let agent ← readString (value.get? "agent")
  guard (agent ≠ "")
  guard (isValidSandboxName name)
  return { name, agent }

def parseResourceProfileValue (value : Option Json) : Option CheckpointResourceProfile := do
  let value ← readObject value
  let cpu ← readString (value.get? "cpu")
  let memory ← readString (value.get? "memory")
  return { cpu, memory }

/-- `normalizeWebSearchConfig`: an absent provider becomes Brave, an unknown one
is refused. -/
def normalizeWebSearchConfig (config : Option Json) : Option WebSearchConfig := do
  let config ← readObject config
  guard (isTrue (config.get? "fetchEnabled"))
  match config.get? "provider" with
  | none => some { fetchEnabled := true, provider := some .brave }
  | some p =>
    (readWebSearchProvider (some p)).map fun provider =>
      { fetchEnabled := true, provider := some provider }

def parseMessagingValue (value : Option Json) : Option CheckpointMessagingSelection := do
  let value ← readObject value
  let selectedChannels ← readAllStrings (value.get? "selectedChannels")
  let disabledChannels ← readAllStrings (value.get? "disabledChannels")
  return { selectedChannels, disabledChannels }

def parseEffectGroupRecord (value : Option Json) : Option CheckpointEffectGroupRecord := do
  let value ← readObject value
  let completedAt ← readCanonicalIsoTimestamp (value.get? "completedAt")
  let fingerprint ← readNonEmpty (value.get? "fingerprint")
  return { completedAt, fingerprint }

/-- One entry of `parseEffectGroups`: an absent group is skipped, a present one
must parse. -/
def parseEffectGroup (value : Json) (name : CheckpointEffectGroupName) :
    Option (Option CheckpointEffectGroupRecord) :=
  match value.get? name.key with
  | none => some none
  | some raw => (parseEffectGroupRecord (some raw)).map some

/-- The records of all groups. -/
def parseEffectGroups (value : Option Json) :
    Option (CheckpointEffectGroupName → Option CheckpointEffectGroupRecord) := do
  let value ← readObject value
  let webSearchProvider ← parseEffectGroup value .webSearchProvider
  let messagingProviders ← parseEffectGroup value .messagingProviders
  let sandboxCreate ← parseEffectGroup value .sandboxCreate
  let sandboxRegister ← parseEffectGroup value .sandboxRegister
  return fun
    | .webSearchProvider => webSearchProvider
    | .messagingProviders => messagingProviders
    | .sandboxCreate => sandboxCreate
    | .sandboxRegister => sandboxRegister

def parseProviderBinding (value : Option Json) : Option CheckpointProviderBinding := do
  let value ← readObject value
  let name ← readNonEmpty (value.get? "name")
  let type ← readNonEmpty (value.get? "type")
  let credentialEnv ← readNonEmpty (value.get? "credentialEnv")
  return { name, type, credentialEnv }

def parseProviderBindings : Option Json → Option (List CheckpointProviderBinding)
  | some (.arr xs) => xs.mapM fun x => parseProviderBinding (some x)
  | _ => none

def parseBindings (value : Option Json) : Option CheckpointBindings := do
  let value ← readObject value
  let credentialEnvs ← readAllStrings (value.get? "credentialEnvs")
  let registeredProviders ← parseProviderBindings (value.get? "registeredProviders")
  return { credentialEnvs, registeredProviders }

def isAlphaNum (c : Char) : Bool := isDigit c || isLower c || ('A' ≤ c && c ≤ 'Z')

/-- `/^[A-Za-z0-9][A-Za-z0-9:_.@-]*\.service$/`. -/
def isServiceName (s : String) : Bool :=
  match s.toList with
  | [] => false
  | c :: rest =>
    isAlphaNum c && rest.all (fun d => isAlphaNum d || d ∈ [':', '_', '.', '@', '-']) &&
      ".service".toList.isSuffixOf rest

/-- The service of a gateway, with the path of what it runs. -/
def parseGatewaySupervisor (value : Option Json) : Option CheckpointGatewaySupervisor := do
  let value ← readObject value
  let kind ← readGatewaySupervisorKind (value.get? "kind")
  let serviceName ← readString (value.get? "serviceName")
  guard (isServiceName serviceName)
  let execPath ← readString (value.get? "execPath")
  guard (isAbsolutePath execPath)
  return { kind, serviceName, execPath }

def defaultGatewayPort : Nat := 8080

/-- The name of the gateway on a port. -/
def canonicalGatewayName (gatewayPort : Nat) : String :=
  if gatewayPort = defaultGatewayPort then "nemoclaw" else "nemoclaw-" ++ toString gatewayPort

/-- An integer from 1 to 65535. -/
def readPort (v : Option Json) : Option Nat :=
  (readNat v).filter fun n => 1 ≤ n && n ≤ 65535

/-- What a gateway can be recorded to do. -/
def supportedGatewayCapabilities : List String :=
  ["gateway.health", "sandbox.create", "sandbox.exec", "gpu.passthrough"]

/-- The checks on the parsed endpoint of an externally supervised gateway. -/
def isLoopbackEndpoint (u : Url) : Bool :=
  u.isHttp && u.hostname ∈ ["127.0.0.1", "[::1]", "::1"] && u.username == "" &&
    u.password == "" && u.search == "" && u.hash == "" &&
    (u.pathname == "" || u.pathname == "/")

/-- The port an endpoint names, or its scheme's default. -/
def endpointPort (u : Url) : Option Nat :=
  if u.port ≠ "" then u.port.toNat?
  else if u.protocol = "https:" then some 443 else some 80

/-- The gateway of a file, under its canonical name. -/
def parseGatewayAuthorityValue (urls : UrlApi) (value : Option Json) :
    Option CheckpointGatewayAuthority := do
  let value ← readObject value
  let gatewayName ← readString (value.get? "gatewayName")
  let gatewayPort ← readPort (value.get? "gatewayPort")
  guard (gatewayName = canonicalGatewayName gatewayPort)
  let mode ← readGatewayMode (value.get? "mode")
  let source ← readGatewaySource (value.get? "source")
  let requiredCapabilities ← readAllStrings (value.get? "requiredCapabilities")
  guard (∀ c ∈ requiredCapabilities, c ∈ supportedGatewayCapabilities)
  match mode with
  | .nemoclawManaged =>
    guard (readString (value.get? "endpoint") = none)
    guard (readString (value.get? "stateDir") = none)
    guard (isNull (value.get? "supervisor"))
    return { gatewayName, gatewayPort, mode, source, endpoint := none, stateDir := none,
             supervisor := none, requiredCapabilities }
  | .externallySupervised =>
    guard (source = .declared)
    let endpoint ← readNonEmpty (value.get? "endpoint")
    let stateDir ← readString (value.get? "stateDir")
    guard (isAbsolutePath stateDir)
    let parsedEndpoint ← urls.parse endpoint
    guard (isLoopbackEndpoint parsedEndpoint)
    guard (endpointPort parsedEndpoint = some gatewayPort)
    let supervisor ← parseGatewaySupervisor (value.get? "supervisor")
    return { gatewayName, gatewayPort, mode, source, endpoint := some parsedEndpoint.origin,
             stateDir := some stateDir, supervisor := some supervisor, requiredCapabilities }

/-- `SHA256_PATTERN`. -/
def isSha256 (s : String) : Bool := isLowerHexOf 64 s

/-- `null`, a SHA-256 digest, or `undefined`. -/
def readNullableSha256 : Option Json → Option (Option String)
  | some .null => some none
  | some (.str s) => if isSha256 s then some (some s) else none
  | _ => none

/-- A bounded string without NUL, CR or LF, as the predicate on it. -/
def isBoundedJournalString (maxLength : Nat) (s : String) : Bool :=
  s != "" && decide (jsLength s ≤ maxLength) &&
    s.toList.all fun c => c != '\x00' && c != '\r' && c != '\n'

def readBoundedJournalString (v : Option Json) (maxLength : Nat) : Option String :=
  (readString v).filter fun s => isBoundedJournalString maxLength s

/-- `/^[a-z0-9][a-z0-9._-]*$/u`. -/
def isDriverName (s : String) : Bool :=
  s.toList.all (fun c => isLower c || isDigit c || c ∈ ['.', '_', '-']) &&
    s.toList.head?.any (fun c => isLower c || isDigit c)

/-- `null`, or a bounded driver name. -/
def readOpenshellDriver : Option Json → Option (Option String)
  | some .null => some none
  | v => (readBoundedJournalString v 128).bind fun s =>
      if isDriverName s then some (some s) else none

/-- `null`, or a bounded string equal to the image tag. -/
def readWorkloadReference (imageTag : String) : Option Json → Option (Option String)
  | some .null => some none
  | v => (readBoundedJournalString v 4096).bind fun s =>
      if s = imageTag then some (some s) else none

/-- The image of a recreation, which its tag has to fit. -/
def parseRecreateWorkload (imageTag : String) :
    Option Json → Option (Option CheckpointSandboxRecreateWorkload)
  | some .null => some none
  | v => do
    let v ← readObject v
    guard (readString (v.get? "kind") = some "legacy-dockerfile")
    let shared ← readBool (v.get? "shared")
    let reference ← readWorkloadReference imageTag (v.get? "reference")
    return some { reference, shared }

/-- Journals written before the source-workload receipt remain resumable: an
absent value reads as `null`. -/
def parseSandboxRecreateSourceWorkload :
    Option Json → Option (Option CheckpointSandboxRecreateSourceWorkload)
  | none => some none
  | some .null => some none
  | v => do
    let v ← readObject v
    let openshellDriver ← readOpenshellDriver (v.get? "openshellDriver")
    let imageTag ← readBoundedJournalString (v.get? "imageTag") 4096
    let workload ← parseRecreateWorkload imageTag (v.get? "workload")
    return some { openshellDriver, imageTag, workload }

/-- The recreation that is under way, if it is well formed. -/
def parseSandboxRecreateTransaction (value : Option Json) :
    Option CheckpointSandboxRecreateTransaction := do
  let value ← readObject value
  guard (readNat (value.get? "version") = some 1)
  let id ← readString (value.get? "id")
  guard (isUuid id)
  let sandboxName ← readString (value.get? "sandboxName")
  guard (isValidSandboxName sandboxName)
  let gatewayName ← readString (value.get? "gatewayName")
  let gatewayPort ← readPort (value.get? "gatewayPort")
  guard (gatewayName = canonicalGatewayName gatewayPort)
  let sourceRegistryFingerprint ← readString (value.get? "sourceRegistryFingerprint")
  guard (isSha256 sourceRegistryFingerprint)
  let sourceLiveIdentityFingerprint ←
    readNullableSha256 (value.get? "sourceLiveIdentityFingerprint")
  let sourceWorkload ← parseSandboxRecreateSourceWorkload (value.get? "sourceWorkload")
  let targetIntentFingerprint ← readString (value.get? "targetIntentFingerprint")
  guard (isSha256 targetIntentFingerprint)
  let targetGeneration ← readString (value.get? "targetGeneration")
  guard (isUuid targetGeneration)
  let targetLiveIdentityFingerprint ←
    readNullableSha256 (value.get? "targetLiveIdentityFingerprint")
  let phase ← readSandboxRecreatePhase (value.get? "phase")
  let revision ← readSafeNat (value.get? "revision")
  let startedAt ← readCanonicalIsoTimestamp (value.get? "startedAt")
  let updatedAt ← readCanonicalIsoTimestamp (value.get? "updatedAt")
  return { id, revision, sandboxName, gatewayName, gatewayPort, sourceRegistryFingerprint,
           sourceLiveIdentityFingerprint, sourceWorkload, targetIntentFingerprint,
           targetGeneration, targetLiveIdentityFingerprint, phase, startedAt, updatedAt }

/-- `null`, or a transaction. -/
def readSandboxRecreate : Option Json → Option (Option CheckpointSandboxRecreateTransaction)
  | some .null => some none
  | v => (parseSandboxRecreateTransaction v).map some

/-- The cross-field rule of `parseSchema`: a journal belongs to the selected
sandbox and gateway. -/
def recreateMatches (c : OnboardCheckpoint) (t : CheckpointSandboxRecreateTransaction) : Bool :=
  match c.sandboxIdentity, c.gatewayAuthority with
  | .selected identity, .selected authority =>
    identity.name == t.sandboxName && authority.gatewayName == t.gatewayName &&
      authority.gatewayPort == t.gatewayPort
  | _, _ => false

/-- A checkpoint of the current version. -/
def parseSchema (urls : UrlApi) (value : Json) (gatewayAuthorityRaw sandboxRecreateRaw :
    Option Json) : Option OnboardCheckpoint := do
  let sessionId ← readString (value.get? "sessionId")
  let updatedAt ← readCanonicalIsoTimestamp (value.get? "updatedAt")
  let machineState ← readMachineState (value.get? "machineState")
  let sandboxIdentity ←
    parseCheckpointDecision parseSandboxIdentityValue (value.get? "sandboxIdentity")
  let webSearch ← parseCheckpointDecision normalizeWebSearchConfig (value.get? "webSearch")
  let messaging ← parseCheckpointDecision parseMessagingValue (value.get? "messaging")
  let resourceProfile ←
    parseCheckpointDecision parseResourceProfileValue (value.get? "resourceProfile")
  let gatewayAuthority ←
    parseCheckpointDecision (parseGatewayAuthorityValue urls) gatewayAuthorityRaw
  let effectGroups ← parseEffectGroups (value.get? "effectGroups")
  let bindings ← parseBindings (value.get? "bindings")
  let sandboxRecreate ← readSandboxRecreate sandboxRecreateRaw
  let checkpoint : OnboardCheckpoint :=
    { sessionId, machineState, updatedAt, sandboxIdentity, webSearch, messaging,
      resourceProfile, gatewayAuthority, effectGroups, bindings, sandboxRecreate }
  guard (sandboxRecreate.all (recreateMatches checkpoint))
  return checkpoint

def checkpointSchemaVersion : Nat := 3

/-- A parse under an older or the current schema, as a load result. -/
def loadResultOf (onSome : OnboardCheckpoint → CheckpointLoadResult) :
    Option OnboardCheckpoint → CheckpointLoadResult
  | some checkpoint => onSome checkpoint
  | none => .corrupt

/-- `inspectCheckpoint` once the schema version is known to be an integer. -/
def inspectVersion (urls : UrlApi) (raw : Json) (version : Int) : CheckpointLoadResult :=
  if version < 1 then .corrupt
  else if version > 3 then .unsupportedFuture version
  else if version = 3 then
    loadResultOf .loaded
      (parseSchema urls raw (raw.get? "gatewayAuthority") (raw.get? "sandboxRecreate"))
  else if version = 2 then
    loadResultOf (.migrated · 2)
      (parseSchema urls raw (raw.get? "gatewayAuthority") (some .null))
  else
    loadResultOf (.migrated · 1)
      (parseSchema urls raw (some (.obj [("kind", .str "unset")])) (some .null))

/-- What a file is, by its version. -/
def inspectCheckpoint (urls : UrlApi) : Option Json → CheckpointLoadResult
  | none => .none
  | some .null => .none
  | some (.obj fields) =>
    match readInteger ((Json.obj fields).get? "schemaVersion") with
    | none => .corrupt
    | some version => inspectVersion urls (.obj fields) version
  | some _ => .corrupt

/-- `parseStoredCheckpoint`: only a checkpoint of the current schema is kept. -/
def parseStoredCheckpoint (urls : UrlApi) (value : Option Json) : Option OnboardCheckpoint :=
  match inspectCheckpoint urls value with
  | .loaded checkpoint => some checkpoint
  | _ => none

end NemoClaw.Onboard
