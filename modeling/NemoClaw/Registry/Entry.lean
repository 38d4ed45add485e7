import NemoClaw.Js.Call
import NemoClaw.Js.Object
import NemoClaw.Onboard.Session

/- The rows of the sandbox registry.

A row is the list of its own properties. This module holds what is done to one row:
how it is read from and written to the file, and the rows that registration and
route reservation make.

Correspondence (state/registry.ts, registry/persistence.ts, inference/selection.ts ↔
Lean): definitions keep the source's names. A property whose value is `undefined` is
left out, as it is from the file. The codecs of the structured fields (messaging,
workload receipts, MCP, baseline exclusions, custom policies) are the `RowFieldApi`
parameter; nothing here depends on what they accept.
-/
namespace NemoClaw

open Js Js.Json Onboard

/-- A registry row: its own properties. -/
abbrev SandboxEntry := List (String × Json)

/-- The codecs of a row's structured fields; `none` is `undefined`. -/
structure RowFieldApi where
  cloneSandboxMessagingState : Option Json → Except String (Option Json)
  serializeSandboxMessagingStateForDisk : Option Json → Except String (Option Json)
  cloneSandboxWorkloadReceipt : Option Json → Except String (Option Json)
  normalizeSandboxMcpState : Option Json → Except String (Option Json)
  serializeSandboxMcpStateForDisk : Option Json → Except String (Option Json)
  normalizeBaselineExclusions : Option Json → Except String (Option Json)
  normalizeBaselineExclusionTransition : Option Json → Except String (Option Json)
  normalizeCustomPolicyEntries : Option Json → Except String (Option Json)

/-- An entry as a caller passes it: its name and its other properties. -/
structure NamedEntry where
  name : String
  fields : SandboxEntry

def NamedEntry.toRow (entry : NamedEntry) : SandboxEntry := ("name", .str entry.name) :: entry.fields

namespace SandboxEntry

def isPendingRouteReservation (entry : SandboxEntry) : Bool :=
  Js.isTrue (entry.lookup "pendingRouteReservation")

/-- `Object.assign(row, updates)`; an update may be `undefined`. -/
def assign (row : SandboxEntry) (updates : List (String × Option Json)) : SandboxEntry :=
  updates.foldl (fun row update =>
    match update.2 with
    | some value => assignKey row update.1 value
    | none => deleteKey row update.1) row

end SandboxEntry

section Codec

variable (api : RowFieldApi)

def cloneSandboxWorkloadReceiptOrThrow (value : Option Json) (operation : String) :
    Except String (Option Json) := do
  let workload ← api.cloneSandboxWorkloadReceipt value
  require (value = none ∨ workload ≠ none)
    ("Cannot " ++ operation ++ " a sandbox entry with an invalid workload receipt")
  return workload

def cloneServingProfileProvenanceOrThrow (value : Option Json) (operation : String) :
    Except String (Option Json) := do
  let provenance := (parseServingProfileProvenance value).map Subtype.val
  require (value = none ∨ provenance ≠ none)
    ("Cannot " ++ operation ++ " a sandbox entry with invalid serving profile provenance")
  return provenance

/-- The fields that are taken apart and put back. -/
def structuredFields : List String :=
  ["messaging", "workload", "servingProfileProvenance", "mcp", "baselineExclusions",
    "baselineExclusionTransition", "customPolicies"]

def withStructuredFields (rest : SandboxEntry) (workload servingProfileProvenance messaging mcp
    baselineExclusions baselineExclusionTransition customPolicies : Option Json) :
    SandboxEntry :=
  rest ++ optField "workload" workload ++
    optField "servingProfileProvenance" servingProfileProvenance ++
    optField "messaging" messaging ++ optField "mcp" mcp ++
    optField "baselineExclusions" baselineExclusions ++
    optField "baselineExclusionTransition" baselineExclusionTransition ++
    optField "customPolicies" customPolicies

def normalizeSandboxEntryForRuntime (entry : SandboxEntry) : Except String SandboxEntry := do
  let messaging ← api.cloneSandboxMessagingState (entry.lookup "messaging")
  let workload ← cloneSandboxWorkloadReceiptOrThrow api (entry.lookup "workload") "load"
  let servingProfileProvenance ←
    cloneServingProfileProvenanceOrThrow (entry.lookup "servingProfileProvenance") "load"
  let mcp ← api.normalizeSandboxMcpState (entry.lookup "mcp")
  let baselineExclusions ← api.normalizeBaselineExclusions (entry.lookup "baselineExclusions")
  let baselineExclusionTransition ← api.normalizeBaselineExclusionTransition
    (entry.lookup "baselineExclusionTransition")
  let customPolicies ← api.normalizeCustomPolicyEntries (entry.lookup "customPolicies")
  let rest := entry.filter fun kv => kv.1 ∉ structuredFields
  return withStructuredFields rest workload servingProfileProvenance messaging mcp
    baselineExclusions baselineExclusionTransition customPolicies

/-- The row for the file: without transient markers, and with no dashboard as `null`. -/
def serializeSandboxEntryForDisk (entry : SandboxEntry) : Except String SandboxEntry := do
  let durable := entry.filter fun kv =>
    kv.1 ∉ ["recoveredFromGateway", "livePhase", "providerCredentialHashes"]
  let messaging ← api.serializeSandboxMessagingStateForDisk (durable.lookup "messaging")
  let workload ← cloneSandboxWorkloadReceiptOrThrow api (durable.lookup "workload") "save"
  let servingProfileProvenance ←
    cloneServingProfileProvenanceOrThrow (durable.lookup "servingProfileProvenance") "save"
  let mcp ← api.serializeSandboxMcpStateForDisk (durable.lookup "mcp")
  let baselineExclusions ← api.normalizeBaselineExclusions (durable.lookup "baselineExclusions")
  let baselineExclusionTransition ← api.normalizeBaselineExclusionTransition
    (durable.lookup "baselineExclusionTransition")
  let customPolicies ← api.normalizeCustomPolicyEntries (durable.lookup "customPolicies")
  let rest := durable.filter fun kv => kv.1 ∉ structuredFields
  let ported := if readNat (rest.lookup "dashboardPort") = some 0 then
    setOwn rest "dashboardPort" .null else rest
  return withStructuredFields ported workload servingProfileProvenance messaging mcp
    baselineExclusions baselineExclusionTransition customPolicies

end Codec

def nullableString (value : Option Json) : Option String :=
  ((readString value).map jsTrim).filter fun s => s ≠ ""

def supportedInferenceApis : List String :=
  ["openai-completions", "anthropic-messages", "openai-responses"]

def normalizeInferenceEndpointSource (value : Option Json) : Option String :=
  (readString value).filter fun s => s = "onboard" ∨ s = "inference-set"

/-- `normalizeInferenceSelection`, as properties. -/
def normalizeInferenceSelection (input : SandboxEntry) : SandboxEntry :=
  let provider := nullableString (input.lookup "provider")
  let endpointUrl := nullableString (input.lookup "endpointUrl")
  let compatible := provider = some "compatible-endpoint"
  let reasoning :=
    ((nullableString (input.lookup "compatibleEndpointReasoning")).map jsToLowerCase).filter
      fun s => s = "true" ∨ s = "false"
  let effort := (normalizeReasoningEffort
    (input.lookup "compatibleEndpointReasoningEffort")).map (·.id)
  [("provider", ofString? provider),
    ("model", ofString? (nullableString (input.lookup "model"))),
    ("endpointUrl", ofString? endpointUrl),
    ("endpointSource", ofString? (endpointUrl.bind fun _ =>
      normalizeInferenceEndpointSource (input.lookup "endpointSource"))),
    ("credentialEnv", ofString? (nullableString (input.lookup "credentialEnv"))),
    ("preferredInferenceApi", ofString?
      ((nullableString (input.lookup "preferredInferenceApi")).filter fun s =>
        s ∈ supportedInferenceApis)),
    ("compatibleEndpointReasoning", ofString? (if compatible then reasoning else none)),
    ("compatibleEndpointReasoningEffort", ofString? (if compatible then effort else none)),
    ("nimContainer", ofString? (nullableString (input.lookup "nimContainer")))]

def isDcodeAutoApprovalMode (value : Option Json) : Bool :=
  readString value = some "disabled" || readString value = some "thread-opt-in"

def copiedInstalls (value : Option Json) : Option Json :=
  match value with
  | some (.arr installs) => some (.arr installs)
  | _ => none

/-- The row that `registerSandbox` stores for an entry. -/
def registeredRow (api : RowFieldApi) (entry : SandboxEntry) (now : IsoTimestamp) :
    Except String SandboxEntry := do
  let provenance := (parseServingProfileProvenance (entry.lookup "servingProfileProvenance")).map
    Subtype.val
  require (entry.lookup "servingProfileProvenance" = none ∨ provenance ≠ none)
    "Cannot register a sandbox with invalid serving profile provenance"
  let field (key : String) : Option Json := entry.lookup key
  let orNull (key : String) : String × Json := (key, orElse (field key) .null)
  let exactlyTrue (key : String) : List (String × Json) :=
    optField key (if Js.isTrue (field key) then some (.bool true) else none)
  let defined (key : String) : List (String × Json) := optField key (nullish (field key) none)
  let boolean (key : String) : List (String × Json) :=
    optField key ((readBool (field key)).map .bool)
  let baselineExclusions ← api.normalizeBaselineExclusions (field "baselineExclusions")
  let baselineExclusionTransition ←
    api.normalizeBaselineExclusionTransition (field "baselineExclusionTransition")
  let workload ← api.cloneSandboxWorkloadReceipt (field "workload")
  let messaging ← api.cloneSandboxMessagingState (field "messaging")
  let mcp ← api.normalizeSandboxMcpState (field "mcp")
  return optField "name" (field "name") ++
    [("createdAt", orElse (field "createdAt") (.str now.val))] ++
    optField "servingProfileProvenance" provenance ++
    normalizeInferenceSelection entry ++
    [("gpuEnabled", orElse (field "gpuEnabled") (.bool false)),
      ("hostGpuDetected", .bool (Js.isTrue (field "hostGpuDetected"))),
      ("sandboxGpuEnabled", .bool (Js.isTrue (field "sandboxGpuEnabled"))),
      orNull "sandboxGpuMode", orNull "sandboxGpuDevice",
      ("sandboxGpuProof", (nullish (field "sandboxGpuProof") none).getD .null),
      orNull "openshellDriver", orNull "openshellVersion",
      ("policies", orElse (field "policies") (.arr []))] ++
    optField "baselineExclusions" baselineExclusions ++
    optField "baselineExclusionTransition" baselineExclusionTransition ++
    [orNull "policyTier"] ++
    boolean "webSearchEnabled" ++
    optField "toolDisclosure"
      ((normalizeToolDisclosure (field "toolDisclosure")).map fun d => .str d.id) ++
    boolean "observabilityEnabled" ++
    optField "dcodeAutoApprovalMode"
      (if isDcodeAutoApprovalMode (field "dcodeAutoApprovalMode") then
        field "dcodeAutoApprovalMode" else none) ++
    [("webSearchProvider",
      if Js.isTrue (field "webSearchEnabled") ∧
          (readString (field "webSearchProvider") = some "brave" ∨
            readString (field "webSearchProvider") = some "tavily") then
        (field "webSearchProvider").getD .null
      else .null),
      orNull "agent", orNull "agentVersion"] ++
    optField "openclawImagePluginInstalls"
      (copiedInstalls (field "openclawImagePluginInstalls")) ++
    [orNull "nemoclawVersion", orNull "fromDockerfile",
      ("hermesAuthMethod",
        if readString (field "hermesAuthMethod") = some "oauth" ∨
            readString (field "hermesAuthMethod") = some "api_key" then
          (field "hermesAuthMethod").getD .null
        else .null),
      orNull "imageTag"] ++
    optField "workload" workload ++
    optField "lifecycleGeneration" (field "lifecycleGeneration") ++
    optField "lifecycleLiveIdentityFingerprint" (field "lifecycleLiveIdentityFingerprint") ++
    optField "messaging" messaging ++ optField "mcp" mcp ++
    optField "hermesToolGateways"
      (match field "hermesToolGateways" with
        | some (.arr (gateway :: rest)) => some (.arr (gateway :: rest))
        | _ => none) ++
    exactlyTrue "hermesDashboardEnabled" ++ defined "hermesDashboardPort" ++
    defined "hermesDashboardInternalPort" ++ exactlyTrue "hermesDashboardTui" ++
    defined "dashboardPort" ++ exactlyTrue "dashboardRemoteBindPrepared" ++
    defined "gatewayName" ++ defined "gatewayPort"

/-- The row that `reserveSandboxInferenceRoute` stores over an existing one, if any. -/
def reservedRow (name : String) (existing : Option SandboxEntry) (route : SandboxEntry) :
    SandboxEntry :=
  let base := existing.getD [("name", .str name), ("pendingRouteReservation", .bool true)]
  let normalized := normalizeInferenceSelection route
  base.assign
    [("pendingRouteReservation", some (.bool true)),
      ("reservationSessionId", nullish (route.lookup "reservationSessionId")
        (existing.bind (·.lookup "reservationSessionId"))),
      ("provider", normalized.lookup "provider"),
      ("model", normalized.lookup "model"),
      ("endpointUrl", normalized.lookup "endpointUrl"),
      ("endpointSource", normalized.lookup "endpointSource"),
      ("credentialEnv", normalized.lookup "credentialEnv"),
      ("preferredInferenceApi", normalized.lookup "preferredInferenceApi"),
      ("gatewayName", route.lookup "gatewayName"),
      ("gatewayPort", none)]

end NemoClaw
