import NemoClaw.Js.Text
import NemoClaw.Js.Json
import NemoClaw.Lib.Outcomes

/- The switch of a sandbox to another inference route.

The gateway has a set of providers and one selection, the registry a row for the sandbox,
and the sandbox its configuration with a hash. A switch creates the provider before the
selection or updates it after, then writes the registry row, and the configuration last.

Correspondence (actions/inference-set.ts and inference-set-provider.ts ↔ Lean): functions
keep their names. `Prepared` is what the steps before the first change come to: they read
only. `Readers` has what is read of the output of a command. What the route metadata is
resolved to, and what the patch makes of the configuration, is in `Prepared` too. An
error that is no `InferenceSetError` has exit code 1. Log lines are left out.
-/
namespace NemoClaw.InferenceSet

open Js CallTree

/-! ## Data -/

/-- What the gateway routes to. -/
structure Selection where
  provider : String
  model : String
  deriving DecidableEq

/-- The protocol a provider speaks. -/
inductive ProviderType where
  | openai
  | anthropic
  deriving DecidableEq

/-- `InferenceSetProviderBinding`. -/
structure ProviderBinding where
  providerType : ProviderType
  credentialEnv : String
  token : String
  baseUrl : String
  deriving DecidableEq

/-- How a provider of a type is set up. -/
structure ProviderSurface where
  type : String
  configKey : String

/-- The surface of a provider's type. -/
def providerSurface (binding : ProviderBinding) : ProviderSurface :=
  match binding.providerType with
  | .anthropic => ⟨"anthropic", "ANTHROPIC_BASE_URL"⟩
  | .openai => ⟨"openai", "OPENAI_BASE_URL"⟩

/-- What the gateway tells of a provider. -/
structure GatewayProviderMetadata where
  name : String
  type : String
  credentialKeys : List String
  configKeys : List String

/-- `CaptureOpenshellResult`; no status where the command was killed. -/
structure CaptureOpenshellResult where
  status : Option ℤ
  stdout : String
  stderr : String

/-- The command exited with 0. -/
def CaptureOpenshellResult.Succeeded (result : CaptureOpenshellResult) : Prop :=
  result.status = some 0

instance (result : CaptureOpenshellResult) : Decidable result.Succeeded :=
  inferInstanceAs (Decidable (_ = _))

/-- What is read of the output of a command. -/
structure Readers where
  parseGatewayProviderMetadata : CaptureOpenshellResult → Option GatewayProviderMetadata
  /-- the ID of a provider, and its resource version -/
  parseProviderVersion : CaptureOpenshellResult → Option (String × ℕ)
  providerLookupReportsNotFound : CaptureOpenshellResult → String → Bool
  openshellReportsProviderNotFound : CaptureOpenshellResult → String → Bool
  /-- the message for a failed selection, with the list of providers if that was asked for -/
  buildFailureMessage : CaptureOpenshellResult → Option CaptureOpenshellResult → String

/-- An error, with the exit code it leads to. -/
structure Failure where
  message : String
  exitCode : ℤ
  deriving DecidableEq

/-- `InferenceSelection`, as it is in the registry row, less `compatibleEndpointReasoning`,
which a switch always clears. -/
structure InferenceSelection where
  provider : Option String
  model : Option String
  endpointUrl : Option String
  endpointSource : Option String
  credentialEnv : Option String
  preferredInferenceApi : Option String
  compatibleEndpointReasoningEffort : Option String
  nimContainer : Option String
  deriving DecidableEq

/-- The effort that was asked for, or the default. -/
structure ReasoningEffortRequest where
  effort : Option String
  explicit : Bool

/-- What the registry keeps of a selection's endpoint. -/
structure RegistryInferenceMetadata where
  endpointUrl : Option String
  endpointSource : Option String
  credentialEnv : Option String
  preferredInferenceApi : Option String
  nimContainer : Option String

/-- What `patchHermesInferenceConfig` or `patchOpenClawInferenceConfig` makes of the
configuration: whether it changed, and the configuration. -/
structure Patched where
  changed : Bool
  config : Json

/-- What the switch knows before its first change. -/
structure Prepared where
  sandboxName : String
  gatewayName : String
  hermes : Bool
  /-- the registry row as it was read -/
  entry : InferenceSelection
  provider : String
  model : String
  /-- `trimRequired` -/
  provider_trimmed : jsTrim provider = provider
  provider_nonempty : provider ≠ ""
  model_trimmed : jsTrim model = model
  model_nonempty : model ≠ ""
  effectiveNoVerify : Bool
  directProviderBinding : Option ProviderBinding
  httpsPinProviderBinding : Option ProviderBinding
  reasoningEffortRequest : ReasoningEffortRequest
  registryMetadata : RegistryInferenceMetadata
  /-- what `resolveAgentInferenceApi` makes of the metadata -/
  registryInferenceApi : Option String
  /-- the explicit API, or what `resolveRuntimeInferenceApi` finds in the configuration -/
  preferredInferenceApi : Option String
  /-- the HTTPS pin route that the switch supersedes -/
  supersededHttpsPinRouteId : Option String
  patched : Except Failure Patched

namespace Prepared

variable (p : Prepared)

/-- The selection that was asked for. -/
def requested : Selection := ⟨p.provider, p.model⟩

/-- `httpsPinProviderBinding ?? directProviderBinding`. -/
def providerBinding : Option ProviderBinding := p.httpsPinProviderBinding.or p.directProviderBinding

/-- `previousProvider` and `previousModel`. -/
def previous : Selection :=
  ⟨(p.entry.provider.map jsTrim).getD "", (p.entry.model.map jsTrim).getD ""⟩

end Prepared

/-- The commands that the gateway is given. -/
inductive Command where
  | providerGet (name : String)
  | providerCreate (name : String) (binding : ProviderBinding)
  | providerUpdate (name : String) (binding : ProviderBinding)
  | providerDelete (name : String)
  | providerList
  | inferenceSet (selection : Selection) (noVerify : Bool)

/-- What the switch asks of its host. -/
inductive Call where
  | openshell (command : Command)
  | updateSandbox (fields : InferenceSelection)
  | writeSandboxConfig (config : Json)
  | recomputeSandboxConfigHash
  /-- whether the dashboard profile converged or there is none -/
  | seedHermesDashboardConfig
  | revokeHttpsPinRuntimeAdapterRoute (routeId : String)
  | updateMatchingOnboardSession
  | appendAuditEntry

/-- All but a command can throw. -/
def Call.Answer : Call → Type
  | openshell _ => CaptureOpenshellResult
  | updateSandbox _ => Except Failure Bool
  | writeSandboxConfig _ => Except Failure Unit
  | recomputeSandboxConfigHash => Except Failure Unit
  | seedHermesDashboardConfig => Except Failure Bool
  | revokeHttpsPinRuntimeAdapterRoute _ => Except Failure Bool
  | updateMatchingOnboardSession => Except Failure Bool
  | appendAuditEntry => Except Failure Unit

/-- The switch as a tree of calls. -/
abbrev Program (α : Type) := Tree Call Call.Answer Failure α

/-- A command is run; the answer is how it ended. -/
def captureOpenshell (command : Command) : Program CaptureOpenshellResult :=
  Tree.ask (Call.openshell command)

/-- The registry row is updated; the answer is whether there was one. -/
def updateSandbox (fields : InferenceSelection) : Program Bool := do
  let answer ← Tree.ask (Call.updateSandbox fields)
  .lift answer

/-- The sandbox's config is written, or it fails. -/
def writeSandboxConfig (config : Json) : Program Unit := do
  let answer ← Tree.ask (Call.writeSandboxConfig config)
  .lift answer

/-- The hash of the config is written, or it fails. -/
def recomputeSandboxConfigHash : Program Unit := do
  let answer ← Tree.ask Call.recomputeSandboxConfigHash
  .lift answer

/-- The dashboard of a Hermes agent is set up. -/
def seedHermesDashboardConfig : Program Bool := do
  let answer ← Tree.ask Call.seedHermesDashboardConfig
  .lift answer

/-- The onboarding session follows, if it is of this sandbox. -/
def updateMatchingOnboardSession : Program Bool := do
  let answer ← Tree.ask Call.updateMatchingOnboardSession
  .lift answer

/-- An entry is added to the audit log. -/
def appendAuditEntry : Program Unit := do
  let answer ← Tree.ask Call.appendAuditEntry
  .lift answer

/-! ## The provider -/

/-- What looking up a provider shows. -/
inductive ProviderObservation where
  | absent
  | present (id : String) (resourceVersion : ℕ) (metadata : GatewayProviderMetadata)
  | error (status : Option ℤ)

variable (readers : Readers)

/-- What the answer to a lookup means. -/
def observe (name : String) (result : CaptureOpenshellResult) : ProviderObservation :=
  if ¬result.Succeeded then
    if readers.providerLookupReportsNotFound result name then .absent else .error result.status
  else
    match readers.parseGatewayProviderMetadata result, readers.parseProviderVersion result with
    | some metadata, some (id, version) => .present id version metadata
    | _, _ => .error result.status

/-- The provider is looked up. -/
def inspectProvider (name : String) : Program ProviderObservation := do
  let result ← captureOpenshell (.providerGet name)
  return observe readers name result

/-- `matchesGatewayProviderBinding`, with `expectedShape` of the binding. -/
def matchesBinding (metadata : GatewayProviderMetadata) (name : String)
    (binding : ProviderBinding) : Bool :=
  metadata.name = name && metadata.type = (providerSurface binding).type &&
    metadata.credentialKeys = [binding.credentialEnv] &&
    metadata.configKeys = [(providerSurface binding).configKey]

/-- What is done to the provider. -/
inductive Action where
  | create
  | update
  deriving DecidableEq

/-- The action as messages name it. -/
def Action.text : Action → String
  | create => "create"
  | update => "update"

/-- The exit status as messages name it. -/
def statusText (status : Option ℤ) : String := (status.map toString).getD "unknown"

/-- A provider that is there has to be one that this command may change. -/
def assertProviderOwnership (observation : ProviderObservation) (name : String)
    (binding : ProviderBinding) : Except Failure Action :=
  match observation with
  | .absent => .ok .create
  | .error status => .error ⟨"Could not inspect provider '" ++ name ++ "' (status " ++
      statusText status ++ "); no provider mutation was attempted.", 1⟩
  | .present _ _ metadata =>
    if matchesBinding metadata name binding then .ok .update
    else .error ⟨"Refusing to replace provider '" ++ name ++
      "': its live binding is malformed, foreign, or does not match this sandbox's durable " ++
      "custom-endpoint provenance. Re-run onboarding to reconcile the provider safely.", 2⟩

/-- `mutationArgs`. -/
def mutationCommand (action : Action) (name : String) (binding : ProviderBinding) : Command :=
  match action with
  | .create => .providerCreate name binding
  | .update => .providerUpdate name binding

/-- `prepareInferenceSetProviderBinding`: what is to be done, and what was there before. -/
structure ProviderMutation where
  action : Action
  before : ProviderObservation
  binding : ProviderBinding

/-- It is the same provider in a later version. -/
def sameProviderRaised (before : ProviderObservation) (id : String) (version : ℕ) : Bool :=
  match before with
  | .present id' version' _ => id = id' && version' < version
  | _ => false

/-- The provider is what the mutation was to make of it. -/
def converged (m : ProviderMutation) (name : String) (after : ProviderObservation) : Bool :=
  match after with
  | .present id version metadata =>
    (m.action = .create || sameProviderRaised m.before id version) &&
      matchesBinding metadata name m.binding
  | _ => false

/-- The error of a provider command that failed. -/
def applyFailed (p : Prepared) (action : Action) (status : Option ℤ) : Failure :=
  ⟨"Failed to " ++ action.text ++ " provider '" ++ p.provider ++ "' on gateway '" ++
    p.gatewayName ++ "' (status " ++ statusText status ++ "). " ++
    "The provider command may have partially applied; retry this command or re-run onboarding " ++
    "to converge the requested binding.", 1⟩

/-- What the gateway shows after the command is not what was asked for. -/
def notConverged (p : Prepared) (action : Action) : Failure :=
  ⟨"Provider '" ++ p.provider ++ "' did not converge to the expected type and binding-key " ++
    "shape after " ++ action.text ++ ". " ++
    "Provider state may be partial; retry this command or re-run onboarding to reconcile it.", 1⟩

/-- The command succeeded and the provider is what it was to be. -/
def checkApplied (p : Prepared) (m : ProviderMutation) (result : CaptureOpenshellResult)
    (after : ProviderObservation) : Except Failure Unit :=
  if ¬result.Succeeded then .error (applyFailed p m.action result.status)
  else if converged m p.provider after then .ok ()
  else .error (notConverged p m.action)

/-- The provider command, and a look at what it did. -/
def applyMutation (p : Prepared) (m : ProviderMutation) : Program Unit := do
  let result ← captureOpenshell (mutationCommand m.action p.provider m.binding)
  let after ← inspectProvider readers p.provider
  .lift (checkApplied p m result after)

/-- A provider that is to be created is created at once. -/
def prepareInferenceSetProviderBinding (p : Prepared) (binding : ProviderBinding) :
    Program ProviderMutation := do
  let before ← inspectProvider readers p.provider
  let action ← Tree.lift (assertProviderOwnership before p.provider binding)
  match action with
  | .update => return ⟨.update, before, binding⟩
  | .create => do
    applyMutation readers p ⟨.create, before, binding⟩
    return ⟨.create, before, binding⟩

/-- After the selection an existing provider is updated. -/
def commit (p : Prepared) (m : ProviderMutation) : Program Unit :=
  match m.action with
  | .update => applyMutation readers p m
  | .create => return ()

/-- The created provider is not removed, as far as the gateway says. -/
def removalFailed (p : Prepared) : Failure :=
  ⟨"Failed to remove newly created provider '" ++ p.provider ++
    "' after inference selection failed.", 1⟩

/-- There is no such provider. -/
def isAbsent : ProviderObservation → Bool
  | .absent => true
  | _ => false

/-- The provider that was created is gone again. -/
def checkRemoved (p : Prepared) (result : CaptureOpenshellResult)
    (restored : ProviderObservation) : Except Failure Unit :=
  if ¬result.Succeeded ∨ ¬isAbsent restored then .error (removalFailed p) else .ok ()

/-- A provider that was created is deleted again. -/
def rollback (p : Prepared) (m : ProviderMutation) : Program Unit :=
  match m.action with
  | .update => return ()
  | .create => do
    let result ← captureOpenshell (.providerDelete p.provider)
    let restored ← inspectProvider readers p.provider
    .lift (checkRemoved p result restored)

/-- The string without blanks at its ends, unless it is empty. -/
def nullableString (value : Option String) : Option String :=
  (value.map jsTrim).filter (· ≠ "")

/-- The protocols that the registry may name. -/
def supportedInferenceApis : List String :=
  ["openai-completions", "anthropic-messages", "openai-responses"]

/-- A protocol, if it is one of these. -/
def nullableInferenceApi (value : Option String) : Option String :=
  (nullableString value).filter (· ∈ supportedInferenceApis)

/-- Who set the endpoint, if it is known. -/
def normalizeInferenceEndpointSource (value : Option String) : Option String :=
  value.filter (· ∈ ["onboard", "inference-set"])

/-- One of the three efforts, however it is written. -/
def normalizeReasoningEffort (value : Option String) : Option String :=
  (value.map fun effort => jsToLowerCase (jsTrim effort)).filter (· ∈ ["low", "medium", "high"])

/-- Only a compatible endpoint keeps an effort. -/
def nullableCompatibleEndpointReasoningEffort (provider value : Option String) : Option String :=
  if provider = some "compatible-endpoint" then normalizeReasoningEffort value else none

/-- `normalizeInferenceSelection`. -/
def inferenceSelectionRegistryFields (input : InferenceSelection) : InferenceSelection :=
  let provider := nullableString input.provider
  let endpointUrl := nullableString input.endpointUrl
  { provider
    model := nullableString input.model
    endpointUrl
    endpointSource :=
      if endpointUrl.isSome then normalizeInferenceEndpointSource input.endpointSource else none
    credentialEnv := nullableString input.credentialEnv
    preferredInferenceApi := nullableInferenceApi input.preferredInferenceApi
    compatibleEndpointReasoningEffort :=
      nullableCompatibleEndpointReasoningEffort provider input.compatibleEndpointReasoningEffort
    nimContainer := nullableString input.nimContainer }

/-- What the registry is told of the switch. -/
def registryFields (p : Prepared) (preferredInferenceApi : Option String) : InferenceSelection :=
  inferenceSelectionRegistryFields
    { provider := some p.provider
      model := some p.model
      endpointUrl := p.registryMetadata.endpointUrl
      endpointSource := p.registryMetadata.endpointSource
      credentialEnv := p.registryMetadata.credentialEnv
      preferredInferenceApi
      compatibleEndpointReasoningEffort :=
        if p.provider = "compatible-endpoint" ∧ preferredInferenceApi = some "openai-completions"
        then
          if p.reasoningEffortRequest.explicit then p.reasoningEffortRequest.effort
          else p.entry.compatibleEndpointReasoningEffort
        else none
      nimContainer := p.registryMetadata.nimContainer }

/-! ## The switch -/

/-- The fields in which the registry differs from the binding. -/
def recordedDirectProviderBindingMismatches (p : Prepared) (binding : ProviderBinding) :
    List String :=
  (if p.entry.provider = some p.provider then [] else ["provider"]) ++
    (if p.entry.endpointUrl = some binding.baseUrl then [] else ["endpoint URL"]) ++
    if p.entry.credentialEnv = some binding.credentialEnv then []
    else ["credential environment variable"]

/-- The row does not say what to restore. -/
def requirePrevious (p : Prepared) : Except Failure Unit :=
  if p.previous.provider = "" ∨ p.previous.model = "" then
    .error ⟨"Cannot update existing " ++
      (if p.httpsPinProviderBinding.isSome then "HTTPS-pinned " else "") ++ "provider '" ++
      p.provider ++ "' because sandbox '" ++ p.sandboxName ++ "' does not record the previous " ++
      "provider and model needed to restore its inference selection.", 2⟩
  else .ok ()

/-- An update of a provider that the row records already is none; a different one is
refused. -/
def checkDirectBinding (p : Prepared) (binding : ProviderBinding) : Except Failure Unit :=
  let mismatches := recordedDirectProviderBindingMismatches p binding
  if mismatches = [] then .ok ()
  else .error ⟨"Cannot replace existing provider '" ++ p.provider ++
    "' because the requested binding differs in: " ++ ", ".intercalate mismatches ++ ". " ++
    "OpenShell does not expose the previous provider configuration required for rollback. " ++
    "Re-run onboarding with the requested binding. If this sandbox already uses '" ++
    p.provider ++ "', omit the endpoint options to switch only the model.", 2⟩

/-- Before an update the recorded binding is compared, or the previous selection is known. -/
def checkMutation (p : Prepared) : Option ProviderMutation →
    Except Failure (Option ProviderMutation)
  | none => .ok none
  | some m =>
    match m.action, p.directProviderBinding with
    | .create, _ => .ok (some m)
    | .update, some binding => do
      checkDirectBinding p binding
      return none
    | .update, none => do
      requirePrevious p
      return some m

/-- The provider is created, or is left to be updated. -/
def prepareMutation (p : Prepared) : Program (Option ProviderMutation) :=
  match p.providerBinding with
  | none => return none
  | some binding => do return some (← prepareInferenceSetProviderBinding readers p binding)

/-- The gateway is told the selection. -/
def setInferenceRoute (p : Prepared) : Program CaptureOpenshellResult :=
  captureOpenshell (.inferenceSet p.requested p.effectiveNoVerify)

/-- A direct provider that was not found is tried a second time. -/
def retryNotFound (p : Prepared) (setResult : CaptureOpenshellResult) :
    Program CaptureOpenshellResult :=
  if ¬setResult.Succeeded ∧ p.directProviderBinding.isSome ∧
      readers.openshellReportsProviderNotFound setResult p.provider then setInferenceRoute p
  else return setResult

/-- `queryRegisteredGatewayProviders`, if the provider was not found. -/
def queryProviders (p : Prepared) (setResult : CaptureOpenshellResult) :
    Program (Option CaptureOpenshellResult) :=
  if readers.openshellReportsProviderNotFound setResult p.provider then do
    return some (← captureOpenshell .providerList)
  else return none

/-- `buildInferenceSetFailure`. -/
def throwSelectionFailure (p : Prepared) (setResult : CaptureOpenshellResult) : Program Unit := do
  let listed ← queryProviders readers p setResult
  throw ⟨readers.buildFailureMessage setResult listed, setResult.status.getD 1⟩

/-- The selection command. -/
def selectRoute (p : Prepared) : Program Unit := do
  let first ← setInferenceRoute p
  let setResult ← retryNotFound readers p first
  if setResult.Succeeded then return () else throwSelectionFailure readers p setResult

/-- There was a row to update. -/
def requireUpdated (p : Prepared) (updated : Bool) : Except Failure Unit :=
  if updated then .ok ()
  else .error ⟨"Failed to update NemoClaw registry for sandbox '" ++ p.sandboxName ++ "'.", 1⟩

/-- The registry is told of the switch. -/
def updateRegistry (p : Prepared) (preferredInferenceApi : Option String) : Program Unit := do
  let updated ← updateSandbox (registryFields p preferredInferenceApi)
  .lift (requireUpdated p updated)

/-- The route that the switch replaces is revoked. -/
def revokeSuperseded (p : Prepared) : Program Unit :=
  match p.supersededHttpsPinRouteId with
  | none => return ()
  | some routeId => do
    let _ ← Tree.ask (Call.revokeHttpsPinRuntimeAdapterRoute routeId)
    return ()

/-- Whether the hash could be written. -/
def recomputeHash : Program Bool := do
  match ← recomputeSandboxConfigHash.attempt with
  | .error _ => return false
  | .ok _ => return true

/-- `inSandboxConfigSynced`: failures are warnings. -/
def syncConfig (config : Json) : Program Bool := do
  match ← (writeSandboxConfig config).attempt with
  | .error _ => return false
  | .ok _ => recomputeHash

/-- `dashboardConverged`. -/
def seedDashboard (p : Prepared) (synced : Bool) : Program (Option Bool) :=
  if p.hermes ∧ synced then do return some (← seedHermesDashboardConfig) else return none

/-- `InferenceSetResult`. -/
structure Result where
  provider : String
  model : String
  configChanged : Bool
  sessionUpdated : Bool
  inSandboxConfigSynced : Bool
  dashboardConverged : Option Bool

/-- The steps after the registry rows. -/
def applyConfig (p : Prepared) : Program Result := do
  revokeSuperseded p
  let patched ← Tree.lift p.patched
  let synced ← syncConfig patched.config
  let dashboard ← seedDashboard p synced
  let sessionUpdated ← updateMatchingOnboardSession
  appendAuditEntry
  return ⟨p.provider, p.model, patched.changed, sessionUpdated, synced, dashboard⟩

/-- The steps after the selection and the provider. -/
def converge (p : Prepared) : Program Result := do
  updateRegistry p p.registryInferenceApi
  updateRegistry p p.preferredInferenceApi
  applyConfig p

/-- The error of a switch that failed and could not be taken back. -/
def rollbackFailed (e rollbackError : Failure) : Failure :=
  ⟨e.message ++ "\n  " ++ rollbackError.message ++
    " Re-run onboarding before retrying this switch.", e.exitCode⟩

/-- Nothing was changed, or nothing is any more. -/
def unchanged (m : ProviderMutation) (e : Failure) : Failure :=
  ⟨e.message ++ "\n  " ++
    (match m.action with
    | .create => "The newly created OpenShell provider was removed; the inference selection " ++
        "was not changed."
    | .update => "The existing OpenShell provider binding and inference selection were not " ++
        "changed."), e.exitCode⟩

/-- The catch block, before the selection. -/
def rollbackAndThrow {α : Type} (p : Prepared) (mutation : Option ProviderMutation)
    (e : Failure) : Program α :=
  match mutation with
  | none => throw e
  | some m => do
    match ← (rollback readers p m).attempt with
    | .error rollbackError => throw (rollbackFailed e rollbackError)
    | .ok _ => throw (unchanged m e)

/-- The catch block, after the selection. -/
def residual (p : Prepared) (appliedProvider : Bool) (e : Failure) : Failure :=
  ⟨e.message ++ "\n  " ++
    (if appliedProvider then
      if p.httpsPinProviderBinding.isSome then
        "The OpenShell provider and inference selection remain committed to the safer " ++
        "HTTPS-pinned adapter, but NemoClaw state may not have converged. Retry this command; " ++
        "if convergence still fails, rebuild the sandbox."
      else
        "The OpenShell provider and inference selection remain committed, but NemoClaw state " ++
        "may not have converged. Retry this command; if convergence still fails, rebuild the " ++
        "sandbox."
    else if p.httpsPinProviderBinding.isSome then
      "The inference selection changed, but the HTTPS-pinned provider binding did not " ++
      "converge. Retry this command immediately; if convergence still fails, rebuild the sandbox."
    else
      "The inference selection changed, but the OpenShell provider binding did not converge. " ++
      "Retry this command immediately; if convergence still fails, rebuild the sandbox."),
    e.exitCode⟩

/-- The previous selection could not be restored. -/
def restoreFailed (p : Prepared) (providerError : Failure) (status : Option ℤ) : Failure :=
  ⟨providerError.message ++ "\n  Failed to restore the previous OpenShell inference selection '" ++
    p.previous.provider ++ "' / '" ++ p.previous.model ++ "' (status " ++ statusText status ++
    "). The live selection and provider binding may be split; re-run onboarding before using " ++
    "this route.", providerError.exitCode⟩

/-- The error after the previous selection is back. -/
def restored (p : Prepared) (providerError : Failure) : Failure :=
  ⟨providerError.message ++
    "\n  The previous OpenShell inference selection was restored to '" ++ p.previous.provider ++
    "' / '" ++ p.previous.model ++ "'. Provider state may still be partial; retry this command " ++
    "or re-run onboarding to reconcile it.", providerError.exitCode⟩

/-- The previous selection is set again, and the switch fails. -/
def restoreSelection {α : Type} (p : Prepared) (m : ProviderMutation) (providerError : Failure) :
    Program α := do
  let restoreResult ← captureOpenshell (.inferenceSet p.previous true)
  if restoreResult.Succeeded then throw (restored p providerError)
  else throw (residual p (m.action = .create) (restoreFailed p providerError restoreResult.status))

/-- An error after the provider was applied. -/
def convergeOrThrow (p : Prepared) : Program Result := do
  match ← (converge p).attempt with
  | .error e => throw (residual p true e)
  | .ok result => return result

/-- What follows the selection: the provider, the registry, the sandbox. -/
def afterSelection (p : Prepared) (mutation : Option ProviderMutation) : Program Result :=
  match mutation with
  | none => converge p
  | some m => do
    match ← (commit readers p m).attempt with
    | .error providerError => restoreSelection p m providerError
    | .ok _ => convergeOrThrow p

/-- The selection, if the checks let it come to that. -/
def selectAndConverge (p : Prepared) (mutation : Option ProviderMutation) : Program Result := do
  match ← (selectRoute readers p).attempt with
  | .error e => rollbackAndThrow readers p mutation e
  | .ok _ => afterSelection readers p mutation

/-- The switch, with the host's lock held. -/
def runInferenceSetWithoutHostLock (p : Prepared) : Program Result := do
  let mutation ← prepareMutation readers p
  match checkMutation p mutation with
  | .error e => rollbackAndThrow readers p mutation e
  | .ok kept => selectAndConverge readers p kept

end NemoClaw.InferenceSet
