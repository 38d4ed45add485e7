import NemoClaw.Blueprint.OpenShell

/- Applying a blueprint, and rolling a run back.

An apply creates a sandbox, an inference provider and perhaps a runtime identity, which
is a provider that is attached to the sandbox; what it has created it writes to the plan
of its run. An apply that fails takes back what it created as far as it can. A rollback
removes what the plan records.

Correspondence (nemoclaw/src/blueprint/runner.ts and runtime-identity.ts ↔ Lean): the
functions keep their names, and the long ones are cut into parts in the order of the
source. How the output of an inspection is read is left open (`Readers`), and so is all
that is checked without a command: the profile and its endpoints (`resolved`), the
profile of the identity and the environment (`prepared`). The clock, the texts of
progress and the policy additions in the plan are left out.
-/
namespace NemoClaw.Runner

open Js CallTree

/-- The profile of the blueprint as it is resolved; the endpoint is already validated, and
the credential is empty if there is none. -/
structure InferenceConfig where
  providerName : Option String
  providerType : Option String
  endpoint : Option String
  model : Option String
  credential : String
  timeoutSecs : Option ℕ

/-- The sandbox of a blueprint, as far as it is given. -/
structure SandboxConfig where
  name : Option String
  image : Option String
  forwardPorts : Option (List ℕ)

/-- `RuntimeIdentityConfig`, as far as commands and plan are made from it. -/
structure RuntimeIdentityConfig where
  providerType : String
  providerName : String
  credentialKey : String
  /-- what is checked before the first command -/
  prepared : Except String Unit

/-- A blueprint that has been read and resolved. -/
structure Blueprint where
  resolved : Except String Unit
  inference : InferenceConfig
  sandbox : SandboxConfig
  identity : Option RuntimeIdentityConfig
  hasPolicyAdditions : Bool

/-- What the inference route is bound to. -/
structure RouteBinding where
  provider : String
  model : String
  timeoutSeconds : Option ℕ

structure Readers where
  /-- `assertReusableRuntimeIdentitySandbox` -/
  sandboxReusable (expectedName output : String) : Bool
  /-- `assertReusableInferenceProvider` -/
  providerReusable (name type : String) (requiresEndpointConfig requiresCredential : Bool)
    (output : String) : Bool
  /-- `parseInferenceRouteBinding` -/
  routeBinding (output : String) : Option RouteBinding
  /-- `isUnconfiguredInferenceRoute` -/
  routeUnconfigured (output : String) : Bool
  /-- the setting in `requireProviderDerivedPolicy` -/
  providersV2Enabled (output : String) : Bool
  /-- the comparison in `assertMatchingProvider` -/
  providerMatches (providerType providerName credentialKey output : String) : Bool
  /-- the comparison of an exported profile with the requested one -/
  profileMatches (output : String) : Bool
  /-- `mergePolicyAdditions` -/
  policyMerges (currentPolicy : String) : Except String Unit
  boundedCommandError (output : String) : String
  diagnosticPreview (value : String) : String

/-! ## Names -/

def isLetter (c : Char) : Bool := isLower c || ('A' ≤ c && c ≤ 'Z')

def isValidName (s : String) : Bool :=
  match s.toList with
  | c :: rest =>
    isLower c && rest.all (fun c => isLower c || isDigit c || c == '-') &&
      rest.getLast? ≠ some '-' && !((c :: rest).tails.any fun t => t.take 2 == ['-', '-']) &&
      rest.length < 19
  | [] => false

/-- `isValidProviderName`, and `PROVIDER_NAME_PATTERN`. -/
def isValidProviderName (s : String) : Bool :=
  match s.toList with
  | c :: rest =>
    isLetter c && rest.all (fun c => isLetter c || isDigit c || c ∈ ['.', '_', '-']) &&
      rest.length ≤ 127
  | [] => false

/-- `PROVIDER_TYPE_PATTERN`. -/
def isProviderType (s : String) : Bool :=
  match s.toList with
  | c :: rest =>
    isLower c && rest.all (fun c => isLower c || isDigit c || c ∈ ['.', '_', '-']) &&
      rest.length ≤ 63
  | [] => false

/-- `ENV_NAME_PATTERN`. -/
def isEnvName (s : String) : Bool :=
  match s.toList with
  | c :: rest =>
    ('A' ≤ c && c ≤ 'Z') && rest.all (fun c => ('A' ≤ c && c ≤ 'Z') || isDigit c || c == '_') &&
      rest.length ≤ 255
  | [] => false

/-- `isRuntimeIdentityReceipt`, and the same fields in `isRuntimeIdentityConfig`. -/
def isIdentity (providerType providerName credentialKey : String) : Bool :=
  isProviderType providerType && isValidProviderName providerName && isEnvName credentialKey

/-- The receipt names a runtime identity. -/
def RuntimeIdentityReceipt.isExact (receipt : RuntimeIdentityReceipt) : Bool :=
  isIdentity receipt.providerType receipt.providerName receipt.credentialKey

/-- The name of a sandbox. -/
def assertValidName (rd : Readers) (value label : String) : Except String Unit :=
  if isValidName value then .ok ()
  else .error ("Invalid " ++ label ++ ": " ++ rd.diagnosticPreview value ++ ". Allowed format: " ++
    "1-19 characters, lowercase, starts with a letter, " ++
    "letters/numbers/single internal hyphens only, ends with letter/number.")

/-- The name of a provider. -/
def assertValidProviderName (rd : Readers) (value label : String) : Except String Unit :=
  if isValidProviderName value then .ok ()
  else .error ("Invalid " ++ label ++ ": " ++ rd.diagnosticPreview value ++ ". Allowed format: " ++
    "1-128 characters, starts with a letter, letters/numbers/dots/underscores/hyphens only.")

namespace Blueprint

def sandboxName (b : Blueprint) : String := b.sandbox.name.getD "openclaw"

def sandboxImage (b : Blueprint) : String := b.sandbox.image.getD "openclaw"

def forwardPorts (b : Blueprint) : List ℕ := b.sandbox.forwardPorts.getD [18789]

def providerName (b : Blueprint) : String := b.inference.providerName.getD "default"

def providerType (b : Blueprint) : String := b.inference.providerType.getD "openai"

def endpoint (b : Blueprint) : String := b.inference.endpoint.getD ""

def model (b : Blueprint) : String := b.inference.model.getD ""

end Blueprint

/-- The blueprint resolves, and its sandbox has a valid name. -/
def resolveRunConfig (rd : Readers) (b : Blueprint) : Except String Unit := do
  b.resolved
  match b.sandbox.name with
  | some name => assertValidName rd name "sandbox name"
  | none => .ok ()
  match b.inference.providerName with
  | some name => assertValidProviderName rd name "provider name"
  | none => .ok ()

/-- `buildPersistedRunPlan`. The provider is recorded as the profile names it. -/
def buildPersistedRunPlan (b : Blueprint) (v : Vars) : Plan where
  sandboxName := b.sandboxName
  sandboxCreatedByApply := v.sandboxCreatedByApply
  inferenceProviderCreatedByApply := v.inferenceProviderCreatedByApply
  inferenceProviderName := b.inference.providerName
  identity := v.runtimeIdentityReceipt

/-- The plan of the run is written with what has been created so far. -/
def persistRunPlan (r : RunId) (b : Blueprint) : Prog Unit := do
  let v ← getVars
  writePlan r (buildPersistedRunPlan b v)

section Identity

variable (rd : Readers) (r : RunId)

/-- The gateway is one that derives policies from providers. -/
def requireProviderDerivedPolicy : Prog Unit := do
  let result ← runCmd r .settingsGet
  if result.exitCode ≠ 0 then
    throw ("Failed to inspect OpenShell provider-policy prerequisite: " ++
      rd.boundedCommandError result.commandOutput)
  else if rd.providersV2Enabled result.stdout then return ()
  else throw ("Runtime identity requires OpenShell global setting 'providers_v2_enabled=true' " ++
    "so the attached provider's enforced network policy and credential injection are active")

/-- The provider is there and matches, or it is absent. -/
def inspectProvider (receipt : RuntimeIdentityReceipt) : Prog Bool := do
  let result ← runCmd r (.providerGet receipt.providerName)
  if result.isMissingResource then return false
  else if result.exitCode ≠ 0 then
    throw ("Failed to inspect runtime identity provider '" ++ receipt.providerName ++ "': " ++
      rd.boundedCommandError result.commandOutput)
  else if rd.providerMatches receipt.providerType receipt.providerName receipt.credentialKey
      result.commandOutput then return true
  else throw ("Runtime identity provider '" ++ receipt.providerName ++
    "' exists with an incompatible non-secret binding")

/-- The identity's provider is deleted, if it is still ours. -/
def deleteCreatedProvider (receipt : RuntimeIdentityReceipt) : Prog Unit := do
  if ← inspectProvider rd r receipt then
    let result ← runCmd r (.providerDelete receipt.providerName)
    if result.exitCode ≠ 0 ∧ ¬result.isMissingResource then
      throw ("Failed to delete runtime identity provider '" ++ receipt.providerName ++ "': " ++
        rd.boundedCommandError result.commandOutput)
    else return ()
  else return ()

/-- The preparation failed: its provider goes again. -/
def compensatePreparationFailure (receipt : RuntimeIdentityReceipt) (message : String) :
    Prog Unit := do
  tryCatch (deleteCreatedProvider rd r receipt) fun cleanupMessage =>
    throw (message ++ "; cleanup failed: " ++ cleanupMessage)
  throw message

/-- The profile of the identity is imported, unless it is there already. -/
def importProfile (config : RuntimeIdentityConfig) : Prog Unit := do
  let imported ← runCmd r .profileImport
  if imported.exitCode = 0 then return ()
  else if !alreadyExistsPattern imported.commandOutput then
    throw ("Failed to import runtime identity provider profile: " ++
      rd.boundedCommandError imported.commandOutput)
  else
    let exported ← runCmd r (.profileExport config.providerType)
    if exported.exitCode ≠ 0 then
      throw ("Failed to inspect existing runtime identity provider profile: " ++
        rd.boundedCommandError exported.commandOutput)
    else if rd.profileMatches exported.stdout then return ()
    else throw ("Runtime identity provider profile '" ++ config.providerType ++
      "' exists with an incompatible binding")

/-- `persistReceipt`: the receipt becomes that of the apply, and is written to the plan. -/
def persistReceipt (b : Blueprint) (receipt : RuntimeIdentityReceipt) : Prog Unit := do
  let v ← getVars
  setVars { v with runtimeIdentityReceipt := some receipt }
  persistRunPlan r b

/-- The provider's credential is configured and minted. -/
def configureRefresh (receipt : RuntimeIdentityReceipt) : Prog Unit := do
  let refreshed ← runCmd r (.refreshConfigure receipt.providerName receipt.credentialKey)
  if refreshed.exitCode ≠ 0 then
    throw ("Failed to configure runtime identity credential refresh: " ++
      rd.boundedCommandError refreshed.commandOutput)
  else
    let rotated ← runCmd r (.refreshRotate receipt.providerName receipt.credentialKey)
    if rotated.exitCode ≠ 0 then
      throw ("Failed to mint runtime identity credential: " ++
        rd.boundedCommandError rotated.commandOutput)
    else return ()

/-- What a run keeps of the identity that it creates. -/
def RuntimeIdentityConfig.receipt (config : RuntimeIdentityConfig) : RuntimeIdentityReceipt where
  providerType := config.providerType
  providerName := config.providerName
  credentialKey := config.credentialKey
  providerCreated := true
  attachmentCreated := false

/-- The provider is created; from then on a failure deletes it again. -/
def acquireProvider (b : Blueprint) (config : RuntimeIdentityConfig) : Prog Unit := do
  let created ← runCmd r
    (.providerCreate config.providerName config.providerType ["--runtime-credentials"])
  if created.exitCode ≠ 0 then
    throw ("Failed to create runtime identity provider '" ++ config.providerName ++ "': " ++
      rd.boundedCommandError created.commandOutput)
  else
    tryCatch
      (do
        persistReceipt r b config.receipt
        configureRefresh rd r config.receipt)
      fun message => compensatePreparationFailure rd r config.receipt message

/-- The identity's provider is created and checked. -/
def prepareRuntimeIdentity (b : Blueprint) (config : RuntimeIdentityConfig) :
    Prog RuntimeIdentityReceipt := do
  if !isIdentity config.providerType config.providerName config.credentialKey then
    throw "Runtime identity configuration is invalid"
  else
    Tree.lift config.prepared
    requireProviderDerivedPolicy rd r
    if ← inspectProvider rd r config.receipt then
      throw ("Runtime identity provider '" ++ config.providerName ++
        "' already exists and cannot be safely " ++
        "reused because its prior refresh configuration cannot be restored")
    else
      importProfile rd r config
      acquireProvider rd r b config
      return config.receipt

/-- The identity is attached; the answer is whether it now is. -/
def attachRuntimeIdentity (receipt : RuntimeIdentityReceipt) (sandboxName : String) :
    Prog Bool := do
  requireProviderDerivedPolicy rd r
  if ← inspectProvider rd r receipt then
    let attached ← runCmd r (.attach sandboxName receipt.providerName)
    if attached.exitCode = 0 then return true
    else if alreadyAttachedPattern attached.commandOutput then return false
    else throw ("Failed to attach runtime identity provider '" ++ receipt.providerName ++ "': " ++
      rd.boundedCommandError attached.commandOutput)
  else throw ("Runtime identity provider '" ++ receipt.providerName ++
    "' disappeared before attach")

/-- The identity is detached, if it is attached. -/
def detachRuntimeIdentity (receipt : RuntimeIdentityReceipt) (sandboxName : String) :
    Prog Unit := do
  if ← inspectProvider rd r receipt then
    let detached ← runCmd r (.detach sandboxName receipt.providerName)
    if detached.exitCode ≠ 0 ∧ ¬detached.isMissingResource ∧
        ¬notAttachedPattern detached.commandOutput then
      throw ("Failed to detach runtime identity provider '" ++ receipt.providerName ++ "': " ++
        rd.boundedCommandError detached.commandOutput)
    else return ()
  else return ()

/-- `removeRuntimeIdentity`, and `compensateRuntimeIdentityApply`. -/
def removeRuntimeIdentity (receipt : RuntimeIdentityReceipt) (sandboxName : String) :
    Prog Unit := do
  if receipt.attachmentCreated then detachRuntimeIdentity rd r receipt sandboxName
  if receipt.providerCreated then deleteCreatedProvider rd r receipt

end Identity

/-! ## Apply -/

section Apply

variable (rd : Readers) (r : RunId) (b : Blueprint)

/-- The sandbox that is there is the one asked for, and ready. -/
def assertReusableRuntimeIdentitySandbox (output : String) : Prog Unit :=
  if rd.sandboxReusable b.sandboxName output then return ()
  else throw ("Sandbox '" ++ b.sandboxName ++ "' is not reusable for runtime identity apply: " ++
    "expected exact name and Ready phase, received " ++ rd.boundedCommandError output)

/-- The provider that is there has the binding asked for. -/
def assertReusableInferenceProvider (output : String) : Prog Unit :=
  if rd.providerReusable b.providerName b.providerType (b.endpoint ≠ "")
      (b.inference.credential ≠ "") output then return ()
  else throw ("Inference provider '" ++ b.providerName ++
    "' does not match the requested non-secret binding; refusing runtime identity apply")

/-- Before the identity: whether the sandbox is there to be reused. -/
def inspectSandbox : Prog Bool := do
  let result ← runCmd r (.sandboxGet b.sandboxName)
  if result.exitCode = 0 then
    assertReusableRuntimeIdentitySandbox rd b result.stdout
    return true
  else if missingSandboxInspectionPattern result.inspectionOutput then return false
  else throw ("Failed to inspect sandbox '" ++ b.sandboxName ++
    "' before runtime identity apply: " ++ rd.boundedCommandError result.inspectionOutput)

/-- Before the identity: whether the inference provider is there to be reused. -/
def inspectInferenceProvider : Prog Bool := do
  let result ← runCmd r (.providerGet b.providerName)
  if result.exitCode = 0 then
    assertReusableInferenceProvider rd b result.stdout
    return true
  else if missingProviderInspectionPattern result.inspectionOutput then return false
  else throw ("Failed to inspect inference provider '" ++ b.providerName ++
    "' before runtime identity apply: " ++ rd.boundedCommandError result.inspectionOutput)

/-- Before the identity: whether the route is the requested one. -/
def inspectInferenceRoute : Prog Bool := do
  let result ← runCmd r .inferenceGet
  if result.exitCode ≠ 0 then
    throw ("Failed to inspect the active inference route before runtime identity apply: " ++
      rd.boundedCommandError result.inspectionOutput)
  else
    match rd.routeBinding result.stdout with
    | some route =>
      return route.provider == b.providerName && route.model == b.model &&
        (b.inference.timeoutSecs == none || route.timeoutSeconds == b.inference.timeoutSecs)
    | none =>
      if rd.routeUnconfigured result.stdout then return false
      else throw ("Failed to parse the active inference route before runtime identity apply: " ++
        rd.boundedCommandError result.inspectionOutput)

/-- What was found before the run, and is left. -/
structure Reuse where
  sandbox : Bool
  inferenceProvider : Bool
  inferenceRoute : Bool

/-- The identity is prepared, after what there is has been looked at. -/
def configureIdentity : Prog Reuse := do
  match b.identity with
  | none => return ⟨false, false, false⟩
  | some config =>
    let reuseSandbox ← inspectSandbox rd r b
    let reuseProvider ← inspectInferenceProvider rd r b
    let reuseRoute ←
      if reuseSandbox && reuseProvider then inspectInferenceRoute rd r b else pure false
    persistRunPlan r b
    let receipt ← prepareRuntimeIdentity rd r b config
    let v ← getVars
    setVars { v with runtimeIdentityReceipt := some receipt }
    persistRunPlan r b
    return ⟨reuseSandbox, reuseProvider, reuseRoute⟩

/-- Someone else has created the sandbox meanwhile. -/
def reuseRacedSandbox : Prog Unit := do
  if b.identity.isSome then
    let raced ← runCmd r (.sandboxGet b.sandboxName)
    if raced.exitCode ≠ 0 then
      throw ("Failed to inspect sandbox '" ++ b.sandboxName ++ "' after concurrent creation: " ++
        rd.boundedCommandError raced.inspectionOutput)
    else assertReusableRuntimeIdentitySandbox rd b raced.stdout
  else return ()

/-- The sandbox is created, and the run notes that. -/
def createSandbox : Prog Unit := do
  let created ← runCmd r (.sandboxCreate b.sandboxImage b.sandboxName b.forwardPorts)
  if created.exitCode = 0 then
    let v ← getVars
    setVars { v with sandboxCreatedByApply := true }
    persistRunPlan r b
  else if containsText "already exists" created.stderr.toList then reuseRacedSandbox rd r b
  else throw ("Failed to create sandbox: " ++ created.stderr)

/-- Someone else has created the provider meanwhile. -/
def reuseRacedProvider : Prog Unit := do
  if b.identity.isSome then
    let raced ← runCmd r (.providerGet b.providerName)
    if raced.exitCode ≠ 0 then
      throw ("Failed to inspect inference provider '" ++ b.providerName ++
        "' after concurrent creation: " ++ rd.boundedCommandError raced.inspectionOutput)
    else assertReusableInferenceProvider rd b raced.stdout
  else return ()

/-- The options that a provider is created with. -/
def inferenceProviderOptions : List String :=
  (if b.inference.credential ≠ "" then ["--credential", "OPENAI_API_KEY"] else []) ++
    (if b.endpoint ≠ "" then ["--config", "OPENAI_BASE_URL=" ++ b.endpoint] else [])

/-- The provider is created, and the run notes that. -/
def createInferenceProvider : Prog Unit := do
  let created ← runCmd r
    (.providerCreate b.providerName b.providerType (inferenceProviderOptions b))
  if created.exitCode ≠ 0 then
    if containsText "already exists" created.stderr.toList then reuseRacedProvider rd r b
    else throw ("Failed to create inference provider '" ++ b.providerName ++ "': " ++
      rd.boundedCommandError created.stderr)
  else
    let v ← getVars
    setVars { v with inferenceProviderCreatedByApply := true }
    persistRunPlan r b

/-- The route is set to the provider and the model. -/
def setInferenceRoute : Prog Unit := do
  let result ← runCmd r (.inferenceSet b.providerName b.model b.inference.timeoutSecs)
  if result.exitCode ≠ 0 then
    throw ("Failed to set inference route (provider '" ++ b.providerName ++ "', model '" ++
      b.model ++ "'): " ++ rd.boundedCommandError result.stderr)
  else return ()

/-- The identity of the run is attached, if it has one. -/
def attachIdentity : Prog Unit := do
  let v ← getVars
  match v.runtimeIdentityReceipt with
  | none => return ()
  | some receipt =>
    let sandbox ← runCmd r (.sandboxGet b.sandboxName)
    if sandbox.exitCode ≠ 0 then
      throw ("Failed to inspect sandbox '" ++ b.sandboxName ++
        "' immediately before runtime identity attachment: " ++
        rd.boundedCommandError sandbox.inspectionOutput)
    else
      assertReusableRuntimeIdentitySandbox rd b sandbox.stdout
      let attached ← attachRuntimeIdentity rd r receipt b.sandboxName
      setVars { v with
        runtimeIdentityReceipt := some { receipt with attachmentCreated := attached } }
      persistRunPlan r b

/-- The additions are merged into the policy of the sandbox. -/
def applyPolicyAdditions : Prog Unit := do
  if b.hasPolicyAdditions then
    let current ← runCmd r (.policyGet b.sandboxName)
    if current.exitCode ≠ 0 then
      throw ("Failed to read current policy before applying additions: " ++ current.stderr)
    else
      Tree.lift (rd.policyMerges current.stdout)
      let applied ← runCmd r (.policySet b.sandboxName)
      if applied.exitCode ≠ 0 then
        throw ("Failed to apply policy additions: " ++ applied.stderr)
      else return ()
  else return ()

/-- What is tried. -/
def applySteps : Prog Unit := do
  let reuse ← configureIdentity rd r b
  if reuse.sandbox then pure () else createSandbox rd r b
  if reuse.inferenceProvider then pure () else createInferenceProvider rd r b
  if reuse.inferenceRoute then pure () else setInferenceRoute rd r b
  attachIdentity rd r b
  applyPolicyAdditions rd r b
  persistRunPlan r b

/-- The identity is taken back; what fails is returned. -/
def cleanupIdentity : Prog (List String) := do
  let v ← getVars
  match v.runtimeIdentityReceipt with
  | none => return []
  | some receipt =>
    tryCatch
      (do
        removeRuntimeIdentity rd r receipt b.sandboxName
        setVars { v with
          runtimeIdentityReceipt :=
            some { receipt with providerCreated := false, attachmentCreated := false } }
        persistRunPlan r b
        return [])
      fun message => return [message]

/-- A sandbox that the run created is removed; what fails is reported. -/
def cleanupSandbox : Prog (List String) := do
  let v ← getVars
  if v.sandboxCreatedByApply then
    let _ ← runCmd r (.sandboxStop b.sandboxName)
    let removed ← runCmd r (.sandboxRemove b.sandboxName)
    if removed.exitCode = 0 ∨ missingSandboxPattern removed.stderr then
      setVars { v with sandboxCreatedByApply := false }
      persistRunPlan r b
      return []
    else return ["Failed to remove sandbox '" ++ b.sandboxName ++ "': " ++
      rd.boundedCommandError removed.stderr]
  else return []

/-- A provider that the run created is deleted, once no sandbox of the run is left. -/
def cleanupInferenceProvider : Prog (List String) := do
  let v ← getVars
  if v.inferenceProviderCreatedByApply && !v.sandboxCreatedByApply then
    let removed ← runCmd r (.providerDelete b.providerName)
    if removed.exitCode = 0 ∨ missingProviderInspectionPattern removed.stderr then
      setVars { v with inferenceProviderCreatedByApply := false }
      persistRunPlan r b
      return []
    else return ["Failed to remove inference provider '" ++ b.providerName ++ "': " ++
      rd.boundedCommandError removed.stderr]
  else return []

/-- What is done when the steps have failed. -/
def applyCleanup (message : String) : Prog Unit := do
  let identity ← cleanupIdentity rd r b
  let sandbox ← cleanupSandbox rd r b
  let provider ← cleanupInferenceProvider rd r b
  if identity ++ sandbox ++ provider = [] then throw message
  else throw (message ++ "; cleanup failed: " ++ "; ".intercalate (identity ++ sandbox ++ provider))

/-- The blueprint is applied, and what was created goes again if that fails. -/
def actionApply : Prog Unit := do
  Tree.lift (resolveRunConfig rd b)
  setVars ⟨none, false, false⟩
  tryCatch (applySteps rd r b) fun message => applyCleanup rd r b message

end Apply

section Rollback

variable (rd : Readers) (r : RunId)

/-- The plan names the sandbox. -/
def readRollbackSandboxName (p : Plan) : Except String Unit := do
  if jsTrim p.sandboxName = "" then
    .error "rollback plan sandbox_name must be a non-empty string"
  else assertValidName rd p.sandboxName "sandbox name"

/-- The plan names the provider that the run owned. -/
def readRollbackInferenceProviderName (p : Plan) : Except String String :=
  match p.inferenceProviderName with
  | none => .error ("rollback plan inference.provider_name must be a non-empty string " ++
      "for an owned provider")
  | some name =>
    if jsTrim name = "" then
      .error ("rollback plan inference.provider_name must be a non-empty string " ++
        "for an owned provider")
    else do
      assertValidProviderName rd name "rollback inference provider name"
      return name

/-- The name of the inference provider that is to be removed, if one is. -/
def readRollbackPlan (p : Plan) : Except String (Option String) := do
  readRollbackSandboxName rd p
  let providerName ←
    if p.inferenceProviderCreatedByApply then some <$> readRollbackInferenceProviderName rd p
    else .ok none
  if p.identity.all (·.isExact) then return providerName
  else .error "identity ownership receipt is invalid"

/-- The error with what it is about. -/
def cannotRead {α : Type} : Except String α → Except String α
  | .ok a => .ok a
  | .error detail => .error ("Cannot read rollback plan for run: " ++ detail)

/-- The identity of the plan is removed, if there is one. -/
def rollbackIdentity (plan : Plan) : Prog Unit :=
  match plan.identity with
  | none => return ()
  | some receipt => removeRuntimeIdentity rd r receipt plan.sandboxName

/-- The sandbox is removed, if the run created it. -/
def rollbackSandbox (plan : Plan) : Prog Unit := do
  if plan.sandboxCreatedByApply then
    let stop ← runCmd r (.sandboxStop plan.sandboxName)
    let removed ← runCmd r (.sandboxRemove plan.sandboxName)
    if removed.exitCode ≠ 0 ∧ ¬missingSandboxPattern removed.stderr then
      let stopFailure := if stop.exitCode ≠ 0 ∧ ¬missingSandboxPattern stop.stderr then
        "; sandbox stop also failed: " ++ rd.boundedCommandError stop.stderr else ""
      throw ("Failed to remove owned sandbox '" ++ plan.sandboxName ++ "': " ++
        rd.boundedCommandError removed.stderr ++ stopFailure)
    else return ()
  else return ()

/-- The provider is deleted, if the run owned one. -/
def rollbackInferenceProvider : Option String → Prog Unit
  | none => return ()
  | some providerName => do
    let removed ← runCmd r (.providerDelete providerName)
    if removed.exitCode ≠ 0 ∧ ¬missingProviderInspectionPattern removed.stderr then
      throw ("Failed to remove owned inference provider '" ++ providerName ++ "': " ++
        rd.boundedCommandError removed.stderr)
    else return ()

/-- A run without a plan is not found, or its plan cannot be read. -/
def actionRollback : Prog Unit := do
  match ← readPlan r with
  | none => throw "Cannot read rollback plan for run: no such file"
  | some plan =>
    let providerName ← Tree.lift (cannotRead (readRollbackPlan rd plan))
    rollbackIdentity rd r plan
    rollbackSandbox rd r plan
    rollbackInferenceProvider rd r providerName
    writeRolledBack r

end Rollback

end NemoClaw.Runner
