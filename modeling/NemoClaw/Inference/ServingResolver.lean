import NemoClaw.Inference.ManagedClusterTopology
import NemoClaw.Inference.ServingReadiness

/- The resolver of managed inference (`resolver.ts`), with what it uses of
`adapter-registry.ts`.

Correspondence (TypeScript ↔ Lean): functions keep their names, but for
`Adapters.registrationError` (`getManagedInferenceRecipeRegistrationError`).

An error that is thrown is the error of `Except`. The checks that the registered adapters
make of a recipe are the parameter `Adapters.validateRecipe`.
-/
namespace NemoClaw.Serving

open Js ClusterTopology

/-! ## The catalog -/

def MANAGED_CLUSTER_VLLM_MATERIALIZER_REF : String := "vllm.managed-cluster/v1"
def MANAGED_CLUSTER_VLLM_LIFECYCLE_REF : String := "vllm.managed-cluster.lifecycle/v1"
def HOST_LOCAL_VLLM_MATERIALIZER_REF : String := "vllm.host-local/v1"
def HOST_LOCAL_VLLM_LIFECYCLE_REF : String := "vllm.host-local.lifecycle/v1"
def LLAMA_CPP_HOST_LOCAL_MATERIALIZER_REF : String := "llama-cpp.host-local/v1"
def LLAMA_CPP_HOST_LOCAL_LIFECYCLE_REF : String := "llama-cpp.host-local.lifecycle/v1"
def SNAPSHOT_PREPARATION_REF : String := "snapshot-copy-and-exact-text-replacement/v1"
def NO_PREPARATION_REF : String := "none/v1"

/-- How a preset can be selected. -/
inductive SelectionPolicy where
  | automatic
  | explicitOnly
  | disabled
  deriving DecidableEq

/-- What a preset asks of the cluster. -/
inductive Requirement where
  | readiness (requirement : ReadinessRequirement)
  | fact (requirement : FactRequirement)
  | topologyQualification (id : String) (schemaVersion : ℚ) (status : String)

/-- A preset; `definition` is all of it, as its digest reads it. -/
structure Preset where
  id : String
  selection : SelectionPolicy
  priority : ℚ
  requirements : List Requirement
  backend : String
  recipeRef : String
  definition : Value

/-- The parts of a recipe that the resolver reads; `definition` is all of it. -/
structure Recipe where
  id : String
  backend : String
  modelId : String
  servedName : String
  materializerRef : String
  lifecycleRef : String
  preparationRef : Option String
  definition : Value

/-- The presets and recipes, under one digest. -/
structure Catalog where
  catalogDigest : String
  presets : List Preset
  recipes : List Recipe

/-- The recipe runs llama.cpp on the host. -/
def Recipe.isLlamaCpp (r : Recipe) : Bool :=
  r.backend == "install-llama-cpp" && r.materializerRef == LLAMA_CPP_HOST_LOCAL_MATERIALIZER_REF &&
    r.lifecycleRef == LLAMA_CPP_HOST_LOCAL_LIFECYCLE_REF

/-- The recipe runs vLLM on the host. -/
def Recipe.isHostLocal (r : Recipe) : Bool :=
  r.materializerRef == HOST_LOCAL_VLLM_MATERIALIZER_REF

/-- The recipe runs vLLM on a cluster. -/
def Recipe.isManagedCluster (r : Recipe) : Bool :=
  r.materializerRef == MANAGED_CLUSTER_VLLM_MATERIALIZER_REF

/-- The checks that the adapter of a reference makes of a recipe. -/
structure Adapters where
  validateRecipe : String → Recipe → Option String

/-- Why nothing is registered that can run the recipe. -/
def Adapters.registrationError (adapters : Adapters) (r : Recipe) : Option String :=
  if r.isLlamaCpp then none
  else if r.materializerRef ∉
      [MANAGED_CLUSTER_VLLM_MATERIALIZER_REF, HOST_LOCAL_VLLM_MATERIALIZER_REF] then
    some ("unknown materializer " ++ r.materializerRef)
  else if r.lifecycleRef ∉
      [MANAGED_CLUSTER_VLLM_LIFECYCLE_REF, HOST_LOCAL_VLLM_LIFECYCLE_REF] then
    some ("unknown lifecycle " ++ r.lifecycleRef)
  else
    let preparationRef := r.preparationRef.getD ""
    if preparationRef ∉ [NO_PREPARATION_REF, SNAPSHOT_PREPARATION_REF] then
      some ("unknown preparation " ++ if preparationRef = "" then "(missing)" else preparationRef)
    else ((adapters.validateRecipe r.materializerRef r).or
      (adapters.validateRecipe r.lifecycleRef r)).or (adapters.validateRecipe preparationRef r)

/-- `materializer?.topology ? 1 : 0`: only the materializer of a cluster has a topology. -/
def Recipe.expectedTopologyCount (r : Recipe) : ℕ := if r.isManagedCluster then 1 else 0

/-- What the user asks for. -/
structure Intent where
  provider : Option String
  vllmModel : Option String
  vllmExtraArguments : List String
  preset : Option String

/-- Nothing is asked for. -/
def Intent.none : Intent := ⟨.none, .none, [], .none⟩

/-- The input; a time or an age that is not finite is `some none`. -/
structure Input where
  readinessReports : List ReadinessSource
  topologyQualifications : List TopologyQualification
  intent : Option Intent
  now : Option (Option ℚ)
  maxReadinessAgeMs : Option (Option ℚ)

/-- `hasText(value)` of a text that may be missing. -/
def textOf (value : Option String) : Option String := value.filter hasText

/-- Something is asked for, but no preset. -/
def explicitIntentWithoutPreset (intent : Intent) : Bool :=
  (textOf intent.provider).isSome || (textOf intent.vllmModel).isSome ||
    !intent.vllmExtraArguments.isEmpty

/-- What the evaluation of a requirement, or of all of them, comes to. -/
inductive Evaluation (α : Type) where
  | matched (value : α)
  | unmet (message : String)
  | invalidTopology (message : String)
  | incompatibleIntent (message : String)

def TopologyStatus.text : TopologyStatus → String
  | .qualified => "qualified"
  | .unqualified => "unqualified"
  | .unknown => "unknown"

section Resolver

variable (host : Host) (adapters : Adapters)

/-- The qualifications of a kind. -/
def topologyMatches (id : String) (schemaVersion : ℚ) (artifacts : List TopologyQualification) :
    List TopologyQualification :=
  artifacts.filter fun a => a.id = id ∧ a.schemaVersion = schemaVersion

/-- The one qualification of the kind that covers the nodes, if there is one. -/
def evaluateTopologyRequirement (id : String) (schemaVersion : ℚ) (status : String)
    (artifacts : List TopologyQualification) (expectedSubjectNodeIds : List String) :
    Evaluation TopologyQualification :=
  if id ≠ TOPOLOGY_ID ∨ schemaVersion ≠ TOPOLOGY_SCHEMA_VERSION then
    .invalidTopology ("Topology qualification " ++ id ++ "@" ++ host.numberText schemaVersion ++
      " is not registered.")
  else match topologyMatches id schemaVersion artifacts with
  | [] => .unmet ("Topology requirement " ++ id ++ " did not match.")
  | [artifact] =>
    if TopologyStatus.text artifact.status ≠ status then
      .unmet ("Topology requirement " ++ id ++ " did not match.")
    else match getManagedClusterTopologyArtifactError host.isIP host.sha256 artifact
        (some expectedSubjectNodeIds) with
      | some error => .invalidTopology error
      | none => .matched artifact
  | _ => .invalidTopology ("Topology qualification " ++ id ++ " has more than one candidate.")

/-- Whether one requirement is met, and by which qualifications. -/
def evaluateRequirement (reports : List ReadinessSource) (artifacts : List TopologyQualification)
    (expectedSubjectNodeIds : List String) :
    Requirement → Evaluation (List TopologyQualification)
  | .readiness requirement =>
    if readinessRequirementMatches reports requirement then .matched []
    else .unmet ("Readiness requirement " ++ requirement.id ++ " did not match.")
  | .fact requirement =>
    if factRequirementMatches requirement reports then .matched []
    else .unmet ("Selection fact " ++ requirement.fact ++ " did not match.")
  | .topologyQualification id schemaVersion status =>
    match evaluateTopologyRequirement host id schemaVersion status artifacts
        expectedSubjectNodeIds with
    | .matched artifact => .matched [artifact]
    | .unmet message => .unmet message
    | .invalidTopology message => .invalidTopology message
    | .incompatibleIntent message => .incompatibleIntent message

/-- The loop over the requirements, which ends at the first that does not hold. -/
def evaluateEach (reports : List ReadinessSource) (artifacts : List TopologyQualification)
    (expectedSubjectNodeIds : List String) :
    List Requirement → Evaluation (List TopologyQualification)
  | [] => .matched []
  | requirement :: rest =>
    match evaluateRequirement host reports artifacts expectedSubjectNodeIds requirement with
    | .matched topologies =>
      match evaluateEach reports artifacts expectedSubjectNodeIds rest with
      | .matched more => .matched (topologies ++ more)
      | failed => failed
    | failed => failed

/-- All requirements of a preset. -/
def evaluateRequirements (preset : Preset) (reports : List ReadinessSource)
    (artifacts : List TopologyQualification) : Evaluation (List TopologyQualification) :=
  evaluateEach host reports artifacts (sortStrings (reports.map (·.nodeId))) preset.requirements

/-- In what a preset conflicts with what is asked for. -/
def intentCompatibilityError (intent : Intent) (preset : Preset) (recipe : Recipe) :
    Option String :=
  if (textOf intent.provider).any (· ≠ recipe.backend) then
    some ("provider " ++ intent.provider.getD "" ++ " conflicts with preset " ++ preset.id)
  else if (textOf intent.vllmModel).any fun m => m ≠ recipe.modelId ∧ m ≠ recipe.servedName then
    some ("model " ++ intent.vllmModel.getD "" ++ " conflicts with preset " ++ preset.id)
  else if !intent.vllmExtraArguments.isEmpty then
    some ("extra vLLM arguments conflict with preset " ++ preset.id)
  else none

/-- `Number.isSafeInteger(priority)`. -/
def isSafeInteger (q : ℚ) : Bool := q.den == 1 && decide (q.num.natAbs ≤ maxSafeInteger)

/-- The priority, which has to be an exact integer. -/
def presetPriority (preset : Preset) : Except String ℚ :=
  if isSafeInteger preset.priority then .ok preset.priority
  else .error ("managed inference preset " ++ preset.id ++ " has an invalid priority")

/-- The one recipe of a preset, for its backend and registered. -/
def recipeForPreset (catalog : Catalog) (preset : Preset) : Except String Recipe :=
  match catalog.recipes.filter fun r => r.id == preset.recipeRef with
  | [recipe] =>
    if recipe.backend ≠ preset.backend then
      .error ("managed inference preset " ++ preset.id ++ " backend does not match its recipe")
    else match adapters.registrationError recipe with
    | some error => .error ("managed inference recipe " ++ recipe.id ++ ": " ++ error)
    | none => .ok recipe
  | _ => .error ("managed inference preset " ++ preset.id ++
      " does not resolve exactly one recipe " ++ preset.recipeRef)

/-- A preset that matches, with its recipe. -/
structure Candidate where
  preset : Preset
  presetDigest : String
  recipe : Recipe
  recipeDigest : String
  priority : ℚ
  topologyQualification : Option TopologyQualification

/-- The digest of a definition. -/
def digestOf (definition : Value) : Except String String :=
  match managedInferenceDigest host.sha256 definition with
  | some digest => .ok digest
  | none => .error "catalog is not JSON-serializable"

/-- The candidate, if there are as many topologies as the recipe needs. -/
def candidateOf (preset : Preset) (recipe : Recipe) (topologies : List TopologyQualification) :
    Except String (Evaluation Candidate) :=
  if topologies.length ≠ recipe.expectedTopologyCount then
    .ok (.invalidTopology ("Preset " ++ preset.id ++ " must resolve exactly " ++
      toString recipe.expectedTopologyCount ++ " topology qualification" ++
      if recipe.expectedTopologyCount = 1 then "." else "s."))
  else (digestOf host preset.definition).bind fun presetDigest =>
    (digestOf host recipe.definition).bind fun recipeDigest =>
      (presetPriority preset).map fun priority =>
        .matched ⟨preset, presetDigest, recipe, recipeDigest, priority, topologies.head?⟩

/-- Whether a preset matches the input. -/
def matchingCandidate (catalog : Catalog) (preset : Preset) (input : Input) :
    Except String (Evaluation Candidate) :=
  (recipeForPreset adapters catalog preset).bind fun recipe =>
    match intentCompatibilityError (input.intent.getD .none) preset recipe with
    | some message => .ok (.incompatibleIntent message)
    | none =>
      match evaluateRequirements host preset input.readinessReports
          input.topologyQualifications with
      | .matched topologies => candidateOf host preset recipe topologies
      | .unmet message => .ok (.unmet message)
      | .invalidTopology message => .ok (.invalidTopology message)
      | .incompatibleIntent message => .ok (.incompatibleIntent message)

/-- How a result came about. -/
inductive Selection where
  | automatic
  | explicit
  deriving DecidableEq

/-- Why nothing was selected. -/
inductive Code where
  | explicitIntent
  | requirementsNotMet
  | unknownPreset
  | incompatibleIntent
  | invalidReadiness
  | invalidTopology
  | ambiguousSelection
  deriving DecidableEq

/-- A selection with the digests of what was selected. -/
structure Selected where
  selection : Selection
  catalogDigest : String
  presetDigest : String
  recipeDigest : String
  preset : Preset
  recipe : Recipe
  topologyQualification : Option TopologyQualification

/-- What the resolver answers. -/
inductive Resolution where
  | selected (result : Selected)
  | noMatch (code : Code) (message : String)
  | rejected (code : Code) (message : String)

/-- `immutableManagedInferenceCopy` of an artifact: its output in canonical form. -/
def immutableCopy (artifact : TopologyQualification) : Option TopologyQualification :=
  (canonicalize artifact.output).map fun output => { artifact with output := output }

/-- The answer to a recipe that needs a topology and has none. -/
def withoutTopology (preset : Preset) : Resolution :=
  .rejected .invalidTopology ("Preset " ++ preset.id ++
    " selected a topology-dependent recipe without a topology qualification.")

/-- The selection of a candidate, with its topology where the recipe needs one. -/
def selectedResolution (catalog : Catalog) (candidate : Candidate) (selection : Selection) :
    Resolution :=
  let common := fun topology => Resolution.selected ⟨selection, catalog.catalogDigest,
    candidate.presetDigest, candidate.recipeDigest, candidate.preset, candidate.recipe, topology⟩
  let local' := if candidate.recipe.isHostLocal || candidate.recipe.isLlamaCpp then common none
    else withoutTopology candidate.preset
  match candidate.topologyQualification with
  | none => local'
  | some topology => match immutableCopy topology with
    | none => .rejected .invalidTopology "Topology qualification is not immutable JSON data."
    | some copy => if candidate.recipe.isManagedCluster then common (some copy) else local'

/-- How old a report may be. -/
def DEFAULT_READINESS_MAX_AGE_MS : ℚ := 30000

/-- The error of the freshness policy or of the reports; `clock` is the time of the host. -/
def readinessFailure (clock : ℚ) (input : Input) : Option String :=
  match input.maxReadinessAgeMs.getD (some DEFAULT_READINESS_MAX_AGE_MS),
      input.now.getD (some clock) with
  | some maxAgeMs, some nowMs =>
    if maxAgeMs < 0 then some "Readiness freshness policy is invalid."
    else readinessReportsError host nowMs maxAgeMs input.readinessReports
  | _, _ => some "Readiness freshness policy is invalid."

/-- The preset that was named, if it matches. -/
def resolveExplicit (catalog : Catalog) (input : Input) (presetId : String) :
    Except String Resolution :=
  match catalog.presets.filter fun p => p.id == presetId with
  | [preset] =>
    if preset.selection = .disabled then
      .ok (.rejected .requirementsNotMet
        ("Managed inference preset " ++ presetId ++ " is disabled."))
    else (matchingCandidate host adapters catalog preset input).map fun evaluated =>
      match evaluated with
      | .matched candidate => selectedResolution catalog candidate .explicit
      | .invalidTopology message => .rejected .invalidTopology message
      | .incompatibleIntent message => .rejected .incompatibleIntent message
      | .unmet message => .rejected .requirementsNotMet message
  | _ => .ok (.rejected .unknownPreset ("Unknown managed inference preset " ++ presetId ++ "."))

/-- The automatic presets that match, and the first topology that is not valid. -/
def evaluateAutomatic (catalog : Catalog) (input : Input) :
    List Preset → Except String (List Candidate × Option String)
  | [] => .ok ([], none)
  | preset :: rest =>
    if preset.selection ≠ .automatic then evaluateAutomatic catalog input rest
    else (matchingCandidate host adapters catalog preset input).bind fun evaluated =>
      (evaluateAutomatic catalog input rest).map fun found => match evaluated with
        | .matched candidate => (candidate :: found.1, found.2)
        | .invalidTopology message => (found.1, some message)
        | _ => found

/-- Higher priorities first, then the ids in order. -/
def Candidate.before (left right : Candidate) : Prop :=
  right.priority < left.priority ∨
    (left.priority = right.priority ∧ compareLe left.preset.id right.preset.id)

instance : DecidableRel Candidate.before := fun left right =>
  inferInstanceAs (Decidable (right.priority < left.priority ∨
    (left.priority = right.priority ∧ compareLe left.preset.id right.preset.id)))

/-- The candidate of the highest priority, if it is the only one of it. -/
def chooseCandidate (catalog : Catalog) (matching : List Candidate) : Resolution :=
  match matching.insertionSort Candidate.before with
  | [] => .noMatch .requirementsNotMet "No automatic managed inference preset matched."
  | first :: rest =>
    let tied := (first :: rest).filter fun c => c.priority = first.priority
    match tied with
    | [candidate] => selectedResolution catalog candidate .automatic
    | _ => .rejected .ambiguousSelection
        ("Automatic managed inference selection is ambiguous at priority " ++
          host.numberText first.priority ++ ": " ++ ", ".intercalate (tied.map (·.preset.id)) ++
          ".")

/-- The selection without a named preset. -/
def resolveAutomatic (catalog : Catalog) (input : Input) : Except String Resolution :=
  (evaluateAutomatic host adapters catalog input catalog.presets).map fun found =>
    match found.2 with
    | some message => .rejected .invalidTopology message
    | none => chooseCandidate host catalog found.1

/-- The recipe that serves the cluster, or why there is none. -/
def resolveManagedInferenceServing (clock : ℚ) (catalog : Catalog) (input : Input) :
    Except String Resolution :=
  let intent := input.intent.getD .none
  let explicitPresetId := textOf intent.preset
  if explicitPresetId.isNone && explicitIntentWithoutPreset intent then
    .ok (.noMatch .explicitIntent "Existing inference intent remains authoritative.")
  else match readinessFailure host clock input with
  | some message => .ok (.rejected .invalidReadiness message)
  | none => match explicitPresetId with
    | some presetId => resolveExplicit host adapters catalog input presetId
    | none => resolveAutomatic host adapters catalog input

end Resolver

end NemoClaw.Serving
