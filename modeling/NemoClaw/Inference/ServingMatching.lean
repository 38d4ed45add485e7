import NemoClaw.Inference.ServingResolver
import NemoClaw.Inference.TopologyArtifact

/- What has to hold for a preset of managed inference to match.

A compiled catalog has distinct preset ids, and every preset resolves to one registered
recipe. What is proved for it, where nothing is intended explicitly:
  1. `evaluateRequirements_eq_matched` — the requirements are matched if all of them hold.
  2. `matchingCandidate_cases` — a preset matches, has an invalid topology or is not met.
  3. `Candidate.Selectable` — a preset that matches can be selected.
  4. `matchingCandidate_perm`, `readinessFailure_perm` — the order of the reports and of the
     artifacts does not matter for one preset.
-/
namespace NemoClaw.Serving

open Js ClusterTopology List

/-- What the compilation of a catalog and its schema ensure. -/
structure Compiled (adapters : Adapters) (catalog : Catalog) : Prop where
  ids : (catalog.presets.map (·.id)).Nodup
  recipe : ∀ p ∈ catalog.presets, ∃ r, recipeForPreset adapters catalog p = .ok r
  presetJson : ∀ p ∈ catalog.presets, (canonicalize p.definition).isSome
  recipeJson : ∀ r ∈ catalog.recipes, (canonicalize r.definition).isSome
  priority : ∀ p ∈ catalog.presets, isSafeInteger p.priority

/-- Neither a preset is named nor a provider, a model or arguments. -/
def Input.withoutIntent (input : Input) : Prop :=
  textOf (input.intent.getD .none).preset = none ∧
    explicitIntentWithoutPreset (input.intent.getD .none) = false

section Requirements

variable (host : Host)

structure TopologyHolds (id : String) (schemaVersion : ℚ) (status : String)
    (artifacts : List TopologyQualification) (nodeIds : List String)
    (artifact : TopologyQualification) : Prop where
  registered : id = TOPOLOGY_ID ∧ schemaVersion = TOPOLOGY_SCHEMA_VERSION
  only : topologyMatches id schemaVersion artifacts = [artifact]
  status : TopologyStatus.text artifact.status = status
  valid : getManagedClusterTopologyArtifactError host.isIP host.sha256 artifact
    (some nodeIds) = none

def Input.nodeIds (input : Input) : List String :=
  sortStrings (input.readinessReports.map (·.nodeId))

def Requirement.Holds (input : Input) : Requirement → Prop
  | .readiness requirement =>
    readinessRequirementMatches input.readinessReports requirement
  | .fact requirement => factRequirementMatches requirement input.readinessReports
  | .topologyQualification id schemaVersion status => ∃ artifact,
    TopologyHolds host id schemaVersion status input.topologyQualifications input.nodeIds artifact

def Preset.Matches (p : Preset) (input : Input) : Prop :=
  ∀ requirement ∈ p.requirements, requirement.Holds host input

variable {host}

lemma evaluateTopologyRequirement_eq_matched {id : String} {schemaVersion : ℚ}
    {status : String} {artifacts : List TopologyQualification} {nodeIds : List String}
    {artifact : TopologyQualification} :
    evaluateTopologyRequirement host id schemaVersion status artifacts nodeIds =
      .matched artifact ↔
    TopologyHolds host id schemaVersion status artifacts nodeIds artifact := by
  unfold evaluateTopologyRequirement
  constructor
  · intro heq
    split at heq
    · cases heq
    next hid =>
    split at heq
    · cases heq
    · next found hfound =>
      split at heq
      · cases heq
      next hstatus =>
      split at heq
      · cases heq
      next hvalid =>
      cases heq
      refine ⟨?_, hfound, not_not.mp hstatus, hvalid⟩
      exact ⟨not_not.mp fun hne => hid (.inl hne), not_not.mp fun hne => hid (.inr hne)⟩
    · cases heq
  · intro hholds
    rw [if_neg, hholds.only]
    · dsimp only
      rw [if_neg, hholds.valid]; exact not_not.mpr hholds.status
    · intro hne
      rcases hne with hne | hne
      · exact hne hholds.registered.1
      · exact hne hholds.registered.2

variable {topologies : List TopologyQualification} {input : Input} {requirement : Requirement}

/-- A requirement that is a test, on readiness or on a fact, gives no topology. -/
lemma test_matched {test : Bool} {message : String} :
    (if test then Evaluation.matched [] else .unmet message) = .matched topologies ↔
      test ∧ topologies = [] := by
  by_cases htest : test
  · rw [if_pos htest]
    constructor
    · intro heq
      cases heq; exact ⟨htest, rfl⟩
    · intro h
      rw [h.2]
  · rw [if_neg htest]
    constructor
    · intro heq; cases heq
    · intro h; exact absurd h.1 htest

lemma evaluateRequirement_eq_matched
    (heq : evaluateRequirement host input.readinessReports input.topologyQualifications
      input.nodeIds requirement = .matched topologies) :
    requirement.Holds host input ∧ ∀ artifact ∈ topologies, ∃ id schemaVersion status,
      TopologyHolds host id schemaVersion status input.topologyQualifications input.nodeIds
        artifact := by
  cases requirement with
  | readiness requirement =>
    rw [evaluateRequirement, test_matched] at heq
    rw [heq.2]; exact ⟨heq.1, nofun⟩
  | fact requirement =>
    rw [evaluateRequirement, test_matched] at heq
    rw [heq.2]; exact ⟨heq.1, nofun⟩
  | topologyQualification id schemaVersion status =>
    rw [evaluateRequirement] at heq
    cases hfound : evaluateTopologyRequirement host id schemaVersion status
        input.topologyQualifications input.nodeIds with
    | matched found =>
      rw [hfound] at heq
      cases heq
      have hholds := evaluateTopologyRequirement_eq_matched.mp hfound
      refine ⟨⟨found, hholds⟩, fun artifact hin => ?_⟩
      rw [mem_singleton.mp hin]; exact ⟨id, schemaVersion, status, hholds⟩
    | _ => rw [hfound] at heq; cases heq

lemma evaluateRequirement_of_holds (hholds : requirement.Holds host input) :
    ∃ topologies, evaluateRequirement host input.readinessReports
      input.topologyQualifications
      input.nodeIds requirement = .matched topologies := by
  cases requirement with
  | readiness requirement =>
    refine ⟨[], ?_⟩
    rw [evaluateRequirement, test_matched]; exact ⟨hholds, rfl⟩
  | fact requirement =>
    refine ⟨[], ?_⟩
    rw [evaluateRequirement, test_matched]; exact ⟨hholds, rfl⟩
  | topologyQualification id schemaVersion status =>
    obtain ⟨artifact, hartifact⟩ := hholds
    refine ⟨[artifact], ?_⟩
    rw [evaluateRequirement, evaluateTopologyRequirement_eq_matched.mpr hartifact]

lemma evaluateEach_cons {reports : List ReadinessSource} {artifacts : List TopologyQualification}
    {nodeIds : List String} {rest : List Requirement} :
    evaluateEach host reports artifacts nodeIds (requirement :: rest) = .matched topologies ↔
    ∃ first more, evaluateRequirement host reports artifacts nodeIds requirement =
        .matched first ∧
      evaluateEach host reports artifacts nodeIds rest = .matched more ∧
      topologies = first ++ more := by
  rw [evaluateEach]
  constructor
  · intro heq
    split at heq
    · next first hfirst =>
      split at heq
      · next more hmore =>
        cases heq; exact ⟨first, more, hfirst, hmore, rfl⟩
      · next hno => exact absurd heq (hno topologies)
    · next hno => exact absurd heq (hno topologies)
  · intro ⟨first, more, hfirst, hmore, heq⟩
    rw [hfirst, hmore, heq]

lemma evaluateEach_eq_matched {requirements : List Requirement}
    (heq : evaluateEach host input.readinessReports input.topologyQualifications
      input.nodeIds requirements = .matched topologies) :
    (∀ requirement ∈ requirements, requirement.Holds host input) ∧
      ∀ artifact ∈ topologies, ∃ id schemaVersion status, TopologyHolds host id schemaVersion
        status input.topologyQualifications input.nodeIds artifact := by
  induction requirements generalizing topologies with
  | nil =>
    rw [evaluateEach] at heq
    cases heq; exact ⟨nofun, nofun⟩
  | cons requirement rest ih =>
    obtain ⟨first, more, hfirst, hmore, rfl⟩ := evaluateEach_cons.mp heq
    obtain ⟨hholds, hvalid⟩ := evaluateRequirement_eq_matched hfirst
    obtain ⟨hrest, hvalid'⟩ := ih hmore
    refine ⟨forall_mem_cons.mpr ⟨hholds, hrest⟩, fun artifact hin => ?_⟩
    rcases mem_append.mp hin with hin | hin
    · exact hvalid artifact hin
    · exact hvalid' artifact hin

lemma evaluateEach_of_holds {requirements : List Requirement}
    (hholds : ∀ requirement ∈ requirements, requirement.Holds host input) :
    ∃ topologies, evaluateEach host input.readinessReports input.topologyQualifications
      input.nodeIds requirements = .matched topologies := by
  induction requirements with
  | nil => exact ⟨[], by rw [evaluateEach]⟩
  | cons requirement rest ih =>
    obtain ⟨hfirst, hrest⟩ := forall_mem_cons.mp hholds
    obtain ⟨first, hfirst⟩ := evaluateRequirement_of_holds hfirst
    obtain ⟨more, hmore⟩ := ih hrest
    exact ⟨first ++ more, evaluateEach_cons.mpr ⟨first, more, hfirst, hmore, rfl⟩⟩

theorem evaluateRequirements_eq_matched {p : Preset} :
    (∃ topologies, evaluateRequirements host p input.readinessReports
      input.topologyQualifications = .matched topologies) ↔ p.Matches host input := by
  constructor
  · intro hex
    obtain ⟨topologies, heq⟩ := hex; exact (evaluateEach_eq_matched heq).1
  · intro hholds; exact evaluateEach_of_holds hholds

end Requirements

section Candidates

variable {host : Host} {adapters : Adapters} {catalog : Catalog} {input : Input}

lemma intentCompatibilityError_none (hintent : input.withoutIntent) (p : Preset) (r : Recipe) :
    intentCompatibilityError (input.intent.getD .none) p r = none := by
  have hexplicit := hintent.2
  unfold explicitIntentWithoutPreset at hexplicit
  rw [Bool.or_eq_false_iff, Bool.or_eq_false_iff] at hexplicit
  obtain ⟨⟨hprovider, hmodel⟩, harguments⟩ := hexplicit
  rw [Option.isSome_eq_false_iff, Option.isNone_iff_eq_none] at hprovider hmodel
  unfold intentCompatibilityError
  rw [hprovider, hmodel, harguments]; rfl

lemma recipeForPreset_ok {p : Preset} {r : Recipe}
    (hrecipe : recipeForPreset adapters catalog p = .ok r) :
    r ∈ catalog.recipes ∧ adapters.registrationError r = none := by
  unfold recipeForPreset at hrecipe
  split at hrecipe
  · next found hfound =>
    have hin : found ∈ catalog.recipes := by
      apply mem_of_mem_filter
      rw [hfound]; exact mem_singleton_self found
    split at hrecipe
    · cases hrecipe
    split at hrecipe
    · cases hrecipe
    · next hregistered =>
      cases hrecipe; exact ⟨hin, hregistered⟩
  · cases hrecipe

lemma isHostLocal_of_registered {r : Recipe} (h : adapters.registrationError r = none)
    (hcluster : r.isManagedCluster = false) : (r.isHostLocal || r.isLlamaCpp) := by
  unfold Adapters.registrationError at h
  cases hllama : r.isLlamaCpp with
  | true => exact Bool.or_true _
  | false =>
  rw [if_neg (Bool.eq_false_iff.mp hllama)] at h
  split at h
  · cases h
  next hknown =>
  have hne : r.materializerRef ≠ MANAGED_CLUSTER_VLLM_MATERIALIZER_REF := by
    intro heq
    unfold Recipe.isManagedCluster at hcluster
    rw [heq] at hcluster; exact absurd hcluster (by decide)
  have hlocal : r.materializerRef = HOST_LOCAL_VLLM_MATERIALIZER_REF := by
    rcases mem_cons.mp (not_not.mp hknown) with heq | hin
    · exact absurd heq hne
    · exact mem_singleton.mp hin
  unfold Recipe.isHostLocal
  rw [hlocal]; decide

variable (host) in
lemma digestOf_ok {definition : Value} (h : (canonicalize definition).isSome) :
    ∃ digest, digestOf host definition = .ok digest := by
  obtain ⟨v, hv⟩ := Option.isSome_iff_exists.mp h
  refine ⟨"sha256:" ++ host.sha256 v, ?_⟩
  unfold digestOf managedInferenceDigest
  rw [hv]; rfl

lemma immutableCopy_of_valid {artifact : TopologyQualification} {nodeIds : List String}
    (h : getManagedClusterTopologyArtifactError host.isIP host.sha256 artifact (some nodeIds) =
      none) : ∃ copy, immutableCopy artifact = some copy := by
  have hvalid := getManagedClusterTopologyArtifactError_eq_none.mp h
  obtain ⟨output, houtput, -⟩ := Option.map_eq_some_iff.mp hvalid.outputDigest
  refine ⟨{ artifact with output := output }, ?_⟩
  unfold immutableCopy
  rw [houtput]; rfl

def Candidate.selected (catalog : Catalog) (c : Candidate) (selection : Selection) : Selected :=
  ⟨selection, catalog.catalogDigest, c.presetDigest, c.recipeDigest, c.preset, c.recipe,
    c.topologyQualification.bind immutableCopy⟩

/-- The candidate can be selected, whether it is found or named. -/
def Candidate.Selectable (catalog : Catalog) (c : Candidate) : Prop :=
  ∀ selection, selectedResolution catalog c selection = .selected (c.selected catalog selection)

lemma selectable_of_topologies {c : Candidate} {topologies : List TopologyQualification}
    (hregistered : adapters.registrationError c.recipe = none)
    (hcount : topologies.length = c.recipe.expectedTopologyCount)
    (hcopy : ∀ artifact ∈ topologies, ∃ copy, immutableCopy artifact = some copy)
    (htopology : c.topologyQualification = topologies.head?) : c.Selectable catalog := by
  intro selection
  unfold selectedResolution Candidate.selected
  unfold Recipe.expectedTopologyCount at hcount
  cases hcluster : c.recipe.isManagedCluster with
  | false =>
    rw [hcluster, if_neg Bool.false_ne_true] at hcount
    rw [htopology, length_eq_zero_iff.mp hcount, List.head?_nil]
    dsimp only
    rw [if_pos (isHostLocal_of_registered hregistered hcluster)]; rfl
  | true =>
    rw [hcluster, if_pos rfl] at hcount
    obtain ⟨artifact, hartifact⟩ := length_eq_one_iff.mp hcount
    obtain ⟨copy, hcopy⟩ := hcopy artifact (by rw [hartifact]; exact mem_singleton_self _)
    rw [htopology, hartifact, List.head?_cons, Option.bind_some, hcopy]
    dsimp only
    rw [hcopy]; rfl

/-- What follows the evaluation of the requirements; a failure stays a failure. -/
def Evaluation.andThen {α β : Type} (f : α → Except String (Evaluation β)) :
    Evaluation α → Except String (Evaluation β)
  | .matched value => f value
  | .unmet message => .ok (.unmet message)
  | .invalidTopology message => .ok (.invalidTopology message)
  | .incompatibleIntent message => .ok (.incompatibleIntent message)

lemma matchingCandidate_eq (hintent : input.withoutIntent) {p : Preset} {r : Recipe}
    (hrecipe : recipeForPreset adapters catalog p = .ok r) :
    matchingCandidate host adapters catalog p input =
      (evaluateRequirements host p input.readinessReports input.topologyQualifications).andThen
        (candidateOf host p r) := by
  unfold matchingCandidate
  rw [hrecipe]
  dsimp only [Except.bind]
  rw [intentCompatibilityError_none hintent]
  cases evaluateRequirements host p input.readinessReports input.topologyQualifications with
  | _ => rfl

variable (host) in
/-- The three ways in which the evaluation of a preset ends. -/
theorem matchingCandidate_cases (hcompiled : Compiled adapters catalog)
    (hintent : input.withoutIntent) {p : Preset} (hp : p ∈ catalog.presets) :
    (∃ c, matchingCandidate host adapters catalog p input = .ok (.matched c) ∧
      p.Matches host input ∧ c.preset = p ∧ c.priority = p.priority ∧ c.Selectable catalog) ∨
    (∃ message, matchingCandidate host adapters catalog p input =
      .ok (.invalidTopology message)) ∨
    (¬ p.Matches host input ∧ ∃ message,
      matchingCandidate host adapters catalog p input = .ok (.unmet message) ∨
      matchingCandidate host adapters catalog p input = .ok (.incompatibleIntent message)) := by
  obtain ⟨r, hrecipe⟩ := hcompiled.recipe p hp
  obtain ⟨hr, hregistered⟩ := recipeForPreset_ok hrecipe
  rw [matchingCandidate_eq hintent hrecipe]
  have hmatches : p.Matches host input → ∃ topologies, evaluateRequirements host p
      input.readinessReports input.topologyQualifications = .matched topologies :=
    evaluateRequirements_eq_matched.mpr
  cases heval : evaluateRequirements host p input.readinessReports
      input.topologyQualifications with
  | matched topologies =>
    obtain ⟨hholds, hvalid⟩ := evaluateEach_eq_matched heval
    unfold Evaluation.andThen candidateOf
    dsimp only
    split
    · exact .inr (.inl ⟨_, rfl⟩)
    next hcount =>
    obtain ⟨presetDigest, hpreset⟩ := digestOf_ok host (hcompiled.presetJson p hp)
    obtain ⟨recipeDigest, hrecipe⟩ := digestOf_ok host (hcompiled.recipeJson r hr)
    refine .inl ⟨⟨p, presetDigest, r, recipeDigest, p.priority, topologies.head?⟩, ?_, hholds,
      rfl, rfl, ?_⟩
    · rw [hpreset, hrecipe]
      unfold presetPriority
      rw [if_pos (hcompiled.priority p hp)]; rfl
    · refine selectable_of_topologies hregistered (not_not.mp hcount)
        ?_ rfl
      intro artifact hin
      obtain ⟨_, _, _, hartifact⟩ := hvalid artifact hin
      exact immutableCopy_of_valid hartifact.valid
  | unmet message =>
    rw [heval] at hmatches
    refine .inr (.inr ⟨fun hholds => ?_, message, .inl rfl⟩)
    obtain ⟨_, heq⟩ := hmatches hholds; cases heq
  | invalidTopology message => exact .inr (.inl ⟨message, rfl⟩)
  | incompatibleIntent message =>
    rw [heval] at hmatches
    refine .inr (.inr ⟨fun hholds => ?_, message, .inr rfl⟩)
    obtain ⟨_, heq⟩ := hmatches hholds; cases heq

end Candidates

section Order

variable {host : Host} {adapters : Adapters} {reports reports' : List ReadinessSource}
  {artifacts artifacts' : List TopologyQualification}

lemma readinessScopeMatches_perm (h : reports.Perm reports') (scope : Scope)
    (predicate : ReadinessSource → Bool) :
    readinessScopeMatches scope reports predicate =
      readinessScopeMatches scope reports' predicate := by
  unfold readinessScopeMatches
  rw [h.isEmpty_eq]
  cases scope with
  | controller => rfl
  | everyNode =>
    have hall : reports.all predicate = reports'.all predicate := by
      rw [Bool.eq_iff_iff, all_eq_true, all_eq_true]
      exact forall_congr' fun source => by rw [h.mem_iff]
    rw [hall]
  | anyNode =>
    have hany : reports.any predicate = reports'.any predicate := by
      rw [Bool.eq_iff_iff, any_eq_true, any_eq_true]
      exact exists_congr fun source => by rw [h.mem_iff]
    rw [hany]

lemma readinessRequirementMatches_perm (h : reports.Perm reports')
    (requirement : ReadinessRequirement) :
    readinessRequirementMatches reports requirement =
      readinessRequirementMatches reports' requirement := by
  cases requirement with
  | qualification scope id status => exact readinessScopeMatches_perm h scope _
  | comparison scope id comparison => exact readinessScopeMatches_perm h scope _
  | state scope kind id state => exact readinessScopeMatches_perm h scope _

lemma factRequirementMatches_perm (h : reports.Perm reports') (requirement : FactRequirement) :
    factRequirementMatches requirement reports = factRequirementMatches requirement reports' := by
  unfold factRequirementMatches selectionFact
  rw [h.length_eq]

lemma evaluateTopologyRequirement_perm (h : artifacts.Perm artifacts') (id : String)
    (schemaVersion : ℚ) (status : String) (nodeIds : List String) :
    evaluateTopologyRequirement host id schemaVersion status artifacts nodeIds =
      evaluateTopologyRequirement host id schemaVersion status artifacts' nodeIds := by
  have hmatches : (topologyMatches id schemaVersion artifacts).Perm
      (topologyMatches id schemaVersion artifacts') := h.filter _
  unfold evaluateTopologyRequirement
  cases hfound : topologyMatches id schemaVersion artifacts with
  | nil =>
    rw [hfound] at hmatches
    rw [hmatches.symm.eq_nil]
  | cons first rest =>
    cases rest with
    | nil =>
      rw [hfound] at hmatches
      rw [perm_singleton.mp hmatches.symm]
    | cons second more =>
      -- two candidates are two in any order
      rw [hfound] at hmatches
      have hlength := hmatches.length_eq
      cases hfound' : topologyMatches id schemaVersion artifacts' with
      | nil => rw [hfound'] at hlength; cases hlength
      | cons first' rest' =>
        cases rest' with
        | nil => rw [hfound'] at hlength; cases hlength
        | cons second' more' => rfl

lemma evaluateRequirement_perm (h : reports.Perm reports') (h' : artifacts.Perm artifacts')
    (nodeIds : List String) (requirement : Requirement) :
    evaluateRequirement host reports artifacts nodeIds requirement =
      evaluateRequirement host reports' artifacts' nodeIds requirement := by
  cases requirement with
  | readiness requirement =>
    rw [evaluateRequirement, evaluateRequirement, readinessRequirementMatches_perm h]
  | fact requirement =>
    rw [evaluateRequirement, evaluateRequirement, factRequirementMatches_perm h]
  | topologyQualification id schemaVersion status =>
    rw [evaluateRequirement, evaluateRequirement, evaluateTopologyRequirement_perm h']

lemma evaluateEach_perm (h : reports.Perm reports') (h' : artifacts.Perm artifacts')
    (nodeIds : List String) (requirements : List Requirement) :
    evaluateEach host reports artifacts nodeIds requirements =
      evaluateEach host reports' artifacts' nodeIds requirements := by
  induction requirements with
  | nil => rw [evaluateEach, evaluateEach]
  | cons requirement rest ih =>
    rw [evaluateEach, evaluateEach, ih, evaluateRequirement_perm h h']

variable (host adapters) in
theorem matchingCandidate_perm (catalog : Catalog) (input : Input) (p : Preset)
    (presets : List Preset) (h : reports.Perm input.readinessReports)
    (h' : artifacts.Perm input.topologyQualifications) :
    matchingCandidate host adapters { catalog with presets := presets } p
        { input with readinessReports := reports, topologyQualifications := artifacts } =
      matchingCandidate host adapters catalog p input := by
  have heval : evaluateRequirements host p reports artifacts = evaluateRequirements host p
      input.readinessReports input.topologyQualifications := by
    unfold evaluateRequirements
    rw [sortStrings_perm (h.map _), evaluateEach_perm h h']
  unfold matchingCandidate
  rw [heval]; rfl

lemma findSome?_isSome_perm {α β : Type} {l l' : List α} (h : l.Perm l') (f : α → Option β) :
    (l.findSome? f).isSome = (l'.findSome? f).isSome := by
  rw [Bool.eq_iff_iff, List.findSome?_isSome_iff, List.findSome?_isSome_iff]
  exact exists_congr fun a => by rw [h.mem_iff]

variable (host) in
theorem readinessFailure_perm (clock : ℚ) {input : Input}
    (h : reports.Perm input.readinessReports) (artifacts : List TopologyQualification) :
    (readinessFailure host clock { input with
        readinessReports := reports, topologyQualifications := artifacts }).isSome =
      (readinessFailure host clock input).isSome := by
  unfold readinessFailure
  dsimp only
  split
  · split
    · rfl
    · unfold readinessReportsError
      have hnodup : (reports.map (·.nodeId)).Nodup ↔
          (input.readinessReports.map (·.nodeId)).Nodup := (h.map _).nodup_iff
      by_cases hids : (reports.map (·.nodeId)).Nodup
      · rw [if_pos hids, if_pos (hnodup.mp hids)]; exact findSome?_isSome_perm h _
      · rw [if_neg hids, if_neg (mt hnodup.mpr hids)]
  · rfl

end Order

end NemoClaw.Serving
