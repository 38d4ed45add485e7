import NemoClaw.Inference.ServingSelection

/- The nodes that a selected topology is about.

The check of an artifact goes through the subject by index, so it asks that the sorted ids
of the reports begin with the subject; reports of further nodes, whose ids are sorted after
it, are not seen.

What is proved:
  1. `resolve_candidate` — what is selected comes from a preset that matches.
  2. `outputIds_of_valid`, `immutableCopy_of_valid` — subject, nodes and digests of an
     artifact without an error, and of its copy.
  3. `selected_topology_aboutNodes` — a selected topology is about the nodes of the reports
     if and only if there are as many reports as there are node ids in the subject.
-/
namespace NemoClaw.Serving

open Js ClusterTopology List

section Subject

variable {host : Host} {adapters : Adapters} {clock : ℚ} {catalog : Catalog} {input : Input}

structure AboutNodes (host : Host) (reports : List ReadinessSource)
    (topology : TopologyQualification) : Prop where
  subject : topology.subjectNodeIds.Perm (reports.map (·.nodeId))
  output : ∃ ids, OutputNodes topology.output ids ∧ ids.Perm (reports.map (·.nodeId))
  subjectDigest : managedClusterTopologySubjectDigest host.sha256 topology.subjectNodeIds =
    some topology.subjectDigest
  outputDigest : managedClusterTopologyOutputDigest host.sha256 topology.output =
    some topology.outputDigest

lemma evaluateAutomatic_mem {presets : List Preset} {found : List Candidate × Option String}
    (hfound : evaluateAutomatic host adapters catalog input presets = .ok found)
    {c : Candidate} (hc : c ∈ found.1) :
    ∃ p, matchingCandidate host adapters catalog p input = .ok (.matched c) := by
  induction presets generalizing found with
  | nil =>
    rw [evaluateAutomatic] at hfound
    cases hfound; exact absurd hc not_mem_nil
  | cons p rest ih =>
    rw [evaluateAutomatic] at hfound
    split at hfound
    · exact ih hfound hc
    cases hmatching : matchingCandidate host adapters catalog p input with
    | error message => rw [hmatching] at hfound; cases hfound
    | ok evaluated =>
      cases hrest : evaluateAutomatic host adapters catalog input rest with
      | error message => rw [hmatching, hrest] at hfound; cases hfound
      | ok more =>
        rw [hmatching, hrest] at hfound
        cases evaluated with
        | matched candidate =>
          cases hfound
          rcases mem_cons.mp hc with rfl | hin
          · exact ⟨p, hmatching⟩
          · exact ih hrest hin
        | _ => cases hfound; exact ih hrest hc

theorem resolve_candidate {result : Selected}
    (hresolve : resolveManagedInferenceServing host adapters clock catalog input =
      .ok (.selected result)) :
    ∃ p c selection, matchingCandidate host adapters catalog p input = .ok (.matched c) ∧
      selectedResolution catalog c selection = .selected result := by
  unfold resolveManagedInferenceServing at hresolve
  dsimp only at hresolve
  split at hresolve
  · cases hresolve
  split at hresolve
  · cases hresolve
  split at hresolve
  · next presetId _ =>
    unfold resolveExplicit at hresolve
    split at hresolve
    · next p _ =>
      split at hresolve
      · cases hresolve
      cases hmatching : matchingCandidate host adapters catalog p input with
      | error message => rw [hmatching] at hresolve; cases hresolve
      | ok evaluated =>
        rw [hmatching] at hresolve
        cases evaluated with
        | matched c => exact ⟨p, c, .explicit, hmatching, Except.ok.inj hresolve⟩
        | _ => cases hresolve
    · cases hresolve
  · unfold resolveAutomatic at hresolve
    cases hfound : evaluateAutomatic host adapters catalog input catalog.presets with
    | error message => rw [hfound] at hresolve; cases hresolve
    | ok found =>
      rw [hfound] at hresolve
      obtain ⟨matching, invalid⟩ := found
      cases invalid with
      | some message => cases hresolve
      | none =>
      obtain ⟨c, hleading, hselected⟩ :=
        chooseCandidate_eq_selected.mp (Except.ok.inj hresolve)
      have hc : c ∈ leading matching := by
        rw [hleading]; exact mem_singleton_self c
      obtain ⟨hin, -⟩ := (Priority.mem_leaders before_priority).mp hc
      obtain ⟨p, hmatching⟩ := evaluateAutomatic_mem hfound hin
      exact ⟨p, c, .automatic, hmatching, hselected⟩

lemma matchingCandidate_topology {p : Preset} {c : Candidate}
    (hmatching : matchingCandidate host adapters catalog p input = .ok (.matched c))
    {artifact : TopologyQualification} (htopology : c.topologyQualification = some artifact) :
    ∃ id schemaVersion status, TopologyHolds host id schemaVersion status
      input.topologyQualifications input.nodeIds artifact := by
  unfold matchingCandidate at hmatching
  cases hrecipe : recipeForPreset adapters catalog p with
  | error message => rw [hrecipe] at hmatching; cases hmatching
  | ok r =>
    rw [hrecipe] at hmatching
    dsimp only [Except.bind] at hmatching
    split at hmatching
    · cases hmatching
    split at hmatching
    · next topologies heval =>
      have hhead : topologies.head? = some artifact := by
        unfold candidateOf at hmatching
        split at hmatching
        · cases hmatching
        cases hpreset : digestOf host p.definition with
        | error message => rw [hpreset] at hmatching; cases hmatching
        | ok presetDigest =>
          cases hrecipeDigest : digestOf host r.definition with
          | error message => rw [hpreset, hrecipeDigest] at hmatching; cases hmatching
          | ok recipeDigest =>
            cases hpriority : presetPriority p with
            | error message =>
              rw [hpreset, hrecipeDigest, hpriority] at hmatching; cases hmatching
            | ok priority =>
              rw [hpreset, hrecipeDigest, hpriority] at hmatching
              cases hmatching; exact htopology
      exact (evaluateEach_eq_matched heval).2 artifact (mem_of_mem_head? hhead)
    · cases hmatching
    · cases hmatching
    · cases hmatching

lemma selectedResolution_topology {c : Candidate} {selection : Selection} {result : Selected}
    (hselected : selectedResolution catalog c selection = .selected result)
    {copy : TopologyQualification} (hcopy : result.topologyQualification = some copy) :
    ∃ artifact, c.topologyQualification = some artifact ∧
      immutableCopy artifact = some copy := by
  have hlocal : ∀ r : Selected, r.topologyQualification = none →
      (if (c.recipe.isHostLocal || c.recipe.isLlamaCpp) then Resolution.selected r
        else withoutTopology c.preset) ≠ .selected result := by
    intro r hnone heq
    split at heq
    · cases heq
      rw [hnone] at hcopy; cases hcopy
    · cases heq
  unfold selectedResolution at hselected
  dsimp only at hselected
  split at hselected
  · exact absurd hselected (hlocal _ rfl)
  next artifact hartifact =>
  split at hselected
  · cases hselected
  next copied hcopied =>
  split at hselected
  · cases hselected
    cases hcopy; exact ⟨artifact, hartifact, hcopied⟩
  · exact absurd hselected (hlocal _ rfl)

theorem outputIds_of_valid {artifact : TopologyQualification} {nodeIds : List String}
    (hvalid : ValidArtifact host.isIP host.sha256 artifact (some nodeIds)) :
    ∃ ids, OutputNodes artifact.output ids ∧ ids.Perm artifact.subjectNodeIds := by
  obtain ⟨_, _, ids, _, _, houtput⟩ := topologyOutputError_eq_none.mp hvalid.output
  obtain ⟨hnodes, hsorted⟩ := houtput.outputNodes
  refine ⟨ids, hnodes, ?_⟩
  rw [← hsorted]; exact (perm_sortStrings ids).symm

lemma perm_of_prefix {subject ids : List String} (hbegins : subject <+: sortStrings ids) :
    subject.Perm ids ↔ ids.length = subject.length := by
  constructor
  · intro hperm; exact hperm.length_eq.symm
  intro hlength
  have heq : subject = sortStrings ids := by
    apply hbegins.eq_of_length
    rw [(perm_sortStrings ids).length_eq, hlength]
  rw [heq]; exact perm_sortStrings ids

/-- A selected topology is about the nodes of the reports if and only if there are as many
reports as there are node ids in the subject of its artifact. -/
theorem selected_topology_aboutNodes (host : Host) (adapters : Adapters) (clock : ℚ)
    (catalog : Catalog) (input : Input) (result : Selected) (topology : TopologyQualification)
    (hresolve : resolveManagedInferenceServing host adapters clock catalog input =
      .ok (.selected result))
    (htopology : result.topologyQualification = some topology) :
    ∃ artifact ∈ input.topologyQualifications, immutableCopy artifact = some topology ∧
      (AboutNodes host input.readinessReports topology ↔
        input.readinessReports.length = artifact.subjectNodeIds.length) := by
  obtain ⟨p, c, selection, hmatching, hselected⟩ := resolve_candidate hresolve
  obtain ⟨artifact, hartifact, hcopy⟩ := selectedResolution_topology hselected htopology
  obtain ⟨id, schemaVersion, status, hholds⟩ := matchingCandidate_topology hmatching hartifact
  have hvalid := getManagedClusterTopologyArtifactError_eq_none.mp hholds.valid
  have hin : artifact ∈ input.topologyQualifications := by
    apply mem_of_mem_filter (p := fun a => decide (a.id = id ∧ a.schemaVersion = schemaVersion))
    show artifact ∈ topologyMatches id schemaVersion input.topologyQualifications
    rw [hholds.only]; exact mem_singleton_self artifact
  refine ⟨artifact, hin, hcopy, ?_⟩
  obtain ⟨output, houtput, rfl⟩ := Option.map_eq_some_iff.mp hcopy
  have hperm := perm_of_prefix (hvalid.expected _ rfl)
  rw [length_map] at hperm
  constructor
  · intro habout; exact hperm.mp habout.subject
  intro hlength
  have hsubject := hperm.mpr hlength
  obtain ⟨ids, hnodes, hids⟩ := outputIds_of_valid hvalid
  refine ⟨hsubject, ⟨ids, ?_, hids.trans hsubject⟩, hvalid.subjectDigest, ?_⟩
  · exact outputNodes_canonicalize hnodes houtput
  · exact (managedInferenceDigest_canonical host.sha256 houtput).trans hvalid.outputDigest

def railEnd (nodeId netdev hcaDevice address peerAddress gid : String) : Value :=
  .obj [("nodeId", .str nodeId), ("netdev", .str netdev), ("hcaDevice", .str hcaDevice),
    ("hcaPort", .num 1), ("address", .str address), ("prefixLength", .num 30),
    ("peerAddress", .str peerAddress),
    ("roceGid", .obj [("index", .num 3), ("value", .str gid)])]

def twoNodesOutput : Value :=
  .obj [("controllerNodeId", .str "spark-a"),
    ("nodes", .arr [
      .obj [("rank", .num 0), ("role", .str "head"), ("nodeId", .str "spark-a"),
        ("gpuId", .str "gpu-a")],
      .obj [("rank", .num 1), ("role", .str "worker"), ("nodeId", .str "spark-b"),
        ("gpuId", .str "gpu-b")]]),
    ("rails", .arr [
      .obj [("index", .num 0), ("endpoints", .arr [
        railEnd "spark-a" "eth0" "mlx0" "10.0.0.1" "10.0.0.2" "fe80::1",
        railEnd "spark-b" "eth0" "mlx0" "10.0.0.2" "10.0.0.1" "fe80::2"])],
      .obj [("index", .num 1), ("endpoints", .arr [
        railEnd "spark-a" "eth1" "mlx1" "10.0.1.1" "10.0.1.2" "fe80::3",
        railEnd "spark-b" "eth1" "mlx1" "10.0.1.2" "10.0.1.1" "fe80::4"])]]),
    ("masterAddress", .str "10.0.0.1"),
    ("peers", .arr [.obj [("nodeId", .str "spark-b"), ("target", .str "10.0.0.2"),
      ("sshBindingHandle", .str "binding-b")]])]

/-- SHA-256 of the canonical texts of the subject, the output, the preset and the recipe. -/
def sparkHash : Value → String
  | .arr _ => "319a64828d574dde7c060e4859268705f87f526ada1d0c91d952d3e34a8d2b83"
  | v =>
    if (v.get "kind").string? = some "ServingPreset" then
      "d9f1c0cfbf5b0528b40910dac2217fe42e57e5a215e6357e721f753bfd75f3ad"
    else if (v.get "kind").string? = some "ServingRecipe" then
      "9fa4ba2007737aa5ad12fac602fd446c41249f0346e01b5d9134133565074774"
    else "389711a1c00d0ce88755fbf3d5a7759fca90633157e1e93d8c0a6b978b769038"

def sparkHost : Host where
  dateParse s := if s = "2026-01-01T00:00:00Z" then some 1767225600000 else none
  numberText q := if q = 1 then "1" else "2"
  isIP s :=
    if s ∈ ["10.0.0.1", "10.0.0.2", "10.0.1.1", "10.0.1.2"] then 4
    else if s ∈ ["fe80::1", "fe80::2", "fe80::3", "fe80::4"] then 6
    else 0
  sha256 := sparkHash

def twoNodesTopology : TopologyQualification :=
  ⟨TOPOLOGY_ID, TOPOLOGY_SCHEMA_VERSION, .qualified, ["spark-a", "spark-b"],
    "sha256:319a64828d574dde7c060e4859268705f87f526ada1d0c91d952d3e34a8d2b83",
    "sha256:389711a1c00d0ce88755fbf3d5a7759fca90633157e1e93d8c0a6b978b769038", twoNodesOutput⟩

/-- One preset, which asks for a qualified topology only. -/
def clusterCatalog : Catalog :=
  ⟨"sha256:00",
    [⟨"cluster", .automatic, 1,
      [.topologyQualification TOPOLOGY_ID TOPOLOGY_SCHEMA_VERSION "qualified"], "install-vllm",
      "recipe", .obj [("kind", .str "ServingPreset")]⟩],
    [⟨"recipe", "install-vllm", "model", "served", MANAGED_CLUSTER_VLLM_MATERIALIZER_REF,
      MANAGED_CLUSTER_VLLM_LIFECYCLE_REF, some NO_PREPARATION_REF,
      .obj [("kind", .str "ServingRecipe")]⟩]⟩

/-- Reports of the nodes, and the topology of two of them. -/
def clusterInput (nodeIds : List String) : Input :=
  ⟨nodeIds.map fun nodeId => ⟨nodeId, oneNodeReport⟩, [twoNodesTopology], none,
    some (some 1767225601000), none⟩

def selectsTwoNodes : Except String Resolution → Bool
  | .ok (.selected result) =>
    result.topologyQualification.any fun t => t.subjectNodeIds == ["spark-a", "spark-b"]
  | _ => false

lemma selectsTwoNodes_inv {resolved : Except String Resolution}
    (h : selectsTwoNodes resolved) : ∃ result topology,
      resolved = .ok (.selected result) ∧ result.topologyQualification = some topology ∧
      topology.subjectNodeIds = ["spark-a", "spark-b"] := by
  unfold selectsTwoNodes at h
  split at h
  · next result =>
    cases htopology : result.topologyQualification with
    | none => rw [htopology] at h; cases h
    | some topology =>
      rw [htopology] at h; exact ⟨result, topology, rfl, htopology, beq_iff_eq.mp h⟩
  · cases h

theorem selected_topology_aboutNodes_two : ∃ result topology,
    resolveManagedInferenceServing sparkHost oneNodeAdapters 0 clusterCatalog
      (clusterInput ["spark-b", "spark-a"]) = .ok (.selected result) ∧
    result.topologyQualification = some topology ∧
    AboutNodes sparkHost (clusterInput ["spark-b", "spark-a"]).readinessReports topology := by
  obtain ⟨result, topology, hresolve, htopology, -⟩ := selectsTwoNodes_inv
    (show selectsTwoNodes (resolveManagedInferenceServing sparkHost oneNodeAdapters 0
      clusterCatalog (clusterInput ["spark-b", "spark-a"])) by decide +kernel)
  obtain ⟨artifact, hin, -, hiff⟩ := selected_topology_aboutNodes sparkHost oneNodeAdapters 0
    clusterCatalog (clusterInput ["spark-b", "spark-a"]) result topology hresolve htopology
  refine ⟨result, topology, hresolve, htopology, hiff.mpr ?_⟩
  rw [mem_singleton.mp hin]; rfl

/-- A third report whose id is sorted after the subject is not seen. -/
theorem selected_topology_thirdReport : ∃ result topology,
    resolveManagedInferenceServing sparkHost oneNodeAdapters 0 clusterCatalog
      (clusterInput ["spark-a", "spark-b", "spark-c"]) = .ok (.selected result) ∧
    result.topologyQualification = some topology ∧
    ¬ AboutNodes sparkHost (clusterInput ["spark-a", "spark-b", "spark-c"]).readinessReports
      topology := by
  obtain ⟨result, topology, hresolve, htopology, hsubject⟩ := selectsTwoNodes_inv
    (show selectsTwoNodes (resolveManagedInferenceServing sparkHost oneNodeAdapters 0
      clusterCatalog (clusterInput ["spark-a", "spark-b", "spark-c"])) by decide +kernel)
  refine ⟨result, topology, hresolve, htopology, fun habout => ?_⟩
  have hlength := habout.subject.length_eq
  rw [hsubject] at hlength; exact absurd hlength (by decide)

end Subject

end NemoClaw.Serving
