import NemoClaw.Inference.ManagedClusterTopology

/- What a topology artifact is of which the check reports no error.

What is proved:
  1. `getManagedClusterTopologyArtifactError_eq_none` — the check accepts exactly the
     artifacts that are `ValidArtifact`.
  2. `topologyOutputError_eq_none` — the output is accepted exactly where all of its parts
     can be read and each check of the parts passes.
  3. `ValidOutput.outputNodes`, `outputNodes_canonicalize` — the nodes of an accepted
     output are the subject, and stay so in the canonical form.
-/
namespace NemoClaw.ClusterTopology

open Js List Option

section Accepted

variable (isIP : String → ℕ) (sha256 : Value → String)

structure ValidArtifact (artifact : TopologyQualification)
    (expectedSubjectNodeIds : Option (List String)) : Prop where
  id : artifact.id = TOPOLOGY_ID
  schemaVersion : artifact.schemaVersion = TOPOLOGY_SCHEMA_VERSION
  status : artifact.status = .qualified
  subject : subjectValid artifact.subjectNodeIds
  expected : ∀ ids, expectedSubjectNodeIds = some ids → artifact.subjectNodeIds <+: ids
  output : topologyOutputError isIP artifact.output artifact.subjectNodeIds = none
  subjectDigest : managedClusterTopologySubjectDigest sha256 artifact.subjectNodeIds =
    some artifact.subjectDigest
  outputDigest : managedClusterTopologyOutputDigest sha256 artifact.output =
    some artifact.outputDigest

/-- The parts of an output that the check reads, all of them in order. -/
structure ValidOutput (output : Value) (subjectNodeIds : List String) (controllerNodeId : String)
    (nodes : List Value) (nodeIds : List String) (values : List Value) (rails : List Rail) :
    Prop where
  controller : output.get "controllerNodeId" = .str controllerNodeId
  clusterId : isClusterId controllerNodeId
  nodesAt : output.get "nodes" = .arr nodes
  nodeCount : nodes.length = subjectNodeIds.length
  records : nodes.all Value.isRecord
  nodesRead : outputNodeIds controllerNodeId subjectNodeIds nodes = .ok nodeIds
  railsAt : output.get "rails" = .arr values
  railCount : values.length = nodeIds.length
  railsRead : readRails isIP nodeIds 0 values = .ok rails
  graph : railsError nodeIds controllerNodeId rails = none
  peers : masterAndPeersError isIP output nodeIds controllerNodeId rails = none

variable {isIP sha256}

lemma digestError_eq_none {artifact : TopologyQualification} :
    digestError sha256 artifact = none ↔
      managedClusterTopologySubjectDigest sha256 artifact.subjectNodeIds =
        some artifact.subjectDigest ∧
      managedClusterTopologyOutputDigest sha256 artifact.output =
        some artifact.outputDigest := by
  unfold digestError
  cases hsubject : managedClusterTopologySubjectDigest sha256 artifact.subjectNodeIds with
  | none => simp
  | some subjectDigest =>
  cases houtput : managedClusterTopologyOutputDigest sha256 artifact.output with
  | none =>
    by_cases heq : artifact.subjectDigest = subjectDigest <;> simp [heq]
  | some outputDigest =>
  dsimp only
  by_cases heq : artifact.subjectDigest = subjectDigest
  · rw [if_neg (not_not.mpr heq)]
    by_cases heq' : artifact.outputDigest = outputDigest
    · rw [if_neg (not_not.mpr heq'), heq, heq']; exact ⟨fun _ => ⟨rfl, rfl⟩, fun _ => rfl⟩
    · rw [if_pos heq']; exact ⟨nofun, fun h => absurd (some.inj h.2).symm heq'⟩
  · rw [if_pos heq]; exact ⟨nofun, fun h => absurd (some.inj h.1).symm heq⟩

theorem getManagedClusterTopologyArtifactError_eq_none {artifact : TopologyQualification}
    {expected : Option (List String)} :
    getManagedClusterTopologyArtifactError isIP sha256 artifact expected = none ↔
      ValidArtifact isIP sha256 artifact expected := by
  have hbegins : (expected.any fun ids => !subjectExpected artifact.subjectNodeIds ids) = false ↔
      ∀ ids, expected = some ids → artifact.subjectNodeIds <+: ids := by
    cases expected with
    | none => simp
    | some ids => simp [subjectExpected]
  unfold getManagedClusterTopologyArtifactError
  constructor
  · intro hnone
    split at hnone
    · cases hnone
    next hid =>
    split at hnone
    · cases hnone
    next hstatus =>
    split at hnone
    · cases hnone
    next hsubject =>
    split at hnone
    · cases hnone
    next hexpected =>
    obtain ⟨houtput, hdigest⟩ := or_eq_none_iff.mp hnone
    rw [not_or, not_not, not_not] at hid
    rw [Bool.not_eq_true] at hexpected
    obtain ⟨hsubjectDigest, houtputDigest⟩ := digestError_eq_none.mp hdigest
    exact ⟨hid.1, hid.2, not_not.mp hstatus, Bool.not_eq_false _ ▸ hsubject,
      hbegins.mp hexpected, houtput, hsubjectDigest, houtputDigest⟩
  · intro hvalid
    rw [if_neg, if_neg, if_neg, if_neg, hvalid.output,
      digestError_eq_none.mpr ⟨hvalid.subjectDigest, hvalid.outputDigest⟩]
    · rfl
    · rw [Bool.not_eq_true]; exact hbegins.mpr hvalid.expected
    · rw [hvalid.subject]; decide
    · exact not_not.mpr hvalid.status
    · rw [not_or, not_not, not_not]; exact ⟨hvalid.id, hvalid.schemaVersion⟩

lemma isRecord_of_get {v w : Value} {k : String} (hget : v.get k = w) (hw : w ≠ .other) :
    v.isRecord := by
  cases v with
  | obj fields => rfl
  | _ => rw [← hget] at hw; exact absurd rfl hw

theorem topologyOutputError_eq_none {output : Value} {subjectNodeIds : List String} :
    topologyOutputError isIP output subjectNodeIds = none ↔
      ∃ controllerNodeId nodes nodeIds values rails, ValidOutput isIP output subjectNodeIds
        controllerNodeId nodes nodeIds values rails := by
  unfold topologyOutputError
  constructor
  · intro hnone
    split at hnone
    · split at hnone
      · next controllerNodeId hcontroller =>
        split at hnone
        · next hclusterId =>
          split at hnone
          · next nodes hnodes =>
            split at hnone
            · next hcount =>
              split at hnone
              · cases hnone
              next nodeIds hnodeIds =>
              split at hnone
              · next values hvalues =>
                split at hnone
                · next hrailCount =>
                  split at hnone
                  · cases hnone
                  next rails hread =>
                  obtain ⟨hgraph, hpeers⟩ := or_eq_none_iff.mp hnone
                  exact ⟨controllerNodeId, nodes, nodeIds, values, rails, hcontroller,
                    hclusterId, hnodes, hcount.1, hcount.2, hnodeIds, hvalues, hrailCount,
                    hread, hgraph, hpeers⟩
                · cases hnone
              · cases hnone
            · cases hnone
          · cases hnone
        · cases hnone
      · cases hnone
    · cases hnone
  · intro ⟨controllerNodeId, nodes, nodeIds, values, rails, h⟩
    have hrecord : output.isRecord :=
      isRecord_of_get h.controller nofun
    rw [if_pos hrecord, h.controller]
    dsimp only
    rw [if_pos h.clusterId, h.nodesAt]
    dsimp only
    rw [if_pos ⟨h.nodeCount, h.records⟩, h.nodesRead]
    rw [h.railsAt]
    dsimp only
    rw [if_pos h.railCount, h.railsRead]
    dsimp only
    rw [h.graph, h.peers]; rfl

def OutputNodes (output : Value) (ids : List String) : Prop :=
  ∃ nodes, output.get "nodes" = .arr nodes ∧ nodes.map (·.get "nodeId") = ids.map .str

lemma readNode_nodeId {rank : ℕ} {value : Value} {node : String × String}
    (hread : readNode rank value = some node) : value.get "nodeId" = .str node.1 := by
  unfold readNode at hread
  split at hread
  · split at hread
    · next hnode _ =>
      obtain ⟨-, heq⟩ := ite_none_right_eq_some.mp hread
      rw [hnode, ← some.inj heq]
    · cases hread
  · cases hread

lemma readNodes_nodeIds {rank : ℕ} {values : List Value} {nodes : List (String × String)}
    (hread : readNodes rank values = some nodes) :
    values.map (·.get "nodeId") = (nodes.map Prod.fst).map .str := by
  induction values generalizing rank nodes with
  | nil =>
    rw [readNodes] at hread
    cases hread; rfl
  | cons value rest ih =>
    rw [readNodes] at hread
    obtain ⟨node, hnode, hrest⟩ := bind_eq_some_iff.mp hread
    obtain ⟨more, hmore, rfl⟩ := map_eq_some_iff.mp hrest
    rw [map_cons, map_cons, map_cons, readNode_nodeId hnode, ih hmore]

theorem ValidOutput.outputNodes {output : Value} {subjectNodeIds : List String}
    {controllerNodeId : String} {nodes : List Value} {nodeIds : List String}
    {values : List Value} {rails : List Rail}
    (h : ValidOutput isIP output subjectNodeIds controllerNodeId nodes nodeIds values rails) :
    OutputNodes output nodeIds ∧ sortStrings nodeIds = subjectNodeIds := by
  have hids := h.nodesRead
  unfold outputNodeIds at hids
  split at hids
  · next typed htyped =>
    dsimp only at hids
    split at hids
    · next hchecks =>
      cases hids; exact ⟨⟨nodes, h.nodesAt, readNodes_nodeIds htyped⟩, hchecks.2.2.2⟩
    · cases hids
  · cases hids

/-- The canonical form names the same nodes. -/
theorem outputNodes_canonicalize {output copy : Value} {ids : List String}
    (hnodes : OutputNodes output ids) (hcopy : canonicalize output = some copy) :
    OutputNodes copy ids := by
  obtain ⟨nodes, hget, hids⟩ := hnodes
  obtain ⟨nodes', hget', hall⟩ := get_arr_canonicalize hcopy (by decide) hget
  refine ⟨nodes', hget', ?_⟩
  clear hget hget'
  induction nodes generalizing ids nodes' with
  | nil =>
    rw [canonicalizeAll] at hall
    cases hall; exact hids
  | cons node rest ih =>
    obtain ⟨node', rest', rfl, hnode, hrest⟩ := canonicalizeAll_cons hall
    cases ids with
    | nil => cases hids
    | cons id more =>
      obtain ⟨hid, hmore⟩ := cons.inj hids
      rw [map_cons, map_cons, get_str_canonicalize hnode (by decide) hid,
        ih hmore rest' hrest]

end Accepted

end NemoClaw.ClusterTopology
