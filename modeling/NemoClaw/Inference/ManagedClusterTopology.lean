import NemoClaw.Js.Text
import NemoClaw.Js.Value
import NemoClaw.Lib.GraphSearch

/- The topology of a managed cluster and the check of a topology artifact
(`managed-cluster-topology.ts`).

An artifact names the nodes it is about, and gives the nodes with their ranks, the rails
between them and the peers, as a value that has not been checked. The check reads that
value field by field; where the source goes on with a cast, here the value has been read
into a typed record.

Correspondence (TypeScript ↔ Lean): functions keep their names, and
`ManagedInferenceTopologyQualification` is `TopologyQualification`. The parts of
`topologyOutputError` are nodes, rails, graph and peers. `net.isIP` and the hash of a
canonical value are parameters.
-/
namespace NemoClaw.ClusterTopology

open Js

def TOPOLOGY_ID : String := "host-cluster.direct-cx7"
def TOPOLOGY_SCHEMA_VERSION : ℚ := 1

/-- `/^[A-Za-z0-9][A-Za-z0-9._:-]{0,127}$/u`. -/
def isClusterId : String → Bool :=
  isNameOf isAlphanumeric (fun c => isAlphanumeric c || "._:-".toList.contains c) 127

/-- `/^[A-Za-z0-9][A-Za-z0-9_.:-]{0,63}$/`. -/
def isSafeInterface : String → Bool :=
  isNameOf isAlphanumeric (fun c => isAlphanumeric c || "_.:-".toList.contains c) 63

/-- `SAFE_BINDING_HANDLE_PATTERN`: up to 8192 characters, of which a slash may be one. -/
def isSafeBindingHandle : String → Bool :=
  isNameOf isAlphanumeric (fun c => isAlphanumeric c || "._:/-".toList.contains c) 8191

/-- `/^[A-Za-z_][A-Za-z0-9._-]*$/`. -/
def isSshUsername (s : String) : Bool :=
  isNameOf (fun c => (isAlphanumeric c && !isDigit c) || c == '_')
    (fun c => isAlphanumeric c || "._-".toList.contains c) s.length s

/-- One label of a host: at most 63 letters, digits and inner hyphens. -/
def isHostLabel (label : List Char) : Bool :=
  let plain := fun c => isLower c || isDigit c
  label.head?.any plain && label.getLast?.any plain && decide (label.length ≤ 63) &&
    label.all fun c => plain c || c == '-'

/-- `SSH_HOST_PATTERN`: labels between dots. -/
def isSshHost (s : String) : Bool := (s.toList.splitOn '.').all isHostLabel

/-! ## Artifacts -/

inductive TopologyStatus where
  | qualified
  | unqualified
  | unknown
  deriving DecidableEq

/-- `ManagedInferenceTopologyQualification`; the output has not been checked. -/
structure TopologyQualification where
  id : String
  schemaVersion : ℚ
  status : TopologyStatus
  subjectNodeIds : List String
  subjectDigest : String
  outputDigest : String
  output : Value

structure Endpoint where
  nodeId : String
  netdev : String
  hcaDevice : String
  hcaPort : ℚ
  address : String
  prefixLength : ℚ
  peerAddress : String
  gidIndex : ℚ
  gidValue : String
  deriving DecidableEq

structure Rail where
  left : Endpoint
  right : Endpoint
  deriving DecidableEq

section Validation

variable (isIP : String → ℕ)

def validAddress (address : String) (prefixLength : ℚ) : Bool :=
  let version := isIP address
  let maxPrefixLength : ℚ := if version = 4 then 32 else if version = 6 then 128 else 0
  decide (0 < maxPrefixLength) && address != "0.0.0.0" && address != "::" &&
    Value.isInteger prefixLength && decide (0 < prefixLength) &&
    decide (prefixLength ≤ maxPrefixLength)

/-- What follows the last `@` is the host; what stands before it, a username. -/
def validSshTarget (target : String) : Bool :=
  if target = "" ∨ 286 < jsLength target ∨ isTrimmed target = false then false
  else match (target.toList.splitOn '@').map String.ofList with
    | [host] => isIP host == 4 || isSshHost host
    | [username, host] => isSshUsername username && (isIP host == 4 || isSshHost host)
    | _ => false

/-- `Number.isInteger(value) && value > 0 && value <= 255`. -/
def isHcaPort (port : ℚ) : Bool :=
  Value.isInteger port && decide (0 < port) && decide (port ≤ 255)

/-- `Number.isInteger(value) && value >= 0 && value <= 4095`. -/
def isGidIndex (index : ℚ) : Bool :=
  Value.isInteger index && decide (0 ≤ index) && decide (index ≤ 4095)

/-- The fields of an endpoint, where each has its type. -/
def readEndpoint (value : Value) : Option Endpoint :=
  let gid := value.get "roceGid"
  (value.get "nodeId").string?.bind fun nodeId =>
  (value.get "netdev").string?.bind fun netdev =>
  (value.get "hcaDevice").string?.bind fun hcaDevice =>
  (value.get "hcaPort").number?.bind fun hcaPort =>
  (value.get "address").string?.bind fun address =>
  (value.get "prefixLength").number?.bind fun prefixLength =>
  (value.get "peerAddress").string?.bind fun peerAddress =>
  (gid.get "index").number?.bind fun gidIndex =>
  (gid.get "value").string?.map fun gidValue =>
    ⟨nodeId, netdev, hcaDevice, hcaPort, address, prefixLength, peerAddress, gidIndex, gidValue⟩

def endpointValid (e : Endpoint) : Bool :=
  isSafeInterface e.netdev && isSafeInterface e.hcaDevice && isHcaPort e.hcaPort &&
    validAddress isIP e.address e.prefixLength && isIP e.peerAddress == isIP e.address &&
    e.peerAddress != e.address && isGidIndex e.gidIndex && isIP e.gidValue == 6 &&
    e.gidValue != "::"

def artifactEndpointError (value : Value) (expectedNodeId : String) : Except String Endpoint :=
  match readEndpoint value with
  | some e =>
    if e.nodeId = expectedNodeId ∧ endpointValid isIP e then .ok e
    else .error ("the " ++ expectedNodeId ++ " rail endpoint is invalid")
  | none => .error ("the " ++ expectedNodeId ++ " rail endpoint is invalid")

def readNode (rank : ℕ) (value : Value) : Option (String × String) :=
  if value.isRecord then
    match value.get "rank", value.get "role", value.get "nodeId", value.get "gpuId" with
    | .num q, .str role, .str nodeId, .str gpuId =>
      if q = rank ∧ role = (if rank = 0 then "head" else "worker") ∧ isClusterId nodeId ∧
          isClusterId gpuId then some (nodeId, gpuId)
      else none
    | _, _, _, _ => none
  else none

def readNodes : ℕ → List Value → Option (List (String × String))
  | _, [] => some []
  | rank, value :: rest =>
    (readNode rank value).bind fun node => (readNodes (rank + 1) rest).map (node :: ·)

def outputNodeIds (controllerNodeId : String) (subjectNodeIds : List String)
    (nodes : List Value) : Except String (List String) :=
  match readNodes 0 nodes with
  | some typed =>
    let nodeIds := typed.map Prod.fst
    if nodeIds.head? = some controllerNodeId ∧ nodeIds.Nodup ∧ (typed.map Prod.snd).Nodup ∧
        sortStrings nodeIds = subjectNodeIds then .ok nodeIds
    else .error "topology node roles or GPU identities are invalid"
  | none => .error "topology node roles or GPU identities are invalid"

def readRail (nodeIds : List String) (index : ℕ) (value : Value) : Except String Rail :=
  match value.get "index", value.get "endpoints" with
  | .num q, .arr [left, right] =>
    if q = index then
      match left.get "nodeId", right.get "nodeId" with
      | .str leftNodeId, .str rightNodeId =>
        if leftNodeId = rightNodeId ∨ leftNodeId ∉ nodeIds ∨ rightNodeId ∉ nodeIds then
          .error "topology rail node identities are invalid"
        else (artifactEndpointError isIP left leftNodeId).bind fun left =>
          (artifactEndpointError isIP right rightNodeId).bind fun right =>
            if left.address = right.peerAddress ∧ right.address = left.peerAddress ∧
                left.prefixLength = right.prefixLength then .ok ⟨left, right⟩
            else .error "topology rail addresses are not reciprocal"
      | _, _ => .error "topology rail node identities are invalid"
    else .error "topology rail indexes or endpoints are invalid"
  | _, _ => .error "topology rail indexes or endpoints are invalid"

def readRails (nodeIds : List String) : ℕ → List Value → Except String (List Rail)
  | _, [] => .ok []
  | index, value :: rest => (readRail isIP nodeIds index value).bind fun rail =>
      (readRails nodeIds (index + 1) rest).map (rail :: ·)

def endpointsOf (rails : List Rail) : List Endpoint := rails.flatMap fun r => [r.left, r.right]

def endpointsAt (rails : List Rail) (nodeId : String) : List Endpoint :=
  (endpointsOf rails).filter (·.nodeId = nodeId)

/-- `adjacency.get(nodeId)`: the nodes at the other ends, in the order they were added. -/
def neighbours (rails : List Rail) (nodeId : String) : List String :=
  (rails.flatMap fun r =>
    (if r.left.nodeId = nodeId then [r.right.nodeId] else []) ++
      if r.right.nodeId = nodeId then [r.left.nodeId] else []).eraseDups

/-- The queue of the source visits every node. -/
def isConnected (nodeIds : List String) (rails : List Rail) (start : String) : Bool :=
  (GraphSearch.reachedFrom (neighbours rails) nodeIds start).length == nodeIds.length

def railsError (nodeIds : List String) (controllerNodeId : String) (rails : List Rail) :
    Option String :=
  if (nodeIds.any fun n => (endpointsAt rails n).length != 2) ||
      (nodeIds.any fun n => ((endpointsAt rails n).map (·.netdev)).dedup.length != 2) ||
      ((endpointsOf rails).map (·.address)).dedup.length != rails.length * 2 then
    some "topology rail identities are not distinct"
  else if isConnected nodeIds rails controllerNodeId then none
  else some "topology rail graph is disconnected"

/-- The peer bindings; `bound` are the workers bound before. -/
def peersError (workerNodeIds : List String) : List String → List Value → Option String
  | _, [] => none
  | bound, value :: rest =>
    match value.get "nodeId", value.get "target", value.get "sshBindingHandle" with
    | .str nodeId, .str target, .str handle =>
      if nodeId ∈ workerNodeIds ∧ nodeId ∉ bound ∧ validSshTarget isIP target ∧
          isSafeBindingHandle handle then peersError workerNodeIds (nodeId :: bound) rest
      else some "topology peer binding is invalid"
    | _, _, _ => some "topology peer binding is invalid"

/-- The addresses at the controller have the master address among them, and the peers bind the
workers. -/
def masterAndPeersError (output : Value) (nodeIds : List String) (controllerNodeId : String)
    (rails : List Rail) : Option String :=
  match output.get "masterAddress" with
  | .str masterAddress =>
    if masterAddress ∈ (endpointsAt rails controllerNodeId).map (·.address) then
      match output.get "peers" with
      | .arr peers =>
        if peers.length = nodeIds.length - 1 then peersError isIP nodeIds.tail [] peers
        else some "topology peer binding is invalid"
      | _ => some "topology peer binding is invalid"
    else some "topology master address does not belong to the controller node"
  | _ => some "topology master address does not belong to the controller node"

def topologyOutputError (output : Value) (subjectNodeIds : List String) : Option String :=
  if output.isRecord then
    match output.get "controllerNodeId" with
    | .str controllerNodeId =>
      if isClusterId controllerNodeId then
        match output.get "nodes" with
        | .arr nodes =>
          if nodes.length = subjectNodeIds.length ∧ nodes.all Value.isRecord then
            match outputNodeIds controllerNodeId subjectNodeIds nodes with
            | .error message => some message
            | .ok nodeIds =>
              match output.get "rails" with
              | .arr rails =>
                if rails.length = nodeIds.length then
                  match readRails isIP nodeIds 0 rails with
                  | .error message => some message
                  | .ok typed => (railsError nodeIds controllerNodeId typed).or
                      (masterAndPeersError isIP output nodeIds controllerNodeId typed)
                else some "topology rails are invalid"
              | _ => some "topology rails are invalid"
          else some "topology nodes are invalid"
        | _ => some "topology nodes are invalid"
      else some "topology controller node is invalid"
    | _ => some "topology controller node is invalid"
  else some "topology qualification output is invalid"

variable (sha256 : Value → String)

def strings (ids : List String) : Value := .arr (ids.map .str)

def managedClusterTopologySubjectDigest (subjectNodeIds : List String) : Option String :=
  managedInferenceDigest sha256 (strings (sortStrings subjectNodeIds))

def managedClusterTopologyOutputDigest (output : Value) : Option String :=
  managedInferenceDigest sha256 output

/-- `subjectNodeIds.some((nodeId, index) => index > 0 && subjectNodeIds[index - 1] >= nodeId)`
does not hold. -/
def strictlySorted : List String → Bool
  | a :: b :: rest => !decide (compareLe b a) && strictlySorted (b :: rest)
  | _ => true

def subjectValid (subjectNodeIds : List String) : Bool :=
  decide (2 ≤ subjectNodeIds.length) && decide (subjectNodeIds.length ≤ 1024) &&
    decide subjectNodeIds.Nodup && subjectNodeIds.all isClusterId && strictlySorted subjectNodeIds

/-- `subjectNodeIds.some((nodeId, index) => nodeId !== expectedSubjectNodeIds[index])` does not
hold: the expected ids begin with the subject. -/
def subjectExpected (subjectNodeIds expectedSubjectNodeIds : List String) : Bool :=
  subjectNodeIds.isPrefixOf expectedSubjectNodeIds

def digestError (artifact : TopologyQualification) : Option String :=
  match managedClusterTopologySubjectDigest sha256 artifact.subjectNodeIds with
  | none => some "topology qualification digest is invalid"
  | some subjectDigest =>
    if artifact.subjectDigest ≠ subjectDigest then
      some "topology qualification subject digest does not match its subject"
    else match managedClusterTopologyOutputDigest sha256 artifact.output with
    | none => some "topology qualification digest is invalid"
    | some outputDigest =>
      if artifact.outputDigest ≠ outputDigest then
        some "topology qualification output digest does not match its output"
      else none

def getManagedClusterTopologyArtifactError (artifact : TopologyQualification)
    (expectedSubjectNodeIds : Option (List String)) : Option String :=
  if artifact.id ≠ TOPOLOGY_ID ∨ artifact.schemaVersion ≠ TOPOLOGY_SCHEMA_VERSION then
    some "topology qualification identity is incompatible"
  else if artifact.status ≠ .qualified then some "topology qualification is not qualified"
  else if subjectValid artifact.subjectNodeIds = false then
    some "topology qualification subject is invalid"
  else if expectedSubjectNodeIds.any fun expected =>
      !subjectExpected artifact.subjectNodeIds expected then
    some "topology qualification subject does not match the readiness reports"
  else (topologyOutputError isIP artifact.output artifact.subjectNodeIds).or
    (digestError sha256 artifact)

end Validation

end NemoClaw.ClusterTopology
