import NemoClaw.Js.Object
import NemoClaw.Js.Text
import NemoClaw.Lib.CallHistory
import NemoClaw.Lib.Pattern

/- The lifecycle of a managed vLLM cluster (`managed-cluster-lifecycle.ts`).

The daemons of the nodes are only reached through the calls of an executor, each of
which is answered with a value or fails. What a run has done is the list of its calls
with their answers; nothing is assumed about the answers.

Correspondence (TypeScript ↔ Lean): functions keep their names;
`ManagedClusterVllmLifecycleDeps` is `Call`, with its `Answer`.

`Promise.all` makes all of its calls, also where one of them fails; here they are made
one after the other. The lock is a call before the operation and one after it. The keyed
hash of an API key is the parameter `hmac`.
-/
namespace NemoClaw.ManagedCluster

open CallTree CallTree.Tree Js

/-- The label of every container that this lifecycle starts. -/
def MANAGED_LABEL : String := "com.nvidia.nemoclaw.managed-vllm"
/-- The label for the fingerprint of the API key a container serves with. -/
def API_KEY_FINGERPRINT_LABEL : String := "com.nvidia.nemoclaw.serving-api-key-fingerprint"
/-- The label for the start that a container belongs to. -/
def TRANSACTION_LABEL : String := "com.nvidia.nemoclaw.serving-transaction"
/-- The compose project of a managed cluster. -/
def VLLM_PROJECT_ID : String := "nemoclaw-vllm-cluster"
/-- The container names of the two-station setup. -/
def STATION_CONTAINER_NAMES : List String := ["nemoclaw-vllm", "nemoclaw-vllm-worker"]
/-- The prefix of that setup's labels. -/
def STATION_LABEL_PREFIX : String := "com.nvidia.nemoclaw.vllm-"
def COMPOSE_PROJECT_LABEL : String := "com.docker.compose.project"
def COMPOSE_SERVICE_LABEL : String := "com.docker.compose.service"

/-- `/(?:^|[./:_-])vllm(?:$|[./:@_-])/i`. -/
def VLLM_TOKEN_PATTERN : Pattern Char :=
  .all [.alt .start (.letter ("./:_-".toList.contains ·)),
    .all ("vllm".toList.map fun c => .letter fun d => d == c || d == c.toUpper),
    .alt .stop (.letter ("./:@_-".toList.contains ·))]

/-- A full container id: 64 lower-case hex digits. -/
def isContainerId (s : String) : Bool := isLowerHexOf 64 s
/-- The id of a start: 32 lower-case hex digits. -/
def isTransactionId (s : String) : Bool := isLowerHexOf 32 s

/-! ## Plans and what is observed -/

/-- An object whose values are strings. -/
abbrev Labels := List (String × String)

/-- What a node does in the cluster. -/
inductive Role where
  | head
  | worker
  deriving DecidableEq

/-- The role as it is written in labels and messages. -/
def Role.text : Role → String
  | head => "head"
  | worker => "worker"

/-- The fields of `ManagedClusterVllmRolePlan` that the lifecycle reads or hands on. -/
structure RolePlan where
  role : Role
  rank : Int
  nodeId : String
  containerName : String
  image : String
  preparation : Json
  endpoint : Option String
  baseLabels : Labels

/-- How long readiness is waited for, and for which model. -/
structure Readiness where
  timeoutMs : ℚ
  expectedModel : String

/-- The roles of a cluster with the ports it takes on every node. -/
structure Plan where
  roles : List RolePlan
  apiPort : ℚ
  masterPort : ℚ
  readiness : Readiness

/-- A container as its daemon lists it. -/
structure ObservedContainer where
  id : String
  name : String
  image : String
  running : Bool
  healthy : Bool
  labels : Labels

/-- What inspecting a node shows. -/
structure NodeSnapshot where
  containers : List ObservedContainer
  listeningPorts : List ℚ

/-- The snapshot of the node of a role. -/
structure RoleSnapshot where
  nodeId : String
  snapshot : NodeSnapshot

/-- A container that a receipt names, on its node. -/
structure OwnedContainer where
  nodeId : String
  containerId : String
  deriving DecidableEq

/-- What is on the nodes already. -/
inductive ExistingState where
  | clear
  | reuse (containers : List OwnedContainer) (transactionId : String)
  | conflict (reason : String)
  | unknown (reason : String)

/-- A container that is exactly the one planned for a role. -/
structure RoleObservation where
  rolePlan : RolePlan
  container : ObservedContainer
  expectedLabels : Labels

/-- A container that this start has created. -/
structure CreatedContainer where
  rolePlan : RolePlan
  containerId : String
  expectedLabels : Labels

/-- The container has every expected label, others aside. -/
def labelsMatch (actual expected : Labels) : Bool :=
  expected.all fun kv => actual.lookup kv.1 == some kv.2

/-- The labels of a role's container in a start with this key. -/
def labelsForStart (rolePlan : RolePlan) (apiKeyFingerprint transactionId : String) : Labels :=
  setOwn (setOwn rolePlan.baseLabels API_KEY_FINGERPRINT_LABEL apiKeyFingerprint)
    TRANSACTION_LABEL transactionId

/-- The start that a container says it belongs to. -/
def transactionOf (container : ObservedContainer) : String :=
  (container.labels.lookup TRANSACTION_LABEL).getD ""

/-- The one container with a role's name, if all else about it fits as well. -/
def exactRoleObservation (snapshot : NodeSnapshot) (rolePlan : RolePlan)
    (apiKeyFingerprint : String) : Option RoleObservation :=
  match snapshot.containers.filter fun c => c.name == rolePlan.containerName with
  | [container] =>
    let transactionId := transactionOf container
    let expectedLabels := labelsForStart rolePlan apiKeyFingerprint transactionId
    if isContainerId container.id && isTransactionId transactionId &&
        container.image == rolePlan.image && labelsMatch container.labels expectedLabels then
      some ⟨rolePlan, container, expectedLabels⟩
    else none
  | _ => none

/-- A container that may be one of a managed cluster, by its name, image or labels. -/
def isRelatedManagedVllmContainer (container : ObservedContainer) : Bool :=
  STATION_CONTAINER_NAMES.contains container.name ||
    VLLM_TOKEN_PATTERN.test container.name.toList ||
    VLLM_TOKEN_PATTERN.test container.image.toList ||
    (container.labels.lookup MANAGED_LABEL).isSome ||
    container.labels.lookup COMPOSE_PROJECT_LABEL == some VLLM_PROJECT_ID ||
    container.labels.lookup COMPOSE_SERVICE_LABEL == some "vllm-cluster" ||
    container.labels.any fun kv => STATION_LABEL_PREFIX.toList.isPrefixOf kv.1.toList

/-- What makes a snapshot unusable. -/
def invalidSnapshotReason (snapshot : NodeSnapshot) (node : String) : Option String :=
  if snapshot.listeningPorts.any fun port => port.den != 1 || port < 1 || 65535 < port then
    some (node ++ " listener inspection is malformed")
  else
    let ids := snapshot.containers.map (·.id)
    if ids.any (fun id => !isContainerId id) || !decide ids.Nodup then
      some (node ++ " container inspection is malformed or ambiguous")
    else none

/-- `snapshots.find(({ nodeId }) => nodeId === id)?.snapshot`. -/
def snapshotOf (snapshots : List RoleSnapshot) (nodeId : String) : Option NodeSnapshot :=
  (snapshots.find? fun s => s.nodeId == nodeId).map (·.snapshot)

/-- For each role, the container that fits it. -/
def observationsOf (plan : Plan) (apiKeyFingerprint : String) (snapshots : List RoleSnapshot) :
    List (Option RoleObservation) :=
  plan.roles.map fun rolePlan => (snapshotOf snapshots rolePlan.nodeId).bind fun snapshot =>
    exactRoleObservation snapshot rolePlan apiKeyFingerprint

/-- The first container of a vLLM runtime that is none of the exact ones. -/
def unexpectedRelated (snapshots : List RoleSnapshot) (exact : List RoleObservation) :
    Option ObservedContainer :=
  (snapshots.flatMap (·.snapshot.containers)).find? fun container =>
    isRelatedManagedVllmContainer container && !(exact.map (·.container.id)).contains container.id

/-- `new Set(values).size !== 1`, for a list that is not empty. -/
def allEqual (values : List String) : Bool :=
  values.all fun v => values.head? == some v

/-- A port of the plan on which a node listens already. -/
def occupiedPort (plan : Plan) (snapshots : List RoleSnapshot) : Option (String × ℚ) :=
  snapshots.findSome? fun s =>
    (s.snapshot.listeningPorts.find? fun port => port == plan.apiPort || port == plan.masterPort).map
      fun port => (s.nodeId, port)

/-- `String(port)` of an integer. -/
def portText (port : ℚ) : String := toString port.num

/-- Whether a start may go ahead, may reuse what is there, or must stop. -/
def classifyManagedClusterExistingState (plan : Plan) (apiKeyFingerprint : String)
    (snapshots : List RoleSnapshot) : ExistingState :=
  if !isLowerHexOf 64 apiKeyFingerprint then
    .unknown "managed cluster API key fingerprint is invalid"
  else if snapshots.length != plan.roles.length ||
      !decide (snapshots.map (·.nodeId)).Nodup ||
      snapshots.any (fun s => !plan.roles.any fun role => role.nodeId == s.nodeId) then
    .unknown "managed cluster node inspection is incomplete"
  else match snapshots.findSome? fun s => invalidSnapshotReason s.snapshot s.nodeId with
  | some invalid => .unknown invalid
  | none =>
    let observations := observationsOf plan apiKeyFingerprint snapshots
    let exact := observations.filterMap id
    match unexpectedRelated snapshots exact with
    | some container => .conflict ("existing related container " ++ container.name ++
        " is not part of the exact managed cluster")
    | none =>
      if observations.any Option.isSome then
        if observations.any Option.isNone then
          .conflict "managed cluster deployment is incomplete"
        else if !allEqual (exact.map fun o => transactionOf o.container) then
          .conflict "managed cluster transaction labels do not match"
        else if exact.any fun o => !o.container.running || !o.container.healthy then
          .conflict "managed cluster deployment is stopped, incomplete, or unhealthy"
        else
          .reuse (exact.map fun o => ⟨o.rolePlan.nodeId, o.container.id⟩)
            ((exact.head?.map fun o => transactionOf o.container).getD "")
      else if (snapshots.flatMap (·.snapshot.containers)).any fun c =>
          (plan.roles.map (·.containerName)).contains c.name then
        .conflict "managed cluster container name ownership is foreign"
      else match occupiedPort plan snapshots with
      | some (nodeId, port) =>
        .conflict (nodeId ++ " port " ++ portText port ++ " is already in use")
      | none => .clear

/-! ## The executor -/

/-- What a container is started with; only the head is given the key. -/
structure ContainerStartRequest where
  rolePlan : RolePlan
  labels : Labels
  preparation : Json
  bearerApiKey : Option String

/-- The answer to a start, which may name a container even when it failed. -/
structure ContainerStartResult where
  ok : Bool
  containerId : Option String
  reason : Option String

/-- The answer to a staging or a removal. -/
structure StepResult where
  ok : Bool
  reason : Option String

/-- A wait for one container. -/
structure ContainerWaitRequest where
  rolePlan : RolePlan
  containerId : String
  expectedLabels : Labels
  timeoutMs : ℚ

/-- A probe of the served API. -/
structure ApiProbeRequest where
  baseUrl : String
  apiKey : String
  expectedModel : String
  timeoutMs : ℚ

/-- What the lifecycle asks its executor. The lock is taken and released around it. -/
inductive Call where
  | lockLifecycle
  | unlockLifecycle
  | inspectNode (rolePlan : RolePlan)
  | stageNode (rolePlan : RolePlan) (preparation : Json)
  | startContainer (request : ContainerStartRequest)
  | waitForContainerReady (request : ContainerWaitRequest)
  | waitForWorkerDistributedReady (request : ContainerWaitRequest)
  | removeContainer (rolePlan : RolePlan) (exactContainerId : String)
  | probeModels (request : ApiProbeRequest)
  | probeChat (request : ApiProbeRequest)
  | createTransactionId

/-- An answer, or the message of the error that was thrown. -/
@[reducible] def Answer : Call → Type
  | .lockLifecycle | .unlockLifecycle => Except String Unit
  | .inspectNode _ => Except String NodeSnapshot
  | .stageNode _ _ | .removeContainer _ _ => Except String StepResult
  | .startContainer _ => Except String ContainerStartResult
  | .waitForContainerReady _ | .waitForWorkerDistributedReady _ => Except String Bool
  | .probeModels _ | .probeChat _ => Except String Bool
  | .createTransactionId => Except String String

/-- A function of the lifecycle as a tree of calls to its host. -/
abbrev Run := Tree Call Answer String

/-- One call, with its answer. -/
def call (q : Call) : Run (Answer q) := ask q

def inspectNode (rolePlan : RolePlan) : Run (Except String NodeSnapshot) :=
  call (.inspectNode rolePlan)

def stageNode (rolePlan : RolePlan) : Run (Except String StepResult) :=
  call (.stageNode rolePlan rolePlan.preparation)

def startContainer (request : ContainerStartRequest) : Run (Except String ContainerStartResult) :=
  call (.startContainer request)

def waitForContainerReady (request : ContainerWaitRequest) : Run (Except String Bool) :=
  call (.waitForContainerReady request)

def waitForWorkerDistributedReady (request : ContainerWaitRequest) : Run (Except String Bool) :=
  call (.waitForWorkerDistributedReady request)

def removeContainer (rolePlan : RolePlan) (containerId : String) :
    Run (Except String StepResult) :=
  call (.removeContainer rolePlan containerId)

def probeModels (request : ApiProbeRequest) : Run (Except String Bool) :=
  call (.probeModels request)

def probeChat (request : ApiProbeRequest) : Run (Except String Bool) :=
  call (.probeChat request)

def createTransactionId : Run (Except String String) := call .createTransactionId

/-- `withLifecycleLock(plan, operation)`. -/
def withLifecycleLock {α : Type} (operation : Run α) : Run α :=
  (call .lockLifecycle : Run (Except String Unit)).bind fun locked =>
    (lift locked).bind fun _ => operation.tryFinally
      ((call .unlockLifecycle : Run (Except String Unit)).bind fun unlocked => lift unlocked)

/-- The nodes are inspected one after the other. -/
def inspectEach : List RolePlan → Run (List (Except String NodeSnapshot))
  | [] => pure []
  | rolePlan :: rest => (inspectNode rolePlan).bind fun snapshot =>
      (inspectEach rest).bind fun snapshots => pure (snapshot :: snapshots)

/-- The answers, provided that none of them is an error. -/
def allOk {α : Type} : List (Except String α) → Option (List α)
  | [] => some []
  | .error _ :: _ => none
  | .ok a :: rest => (allOk rest).map (a :: ·)

/-- The snapshots with the nodes they are of. -/
def roleSnapshots (roles : List RolePlan) (snapshots : List NodeSnapshot) : List RoleSnapshot :=
  List.zipWith (fun rolePlan snapshot => ⟨rolePlan.nodeId, snapshot⟩) roles snapshots

/-- All snapshots, or nothing when one node could not be inspected. -/
def inspectAll (plan : Plan) : Run (Option (List RoleSnapshot)) :=
  (inspectEach plan.roles).bind fun snapshots =>
    pure ((allOk snapshots).map (roleSnapshots plan.roles))

/-- The fingerprint of a key, which has to be 64 hex digits. -/
def managedClusterVllmApiKeyFingerprint (hmac : String → String) (apiKey : String) :
    Except String String :=
  if isLowerHexOf 64 apiKey then .ok (hmac apiKey)
  else .error "Managed cluster vLLM API key must be 64 lowercase hexadecimal characters."

/-- What is on the nodes before a start. -/
def preflightManagedClusterVllm (plan : Plan) (apiKeyFingerprint : String) : Run ExistingState :=
  (inspectAll plan).bind fun snapshots => pure <| match snapshots with
    | some snapshots => classifyManagedClusterExistingState plan apiKeyFingerprint snapshots
    | none => .unknown "could not inspect every managed cluster container daemon"

/-- The created container, if it is still the one that was started. -/
def exactCreatedContainer (snapshot : NodeSnapshot) (created : CreatedContainer) :
    Option ObservedContainer :=
  match snapshot.containers.filter fun c => c.id == created.containerId with
  | [container] =>
    if container.name == created.rolePlan.containerName &&
        container.image == created.rolePlan.image &&
        labelsMatch container.labels created.expectedLabels then some container
    else none
  | _ => none

/-- One round of the loop of `rollbackCreated`, with the error it adds. -/
def rollbackOne (item : CreatedContainer) : Run (Option String) :=
  (inspectNode item.rolePlan).bind fun inspected => match inspected with
    | .error _ => pure (some
        (item.rolePlan.role.text ++ " rollback ownership could not be inspected"))
    | .ok snapshot =>
      if (exactCreatedContainer snapshot item).isNone then
        pure (some (item.rolePlan.role.text ++
          " rollback ownership changed; container was left untouched"))
      else (removeContainer item.rolePlan item.containerId).bind fun removed =>
        pure <| match removed with
          | .error _ => some (item.rolePlan.role.text ++ " rollback removal failed")
          | .ok result =>
            if result.ok then none
            else some (result.reason.getD (item.rolePlan.role.text ++ " rollback removal failed"))

/-- The containers are taken back in turn, with the errors that this gives. -/
def rollbackEach : List CreatedContainer → Run (List String)
  | [] => pure []
  | item :: rest => (rollbackOne item).bind fun error =>
      (rollbackEach rest).bind fun errors => pure (error.toList ++ errors)

/-- The newest container is taken back first. -/
def rollbackCreated (created : List CreatedContainer) : Run (List String) :=
  rollbackEach created.reverse

/-- Nothing related is on any node. -/
def ExistingState.isClear : ExistingState → Bool
  | clear => true
  | _ => false

/-- After the rollback its errors count only when the nodes are not seen to be clear. -/
def rollbackCreatedAndProveClear (plan : Plan) (apiKeyFingerprint : String)
    (created : List CreatedContainer) : Run (List String) :=
  (rollbackCreated created).bind fun rollbackErrors =>
    (inspectAll plan).bind fun snapshots => pure <|
      if snapshots.any fun s =>
          (classifyManagedClusterExistingState plan apiKeyFingerprint s).isClear then []
      else rollbackErrors ++ ["managed cluster post-failure runtime state could not be proven " ++
        "clear; SSH ownership state was retained"]

/-- What came of starting a role, with the container to take back, if any. -/
inductive RoleStart where
  | started (created : CreatedContainer)
  | failed (reason : String) (created : Option CreatedContainer)

/-- The wait that the role calls for; an error counts as not ready. -/
def waitForRole (request : ContainerWaitRequest) : Run Bool :=
  (match request.rolePlan.role with
    | .worker => waitForWorkerDistributedReady request
    | .head => waitForContainerReady request).bind fun ready => pure <| match ready with
      | .ok ready => ready
      | .error _ => false

/-- `startRole`, once the container has an exact id. -/
def finishRole (created : CreatedContainer) (timeoutMs : ℚ) : Run RoleStart :=
  let role := created.rolePlan.role.text
  (waitForRole ⟨created.rolePlan, created.containerId, created.expectedLabels, timeoutMs⟩).bind
    fun ready =>
      if !ready then pure (.failed (role ++ " container did not become ready") (some created))
      else (inspectNode created.rolePlan).bind fun inspected => pure <| match inspected with
        | .error _ =>
          .failed (role ++ " container ownership could not be revalidated") (some created)
        | .ok snapshot =>
          if (exactCreatedContainer snapshot created).any fun c => c.running && c.healthy then
            .started created
          else .failed (role ++ " container ownership or health changed") (some created)

/-- A role's container is started, and its id looked at. -/
def startRole (rolePlan : RolePlan) (apiKey apiKeyFingerprint transactionId : String)
    (timeoutMs : ℚ) : Run RoleStart :=
  let expectedLabels := labelsForStart rolePlan apiKeyFingerprint transactionId
  (startContainer ⟨rolePlan, expectedLabels, rolePlan.preparation,
    if rolePlan.role = .head then some apiKey else none⟩).bind fun answer => match answer with
    | .error _ => pure (.failed (rolePlan.role.text ++ " container start failed") none)
    | .ok started =>
      let containerId := started.containerId.getD ""
      if !isContainerId containerId then
        pure (.failed (started.reason.getD
          (rolePlan.role.text ++ " container start returned no exact container ID")) none)
      else
        let created := CreatedContainer.mk rolePlan containerId expectedLabels
        if !started.ok then
          pure (.failed (started.reason.getD (rolePlan.role.text ++ " container start failed"))
            (some created))
        else finishRole created timeoutMs

/-! ## The start of a cluster -/

/-- At which point a start failed. -/
inductive FailureCode where
  | conflict
  | unknown
  | stagingFailed
  | startFailed
  | healthFailed
  deriving DecidableEq

/-- What came of a start. -/
inductive StartResult where
  | started (reusedExisting : Bool) (baseUrl : Option String) (containers : List OwnedContainer)
      (apiKeyFingerprint : String)
  | failed (code : FailureCode) (reason : String) (rollbackErrors : List String)
  deriving DecidableEq

/-- The first role of rank zero that is a head; without one, an error. -/
def managedClusterHeadRole (plan : Plan) : Except String RolePlan :=
  match plan.roles.find? fun role => role.rank == 0 && role.role == .head with
  | some head => .ok head
  | none => .error "Cannot materialize managed-cluster vLLM: plan has no rank-zero head role"

/-- The probes themselves; an error counts as not healthy. -/
def probeApi (request : ApiProbeRequest) : Run Bool :=
  (probeModels request).bind fun models => match models with
    | .ok true =>
      (probeChat { request with timeoutMs := min request.timeoutMs 120000 }).bind fun chat =>
        pure <| match chat with
          | .ok chat => chat
          | .error _ => false
    | _ => pure false

/-- The API of the head is probed, if it has an endpoint. -/
def probeManagedApi (plan : Plan) (apiKey : String) : Run Bool :=
  (lift (managedClusterHeadRole plan)).bind fun head => match head.endpoint with
    | none => pure false
    | some "" => pure false
    | some baseUrl =>
      probeApi ⟨baseUrl, apiKey, plan.readiness.expectedModel, plan.readiness.timeoutMs⟩

/-- `[...plan.roles].sort((left, right) => right.rank - left.rank)`. -/
def byDescendingRank (roles : List RolePlan) : List RolePlan :=
  roles.insertionSort fun left right => right.rank ≤ left.rank

/-- The nodes are staged one after the other. -/
def stageEach : List RolePlan → Run (List StepResult)
  | [] => pure []
  | rolePlan :: rest => (stageNode rolePlan).bind fun staged =>
      (stageEach rest).bind fun results => pure <| (match staged with
        | .ok result => result
        | .error _ => ⟨false, some (rolePlan.role.text ++ " staging failed")⟩) :: results

/-- The roles are started one after the other, until one fails. -/
def startEach (apiKey apiKeyFingerprint transactionId : String) (timeoutMs : ℚ) :
    List RolePlan → List CreatedContainer → Run (Option String × List CreatedContainer)
  | [], created => pure (none, created)
  | rolePlan :: rest, created =>
    (startRole rolePlan apiKey apiKeyFingerprint transactionId timeoutMs).bind fun result =>
      match result with
      | .failed reason last => pure (some reason, created ++ last.toList)
      | .started container =>
        startEach apiKey apiKeyFingerprint transactionId timeoutMs rest (created ++ [container])

/-- The conditions under which a new cluster is committed. -/
def commits (state : ExistingState) (transactionId : String) (created : List CreatedContainer) :
    Bool :=
  match state with
  | .reuse containers transaction =>
    transaction == transactionId && containers.length == created.length &&
      created.all fun c => containers.contains ⟨c.rolePlan.nodeId, c.containerId⟩
  | _ => false

/-- What a message says of the state. -/
def ExistingState.reasonText : ExistingState → String
  | clear => "clear"
  | reuse _ _ => "reuse"
  | conflict reason => reason
  | unknown reason => reason

/-- The code of a start that the state stops. -/
def ExistingState.failureCode : ExistingState → FailureCode
  | unknown _ => .unknown
  | _ => .conflict

/-- The start fails, after what it created is taken back. -/
def failAfterRollback (plan : Plan) (apiKeyFingerprint : String) (created : List CreatedContainer)
    (code : FailureCode) (reason : String) : Run StartResult :=
  (rollbackCreatedAndProveClear plan apiKeyFingerprint created).bind fun errors =>
    pure (.failed code reason errors)

/-- `startNewCluster`, after the containers were started: health and the commit. -/
def commitCluster (plan : Plan) (apiKey apiKeyFingerprint transactionId : String)
    (created : List CreatedContainer) : Run StartResult :=
  (probeManagedApi plan apiKey).bind fun healthy =>
    if !healthy then
      failAfterRollback plan apiKeyFingerprint created .healthFailed
        "managed cluster models or chat health check failed"
    else (inspectAll plan).bind fun finalSnapshots =>
      if finalSnapshots.any fun s =>
          commits (classifyManagedClusterExistingState plan apiKeyFingerprint s) transactionId
            created then
        (lift (managedClusterHeadRole plan)).bind fun head =>
          pure (.started false head.endpoint
            (created.map fun c => ⟨c.rolePlan.nodeId, c.containerId⟩) apiKeyFingerprint)
      else failAfterRollback plan apiKeyFingerprint created .healthFailed
        "managed cluster ownership changed before lifecycle commit"

/-- `startNewCluster`, after the nodes were staged and shown to be clear still. -/
def startStagedCluster (plan : Plan) (apiKey apiKeyFingerprint : String) : Run StartResult :=
  createTransactionId.bind fun answer => (lift answer).bind fun transactionId =>
    if !isTransactionId transactionId then
      pure (.failed .unknown "managed cluster lifecycle transaction ID is invalid" [])
    else
      (startEach apiKey apiKeyFingerprint transactionId plan.readiness.timeoutMs
        (byDescendingRank plan.roles) []).bind fun started => match started with
        | (some reason, created) =>
          failAfterRollback plan apiKeyFingerprint created .startFailed reason
        | (none, created) => commitCluster plan apiKey apiKeyFingerprint transactionId created

/-- The nodes are staged, looked at once more, and the roles started. -/
def startNewCluster (plan : Plan) (apiKey apiKeyFingerprint : String) : Run StartResult :=
  (stageEach (byDescendingRank plan.roles)).bind fun staged =>
    match staged.find? fun result => !result.ok with
    | some failedStage => pure (.failed .stagingFailed
        (failedStage.reason.getD "managed cluster staging failed") [])
    | none => (inspectAll plan).bind fun snapshots => match snapshots with
      | none => pure (.failed .unknown "could not re-inspect every daemon after staging" [])
      | some snapshots =>
        let afterStage := classifyManagedClusterExistingState plan apiKeyFingerprint snapshots
        if !afterStage.isClear then
          pure (.failed afterStage.failureCode
            ("managed cluster ownership changed during staging: " ++ afterStage.reasonText) [])
        else startStagedCluster plan apiKey apiKeyFingerprint

/-- A healthy cluster is reused, clear nodes get a new one, and else nothing is done. -/
def startUnderLock (plan : Plan) (apiKey apiKeyFingerprint : String) : Run StartResult :=
  (preflightManagedClusterVllm plan apiKeyFingerprint).bind fun preflight => match preflight with
    | .unknown reason => pure (.failed .unknown reason [])
    | .conflict reason => pure (.failed .conflict reason [])
    | .reuse containers _ => (probeManagedApi plan apiKey).bind fun healthy =>
      if !healthy then
        pure (.failed .conflict "existing managed cluster API is unhealthy; no repair attempted" [])
      else (lift (managedClusterHeadRole plan)).bind fun head =>
        pure (.started true head.endpoint containers apiKeyFingerprint)
    | .clear => startNewCluster plan apiKey apiKeyFingerprint

/-- The start, under the lifecycle lock. -/
def startAutomaticManagedClusterVllm (hmac : String → String) (plan : Plan) (apiKey : String) :
    Run StartResult :=
  match managedClusterVllmApiKeyFingerprint hmac apiKey with
  | .error message => pure (.failed .unknown message [])
  | .ok apiKeyFingerprint =>
    (withLifecycleLock (startUnderLock plan apiKey apiKeyFingerprint)).handle fun message =>
      pure (.failed .unknown ("managed cluster lifecycle failed: " ++ message) [])

/-- The containers of a complete cluster, all of one start. -/
def exactClusterForCleanup (plan : Plan) (apiKeyFingerprint : String)
    (snapshots : List RoleSnapshot) : Option (List RoleObservation) :=
  let observations := observationsOf plan apiKeyFingerprint snapshots
  let exact := observations.filterMap id
  if observations.any Option.isNone then none
  else if exact.isEmpty || !allEqual (exact.map fun o => transactionOf o.container) then none
  else if (unexpectedRelated snapshots exact).isSome then none
  else some exact

/-- What a cleanup removes, and what of the receipt is gone already. -/
structure CleanupTargets where
  observations : List RoleObservation
  alreadyAbsentContainerIds : List String

/-- The container of the receipt on a role's node, or its id when it is absent. -/
def cleanupTarget (apiKeyFingerprint : String) (snapshots : List RoleSnapshot)
    (ownership : List OwnedContainer) (transactionId : Option String) (rolePlan : RolePlan) :
    Except String (RoleObservation ⊕ String) :=
  match snapshotOf snapshots rolePlan.nodeId,
      ownership.find? fun owned => owned.nodeId == rolePlan.nodeId with
  | some snapshot, some owned =>
    let expectedId := owned.containerId
    match invalidSnapshotReason snapshot rolePlan.nodeId with
    | some invalid => .error invalid
    | none =>
      let related := snapshot.containers.filter isRelatedManagedVllmContainer
      if !snapshot.containers.any fun c => c.id == expectedId then
        if related.isEmpty then .ok (.inr expectedId)
        else .error (rolePlan.nodeId ++
          " receipt-owned container is absent but related runtime state exists")
      else match exactRoleObservation snapshot rolePlan apiKeyFingerprint with
      | none => .error (rolePlan.nodeId ++ " receipt-owned container identity changed")
      | some observation =>
        if observation.container.id != expectedId || related.any fun c => c.id != expectedId then
          .error (rolePlan.nodeId ++ " receipt-owned container identity changed")
        else if transactionId.any fun t => t != transactionOf observation.container then
          .error "managed cluster receipt-owned transaction identity changed"
        else .ok (.inl observation)
  | _, _ => .error "managed cluster cleanup receipt is incomplete"

/-- The targets of all roles, of one start throughout. -/
def cleanupTargets (apiKeyFingerprint : String) (snapshots : List RoleSnapshot)
    (ownership : List OwnedContainer) :
    List RolePlan → Option String → Except String CleanupTargets
  | [], _ => .ok ⟨[], []⟩
  | rolePlan :: rest, transactionId =>
    (cleanupTarget apiKeyFingerprint snapshots ownership transactionId rolePlan).bind fun target =>
      match target with
      | .inl observation =>
        (cleanupTargets apiKeyFingerprint snapshots ownership rest
          (some (transactionOf observation.container))).map fun targets =>
            { targets with observations := observation :: targets.observations }
      | .inr absent =>
        (cleanupTargets apiKeyFingerprint snapshots ownership rest transactionId).map fun targets =>
          { targets with
            alreadyAbsentContainerIds := absent :: targets.alreadyAbsentContainerIds }

/-- The targets of a receipt that fits the plan. -/
def receiptOwnedTargetsForCleanup (plan : Plan) (apiKeyFingerprint : String)
    (snapshots : List RoleSnapshot) (ownership : List OwnedContainer) :
    Except String CleanupTargets :=
  let expectedIds := ownership.map (·.containerId)
  if ownership.length != plan.roles.length || expectedIds.any (fun id => !isContainerId id) ||
      !decide expectedIds.Nodup || !decide (ownership.map (·.nodeId)).Nodup ||
      ownership.any (fun owned => !plan.roles.any fun role => role.nodeId == owned.nodeId) then
    .error "managed cluster cleanup receipt identities are invalid"
  else cleanupTargets apiKeyFingerprint snapshots ownership plan.roles none

/-- What came of a cleanup. -/
inductive CleanupResult where
  | removed (removedContainerIds alreadyAbsentContainerIds : List String)
  | failed (reason : String) (removedContainerIds : List String)

/-- The loop that removes the containers; `removed` are the ids removed before. -/
def removeEach (alreadyAbsent : List String) : List RoleObservation → List String →
    Run CleanupResult
  | [], removed => pure (.removed removed alreadyAbsent)
  | observation :: rest, removed =>
    (removeContainer observation.rolePlan observation.container.id).bind fun answer =>
      (lift answer).bind fun result =>
        if !result.ok then
          pure (.failed (result.reason.getD
            (observation.rolePlan.role.text ++ " cleanup failed")) removed)
        else removeEach alreadyAbsent rest (removed ++ [observation.container.id])

/-- The receipt's containers are removed, or without one those of a complete cluster. -/
def cleanupUnderLock (plan : Plan) (apiKeyFingerprint : String)
    (ownership : Option (List OwnedContainer)) : Run CleanupResult :=
  (inspectAll plan).bind fun inspected => match inspected with
    | none => pure (.failed "could not inspect every managed cluster container daemon" [])
    | some snapshots => match ownership with
      | some ownership =>
        match receiptOwnedTargetsForCleanup plan apiKeyFingerprint snapshots ownership with
        | .error reason => pure (.failed reason [])
        | .ok targets => removeEach targets.alreadyAbsentContainerIds targets.observations []
      | none => match exactClusterForCleanup plan apiKeyFingerprint snapshots with
        | none => pure (.failed
            "managed cluster cleanup requires one complete exact owned cluster" [])
        | some observations => removeEach [] observations []

/-- The cleanup, under the lifecycle lock. -/
def cleanupManagedClusterManagedVllm (hmac : String → String) (plan : Plan) (apiKey : String)
    (ownership : Option (List OwnedContainer)) : Run CleanupResult :=
  match managedClusterVllmApiKeyFingerprint hmac apiKey with
  | .error message => pure (.failed message [])
  | .ok apiKeyFingerprint =>
    (withLifecycleLock (cleanupUnderLock plan apiKeyFingerprint ownership)).handle fun message =>
      pure (.failed ("managed cluster cleanup failed: " ++ message) [])

end NemoClaw.ManagedCluster
