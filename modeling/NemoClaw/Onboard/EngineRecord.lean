import NemoClaw.Js.Text
import NemoClaw.Onboard.ExecutionLease
import NemoClaw.Onboard.PrivateFiles

/- The records of the persisted engine lifecycle.

A lifecycle record says which sandbox operation is under way, on which exact runtime
handles and by which engine authority; an execution lease says which process carries it
out. What is read back must be what the writer's own normalisation gives.

Correspondence (runtime-provider/persisted-engine-lifecycle.ts and
persisted-engine-authority.ts ↔ Lean): the functions keep their names; a
`Persisted…` type loses that prefix. Schema versions are constant and left out, and so
is the limit on the length of a text, which no record of this shape comes near.

What is proved: what normalisation accepts it leaves alone from then on.
-/
namespace NemoClaw.EngineLifecycle

open Js PrivateFiles List
open ExecutionLease (isOwnerUuid)

def isSafeName : String → Bool :=
  isNameOf isAlphanumeric (fun c => isAlphanumeric c || c ∈ ['.', '_', '-']) 127

def isRuntimeId : String → Bool :=
  isNameOf isAlphanumeric
    (fun c => isAlphanumeric c || c ∈ ['.', '_', ':', '/', '=', '+', '-']) 511

/-- `PROVIDER_ID` and `ENGINE_ID`. -/
def isProviderId : String → Bool :=
  isNameOf isLower (fun c => isLower c || isDigit c || c == '-') 62

/-- `AUTHORITY_ID`: the part before the first colon has none. -/
def isAuthorityId (s : String) : Bool :=
  let rest := (s.toList.dropWhile (· ≠ ':')).drop 1
  isProviderId (.ofList (s.toList.takeWhile (· ≠ ':'))) &&
    decide (1 ≤ rest.length) && decide (rest.length ≤ 255) &&
    rest.all fun c => isAlphanumeric c || c ∈ ['.', '_', ':', '-']

/-- `CONTROL_CHARACTERS` finds one. -/
def hasControlCharacter (s : String) : Bool :=
  s.toList.any fun c => c.val ≤ 0x1f || (0x7f ≤ c.val && c.val ≤ 0x9f)

inductive Action where
  | snapshotCreate
  | snapshotClone
  | rebuild
  | backup
  | restore
  | recovery
  deriving DecidableEq

def Action.text : Action → String
  | snapshotCreate => "snapshot-create"
  | snapshotClone => "snapshot-clone"
  | rebuild => "rebuild"
  | backup => "backup"
  | restore => "restore"
  | recovery => "recovery"

inductive Phase where
  | prepared
  | mutationAuthorized
  | completed
  deriving DecidableEq

def Phase.text : Phase → String
  | prepared => "prepared"
  | mutationAuthorized => "mutation-authorized"
  | completed => "completed"

inductive ResourceRole where
  | source
  | target
  deriving DecidableEq

def ResourceRole.text : ResourceRole → String
  | source => "source"
  | target => "target"

structure Resource where
  role : ResourceRole
  runtimeId : String
  deriving DecidableEq

/-- `ContainerEngineOperationScope`. -/
inductive OperationScope where
  | hostDoctor
  | hostLocalInference
  | gatewayInspection
  | managedBootstrap
  | sandboxLifecycle
  | workloadCleanup
  deriving DecidableEq

structure EngineAuthority where
  providerId : String
  operation : OperationScope
  engineId : String
  authorityId : String
  bindingSha256 : String
  deriving DecidableEq

structure Record where
  transactionId : String
  action : Action
  phase : Phase
  sandboxName : String
  resources : List Resource
  runtimeStateSha256 : String
  engineAuthority : EngineAuthority
  resultSha256 : Option String
  deriving DecidableEq

/-- A process ID and the time when the process started. -/
structure Owner where
  pid : ℕ
  startIdentity : String
  deriving DecidableEq

/-- `PersistedEngineLifecycleExecutionLease`. -/
structure Lease where
  transactionId : String
  ownerId : String
  ownerPid : ℕ
  ownerStartIdentity : String
  deriving DecidableEq

def Lease.owner (lease : Lease) : Owner := ⟨lease.ownerPid, lease.ownerStartIdentity⟩

/-- `fail`. -/
def invalid {α : Type} (message : String) : Except Failure α :=
  .error (.invalid ("Persisted engine lifecycle is invalid: " ++ message))

/-- `exactSha256`. -/
def exactSha256 (value label : String) : Except Failure String :=
  if isSha256 value then .ok value else invalid (label ++ " is malformed")

def exactName (value label : String) : Except Failure String :=
  if isSafeName value then .ok value else invalid (label ++ " is malformed")

def exactIdentity (value : String) (pattern : String → Bool) (label : String) :
    Except Failure String :=
  if pattern value then .ok value
  else .error (.invalid ("Persisted engine authority is invalid: " ++ label ++ " is malformed"))

def normalizePersistedEngineAuthority (record : EngineAuthority) :
    Except Failure EngineAuthority := do
  let providerId ← exactIdentity record.providerId isProviderId "provider identity"
  let engineId ← exactIdentity record.engineId isProviderId "engine identity"
  let authorityId ←
    exactIdentity record.authorityId isAuthorityId "endpoint authority identity"
  let bindingSha256 ← exactIdentity record.bindingSha256 isSha256 "binding digest"
  return { providerId, operation := record.operation, engineId, authorityId, bindingSha256 }

def requiredRoles : Action → List ResourceRole
  | .snapshotCreate | .backup => [.source]
  | .snapshotClone | .rebuild | .restore => [.source, .target]
  | .recovery => [.target]

/-- `left.role.localeCompare(right.role)` is not positive. -/
def Resource.before (left right : Resource) : Prop :=
  left.role = .source ∨ right.role = .target

instance : DecidableRel Resource.before := fun left right =>
  inferInstanceAs (Decidable (left.role = .source ∨ right.role = .target))

def normalizeResources (action : Action) (value : List Resource) :
    Except Failure (List Resource) :=
  if value.any fun resource => !isRuntimeId resource.runtimeId then
    invalid "resource runtime identity is malformed"
  else
    let resources := value.insertionSort Resource.before
    let expectedRoles := requiredRoles action
    if resources.map (·.role) ≠ expectedRoles ∨ ¬(resources.map (·.runtimeId)).Nodup then
      invalid (action.text ++ " resources must contain exact distinct " ++
        " and ".intercalate (expectedRoles.map ResourceRole.text) ++ " authority")
    else .ok resources

def normalizeResult : Option String → Except Failure (Option String)
  | none => .ok none
  | some digest => (exactSha256 digest "completion result digest").map some

def normalizePersistedEngineLifecycleRecord (record : Record) : Except Failure Record := do
  let resultSha256 ← normalizeResult record.resultSha256
  if (record.phase = .completed) ≠ (resultSha256 ≠ none) then
    invalid "completion result digest does not match the phase"
  else
    let engineAuthority ← normalizePersistedEngineAuthority record.engineAuthority
    if engineAuthority.operation ≠ .sandboxLifecycle then
      invalid "lifecycle authority must use the sandbox-lifecycle engine scope"
    else
      let transactionId ← exactSha256 record.transactionId "transaction identity"
      let sandboxName ← exactName record.sandboxName "sandbox name"
      let resources ← normalizeResources record.action record.resources
      let runtimeStateSha256 ← exactSha256 record.runtimeStateSha256 "runtime state digest"
      return { record with
        transactionId, sandboxName, resources, runtimeStateSha256, engineAuthority, resultSha256 }

/-- What `normalizeExecutionLease` asks of the owner. -/
def Owner.isExact (owner : Owner) : Bool :=
  decide (0 < owner.pid) && decide (owner.pid ≤ 0x7fffffff) &&
    decide (owner.startIdentity ≠ "") && decide (jsLength owner.startIdentity ≤ 512) &&
    !hasControlCharacter owner.startIdentity

def normalizeExecutionLease (lease : Lease) : Except Failure Lease := do
  if !isOwnerUuid lease.ownerId || !lease.owner.isExact then
    invalid "mutation execution lease schema is unsupported"
  else
    let _ ← exactSha256 lease.transactionId "mutation transaction identity"
    return lease

lemma exactSha256_ok {value label v : String} (h : exactSha256 value label = .ok v) :
    v = value ∧ isSha256 value := by
  unfold exactSha256 at h
  split at h
  · next hvalue => exact ⟨(Except.ok.inj h).symm, hvalue⟩
  · cases h

lemma exactSha256_of_isSha256 {value label : String} (h : isSha256 value) :
    exactSha256 value label = .ok value := if_pos h

lemma exactName_ok {value label v : String} (h : exactName value label = .ok v) :
    v = value := by
  unfold exactName at h
  split at h
  · exact (Except.ok.inj h).symm
  · cases h

lemma exactIdentity_ok {value label v : String} {pattern : String → Bool}
    (h : exactIdentity value pattern label = .ok v) : v = value := by
  unfold exactIdentity at h
  split at h
  · exact (Except.ok.inj h).symm
  · cases h

lemma normalizePersistedEngineAuthority_ok {record authority : EngineAuthority}
    (h : normalizePersistedEngineAuthority record = .ok authority) : authority = record := by
  obtain ⟨providerId, hprovider, h⟩ := bind_eq_ok.mp h
  obtain ⟨engineId, hengine, h⟩ := bind_eq_ok.mp h
  obtain ⟨authorityId, hauthority, h⟩ := bind_eq_ok.mp h
  obtain ⟨bindingSha256, hbinding, h⟩ := bind_eq_ok.mp h
  obtain rfl := pure_eq_ok.mp h
  rw [exactIdentity_ok hprovider, exactIdentity_ok hengine, exactIdentity_ok hauthority,
    exactIdentity_ok hbinding]

lemma sorted_of_roles {action : Action} {resources : List Resource}
    (h : resources.map (·.role) = requiredRoles action) :
    resources.Pairwise Resource.before := by
  have hlength := congrArg List.length h
  rw [length_map] at hlength
  match resources with
  | [] => exact List.Pairwise.nil
  | [_] => exact pairwise_singleton _ _
  | [first, second] =>
    have hsource : first.role = .source := by
      cases action <;> simp_all [requiredRoles]
    exact pairwise_pair.mpr (.inl hsource)
  | _ :: _ :: _ :: rest =>
    have htwo : (requiredRoles action).length ≤ 2 := by cases action <;> decide
    simp only [length_cons] at hlength; omega

lemma normalizeResources_ok {action : Action} {value resources : List Resource}
    (h : normalizeResources action value = .ok resources) :
    normalizeResources action resources = .ok resources := by
  unfold normalizeResources at h
  split at h
  · cases h
  next hids =>
  simp only at h
  split at h
  · cases h
  next hroles =>
  cases h
  simp only [not_or, not_not] at hroles
  have hsame : (value.insertionSort Resource.before).insertionSort Resource.before =
      value.insertionSort Resource.before :=
    (sorted_of_roles hroles.1).insertionSort_eq
  have hids' : ((value.insertionSort Resource.before).any
      fun resource => !isRuntimeId resource.runtimeId) = false := by
    have hperm := value.perm_insertionSort Resource.before
    rw [hperm.any_eq]; exact Bool.eq_false_iff.mpr hids
  unfold normalizeResources
  simp only [hids', hsame, Bool.false_eq_true, if_false]
  rw [if_neg (by simpa only [not_or, not_not] using hroles)]

lemma normalizeResult_ok {value result : Option String} (h : normalizeResult value = .ok result) :
    result = value ∧ ∀ digest ∈ value, isSha256 digest := by
  cases value with
  | none => exact ⟨(Except.ok.inj h).symm, nofun⟩
  | some digest =>
  simp only [normalizeResult, Except.map] at h
  split at h
  · cases h
  next v hdigest =>
  obtain ⟨rfl, hsha⟩ := exactSha256_ok hdigest
  refine ⟨(Except.ok.inj h).symm, fun d hd => ?_⟩
  cases hd; exact hsha

lemma normalizeResult_of {value : Option String} (h : ∀ digest ∈ value, isSha256 digest) :
    normalizeResult value = .ok value := by
  cases value with
  | none => rfl
  | some digest => simp only [normalizeResult, exactSha256_of_isSha256 (h digest rfl)]; rfl

/-- What is asked of a record, its resources apart. -/
structure Record.Checked (record : Record) : Prop where
  result : ∀ digest ∈ record.resultSha256, isSha256 digest
  phase : record.phase = .completed ↔ record.resultSha256 ≠ none
  authority : normalizePersistedEngineAuthority record.engineAuthority = .ok record.engineAuthority
  scope : record.engineAuthority.operation = .sandboxLifecycle
  transactionId : isSha256 record.transactionId
  sandboxName : isSafeName record.sandboxName
  runtimeState : isSha256 record.runtimeStateSha256

lemma normalize_inv {record r : Record}
    (h : normalizePersistedEngineLifecycleRecord record = .ok r) :
    record.Checked ∧ ∃ resources, r = { record with resources } ∧
      normalizeResources record.action record.resources = .ok resources := by
  obtain ⟨result, hresult, h⟩ := bind_eq_ok.mp h
  obtain ⟨rfl, hsha⟩ := normalizeResult_ok hresult
  split at h
  · cases h
  next hphase =>
  obtain ⟨authority, hauthority, h⟩ := bind_eq_ok.mp h
  obtain rfl := normalizePersistedEngineAuthority_ok hauthority
  split at h
  · cases h
  next hscope =>
  obtain ⟨transactionId, htransaction, h⟩ := bind_eq_ok.mp h
  obtain ⟨sandboxName, hname, h⟩ := bind_eq_ok.mp h
  obtain ⟨resources, hresources, h⟩ := bind_eq_ok.mp h
  obtain ⟨runtimeState, hruntime, h⟩ := bind_eq_ok.mp h
  obtain ⟨rfl, htransactionSha⟩ := exactSha256_ok htransaction
  obtain ⟨rfl, hruntimeSha⟩ := exactSha256_ok hruntime
  have hsafe : isSafeName record.sandboxName := by
    unfold exactName at hname
    split at hname
    · assumption
    · cases hname
  obtain rfl := exactName_ok hname
  exact ⟨⟨hsha, iff_of_eq (not_not.mp hphase), hauthority, not_not.mp hscope,
    htransactionSha, hsafe, hruntimeSha⟩, resources, pure_eq_ok.mp h, hresources⟩

lemma Record.Checked.normalize {record : Record} {resources : List Resource}
    (h : record.Checked)
    (hresources : normalizeResources record.action record.resources = .ok resources) :
    normalizePersistedEngineLifecycleRecord record = .ok { record with resources } := by
  refine bind_eq_ok.mpr ⟨_, normalizeResult_of h.result, ?_⟩
  rw [if_neg (not_not.mpr (propext h.phase))]
  refine bind_eq_ok.mpr ⟨_, h.authority, ?_⟩
  rw [if_neg (not_not.mpr h.scope)]
  refine bind_eq_ok.mpr ⟨_, exactSha256_of_isSha256 h.transactionId, ?_⟩
  refine bind_eq_ok.mpr ⟨record.sandboxName, if_pos h.sandboxName, ?_⟩
  refine bind_eq_ok.mpr ⟨_, hresources, ?_⟩
  exact bind_eq_ok.mpr ⟨_, exactSha256_of_isSha256 h.runtimeState, rfl⟩

structure Record.Exact (record : Record) : Prop where
  checked : record.Checked
  resources : normalizeResources record.action record.resources = .ok record.resources

lemma Record.Exact.normalize {record : Record} (h : record.Exact) :
    normalizePersistedEngineLifecycleRecord record = .ok record :=
  h.checked.normalize h.resources

lemma normalize_exact {record r : Record}
    (h : normalizePersistedEngineLifecycleRecord record = .ok r) : r.Exact := by
  obtain ⟨hchecked, resources, rfl, hresources⟩ := normalize_inv h
  exact ⟨⟨hchecked.result, hchecked.phase, hchecked.authority, hchecked.scope,
    hchecked.transactionId, hchecked.sandboxName, hchecked.runtimeState⟩,
    normalizeResources_ok hresources⟩

lemma Record.Exact.withPhase {record : Record} (h : record.Exact) {phase : Phase}
    {result : Option String} (hphase : phase = .completed ↔ result ≠ none)
    (hresult : ∀ digest ∈ result, isSha256 digest) :
    ({ record with phase, resultSha256 := result } : Record).Exact :=
  ⟨⟨hresult, hphase, h.checked.authority, h.checked.scope, h.checked.transactionId,
    h.checked.sandboxName, h.checked.runtimeState⟩, h.resources⟩

/-- What is in a file: a canonical text stands for its record. -/
inductive Content where
  | record (record : Record)
  | lease (lease : Lease)
  /-- a digest and the end of the line -/
  | receipt (resultSha256 : String)
  | other (text : String)
  deriving DecidableEq

def serializePersistedEngineLifecycleRecord (record : Record) : Except Failure Content :=
  (normalizePersistedEngineLifecycleRecord record).map .record

/-- Which of its checks refuses a text of another kind makes no difference. -/
def parsePersistedEngineLifecycleRecord : Content → Except Failure Record
  | .record value => do
    let record ← normalizePersistedEngineLifecycleRecord value
    if record ≠ value then invalid "serialized record is not canonical" else return record
  | _ => invalid "serialized record is not valid JSON"

def serializeExecutionLease (lease : Lease) : Except Failure Content :=
  (normalizeExecutionLease lease).map .lease

def parseExecutionLease : Content → Except Failure Lease
  | .lease value => normalizeExecutionLease value
  | _ => invalid "mutation execution lease is not valid JSON"

def immutableRecord (record : Record) : Record :=
  { record with phase := .prepared, resultSha256 := none }

def requireSameLifecycle (expected candidate : Record) : Except Failure Unit := do
  let left ← serializePersistedEngineLifecycleRecord (immutableRecord expected)
  let right ← serializePersistedEngineLifecycleRecord (immutableRecord candidate)
  if left ≠ right then
    invalid "phase records do not describe the same lifecycle authority"
  else return ()

lemma Record.Exact.immutable {record : Record} (h : record.Exact) :
    (immutableRecord record).Exact :=
  h.withPhase (iff_of_false (by decide) (not_not.mpr rfl)) nofun

lemma Record.Exact.serialize {record : Record} (h : record.Exact) :
    serializePersistedEngineLifecycleRecord record = .ok (.record record) := by
  unfold serializePersistedEngineLifecycleRecord
  rw [h.normalize]; rfl

lemma parse_ok {content : Content} {record : Record}
    (h : parsePersistedEngineLifecycleRecord content = .ok record) :
    content = .record record ∧ record.Exact := by
  cases content with
  | record value =>
    obtain ⟨r, hr, h⟩ := bind_eq_ok.mp h
    have hcase : r = value ∧ r = record := by
      split at h
      · cases h
      · next hsame => exact ⟨not_not.mp hsame, (pure_eq_ok.mp h).symm⟩
    obtain ⟨rfl, rfl⟩ := hcase; exact ⟨rfl, normalize_exact hr⟩
  | _ => cases h

lemma immutable_of_requireSameLifecycle {expected candidate : Record} (he : expected.Exact)
    (hc : candidate.Exact) (h : requireSameLifecycle expected candidate = .ok ()) :
    immutableRecord expected = immutableRecord candidate := by
  obtain ⟨left, hleft, h⟩ := bind_eq_ok.mp h
  obtain ⟨right, hright, h⟩ := bind_eq_ok.mp h
  rw [he.immutable.serialize] at hleft
  rw [hc.immutable.serialize] at hright
  cases hleft
  cases hright
  split at h
  · cases h
  · next hsame => exact Content.record.inj (not_not.mp hsame)

/-- A lease that `normalizeExecutionLease` accepts. -/
structure Lease.Exact (lease : Lease) : Prop where
  ownerId : isOwnerUuid lease.ownerId
  owner : lease.owner.isExact
  transactionId : isSha256 lease.transactionId

lemma normalizeExecutionLease_ok {lease l : Lease}
    (h : normalizeExecutionLease lease = .ok l) : l = lease ∧ lease.Exact := by
  unfold normalizeExecutionLease at h
  split at h
  · cases h
  next hschema =>
  obtain ⟨_, hsha, h⟩ := bind_eq_ok.mp h
  obtain ⟨-, hsha⟩ := exactSha256_ok hsha
  simp only [Bool.or_eq_true, Bool.not_eq_true', not_or, Bool.not_eq_false] at hschema
  exact ⟨pure_eq_ok.mp h, hschema.1, hschema.2, hsha⟩

lemma serializeExecutionLease_ok {lease : Lease} {c : Content}
    (h : serializeExecutionLease lease = .ok c) : c = .lease lease := by
  unfold serializeExecutionLease at h
  cases hnormalize : normalizeExecutionLease lease with
  | ok l =>
    rw [hnormalize, (normalizeExecutionLease_ok hnormalize).1] at h
    exact (Except.ok.inj h).symm
  | error e => rw [hnormalize] at h; cases h

lemma parseExecutionLease_ok {content : Content} {lease : Lease}
    (h : parseExecutionLease content = .ok lease) : content = .lease lease ∧ lease.Exact := by
  cases content with
  | lease value => obtain ⟨rfl, hexact⟩ := normalizeExecutionLease_ok h; exact ⟨rfl, hexact⟩
  | _ => cases h

end NemoClaw.EngineLifecycle
