import NemoClaw.Js.Text
import NemoClaw.Js.Stringify
import NemoClaw.Onboard.PrivateFiles

/- The Docker store of managed-bootstrap journals.

A journal has a file for each bootstrap identity; how a cutover ends is decided by a
second file, which is published once, and the journal is rewritten to agree with it.

Correspondence (managed-bootstrap/docker-journal.ts ↔ Lean): the functions keep their
names, and the methods of the store are programs over its directory. A canonical text
stands for its record; its length is that of the text. The store writes records of the
current schema only, so the branches for texts of earlier schemas are left out. The
directory is there and private.
-/
namespace NemoClaw.DockerJournal

open Js CallTree PrivateFiles

/-- How far the replacement of a sandbox's container has come. -/
inductive Phase where
  | staged
  | cutover
  | rollbackAuthorized
  | ownerCleanupRequired
  | sharedStateCommitted
  deriving DecidableEq

/-- The phase as the journal writes it. -/
def Phase.text : Phase → String
  | staged => "staged"
  | cutover => "cutover"
  | rollbackAuthorized => "rollback-authorized"
  | ownerCleanupRequired => "owner-cleanup-required"
  | sharedStateCommitted => "shared-state-committed"

/-- `ManagedStartupAgent`. -/
inductive Agent where
  | openclaw
  | hermes
  | langchainDeepagentsCode
  deriving DecidableEq

def Agent.text : Agent → String
  | openclaw => "openclaw"
  | hermes => "hermes"
  | langchainDeepagentsCode => "langchain-deepagents-code"

/-- `ManagedBootstrapSandboxIdentity`. -/
structure Sandbox where
  sandboxName : String
  sandboxId : String
  driverId : String
  deriving DecidableEq

/-- `ManagedBootstrapImageIdentity`. -/
structure Image where
  repository : String
  manifestDigest : String
  deriving DecidableEq

/-- `ManagedBootstrapDurablePreparationReceipt`. -/
structure PreparationReceipt where
  sandbox : Sandbox
  bootstrapIdentity : String
  authorityFingerprint : String
  recordId : String
  recordedAt : String
  deriving DecidableEq

/-- `ManagedBootstrapCompletionReceipt`. -/
structure CompletionReceipt where
  sandbox : Sandbox
  runtimeId : String
  image : Image
  runtimeImageContentId : String
  originalSpecHash : String
  replacementSpecHash : String
  profileFingerprint : String
  bootstrapIdentity : String
  transactionPending : Bool
  completedAt : String
  deriving DecidableEq

/-- How the replacement ended. -/
inductive Outcome where
  | committed
  | rolledBack
  deriving DecidableEq

/-- The outcome as the record writes it. -/
def Outcome.text : Outcome → String
  | committed => "committed"
  | rolledBack => "rolled-back"

/-- `ManagedBootstrapFinalizationReceipt`. -/
structure CleanupReceipt where
  sandbox : Sandbox
  bootstrapIdentity : String
  outcome : Outcome
  restoredRuntimeId : Option String
  restoredSpecHash : Option String
  heldWorkloadRemoved : Bool
  alreadyRolledBack : Bool
  finalizedAt : String
  deriving DecidableEq

/-- `DockerManagedBootstrapJournal`. -/
structure Journal where
  phase : Phase
  bootstrapIdentity : String
  providerId : String
  agent : Agent
  sandbox : Sandbox
  planFingerprint : String
  profileFingerprint : String
  imageReference : String
  runtimeImageContentId : String
  originalRuntimeId : String
  replacementRuntimeId : String
  originalName : String
  replacementStagingName : String
  backupName : String
  originalSpecHash : String
  replacementSpecHash : String
  rollbackTargetRuntimeId : String
  rollbackTargetSpecHash : String
  preparationReceipt : Option PreparationReceipt
  commitReceipt : Option CompletionReceipt
  deriving DecidableEq

/-- `DockerManagedBootstrapFinalizationContext`. -/
structure FinalizationContext where
  bootstrapIdentity : String
  providerId : String
  agent : Agent
  sandbox : Sandbox
  planFingerprint : String
  profileFingerprint : String
  imageReference : String
  deriving DecidableEq

/-- `DockerManagedBootstrapFinalizationRecord`. -/
structure FinalizationRecord extends FinalizationContext where
  phase : Outcome
  commitReceipt : Option CompletionReceipt
  cleanupReceipt : CleanupReceipt
  deriving DecidableEq

/-! ## Checks -/

/-- The record is as the normaliser asks, or this is what it throws. -/
abbrev Check := Except Failure Unit

/-- The error of a journal that is refused. -/
def invalid {α : Type} (message : String) : Except Failure α :=
  .error (.invalid ("Managed bootstrap Docker journal is invalid: " ++ message))

/-- A check with the message of its failure. -/
def require (p : Prop) [Decidable p] (message : String) : Check :=
  if p then .ok () else invalid message

/-- A bounded string without blanks at its ends. -/
def exactString (value label : String) (maxBytes : ℕ) : Check :=
  require (value ≠ "" ∧ isTrimmed value ∧ '\x00' ∉ value.toList ∧ byteLength value ≤ maxBytes)
    (label ++ " must be one bounded exact string")

/-- A digest in lower-case hex. -/
def exactSha256 (value label : String) : Check :=
  require (isLowerHexOf 64 value) (label ++ " must be lowercase SHA-256")

def exactNullableSha256 (value : Option String) (label : String) : Check :=
  match value with
  | none => .ok ()
  | some value => exactSha256 value label

/-- The three names of a sandbox are exact. -/
def exactSandbox (sandbox : Sandbox) : Check := do
  exactString sandbox.sandboxName "sandbox name" 4096
  exactString sandbox.sandboxId "sandbox ID" 4096
  exactString sandbox.driverId "driver ID" 4096

/-- A time as the date API writes it. -/
def exactTimestamp (value label : String) : Check := do
  exactString value label 128
  require (isCanonicalIsoTimestamp value) (label ++ " must be one canonical timestamp")

/-- `MANIFEST_DIGEST_RE`. -/
def isManifestDigest (s : String) : Bool :=
  s.toList.take 7 == "sha256:".toList && isLowerHexOf 64 (.ofList (s.toList.drop 7))

/-- The image is named by its repository and its digest. -/
def exactImage (image : Image) : Check := do
  exactString image.manifestDigest "completion manifest digest" 128
  require (isManifestDigest image.manifestDigest)
    "completion manifest digest must be canonical sha256"
  exactString image.repository "completion image repository" 4096

/-- The receipt of the preparation is well formed. -/
def exactPreparationReceipt (receipt : PreparationReceipt) : Check := do
  exactSandbox receipt.sandbox
  exactSha256 receipt.bootstrapIdentity "durable preparation bootstrap identity"
  exactSha256 receipt.authorityFingerprint "durable preparation authority fingerprint"
  exactString receipt.recordId "durable preparation record ID" 1024
  exactTimestamp receipt.recordedAt "durable preparation timestamp"

/-- The receipt of the commit is well formed. -/
def exactCompletionReceipt (receipt : CompletionReceipt) : Check := do
  exactSandbox receipt.sandbox
  exactSha256 receipt.runtimeId "commit runtime ID"
  exactImage receipt.image
  exactString receipt.runtimeImageContentId "commit runtime image content ID" 4096
  exactSha256 receipt.originalSpecHash "commit original spec hash"
  exactSha256 receipt.replacementSpecHash "commit replacement spec hash"
  exactSha256 receipt.profileFingerprint "commit profile fingerprint"
  exactSha256 receipt.bootstrapIdentity "commit bootstrap identity"
  exactTimestamp receipt.completedAt "commit completion timestamp"

/-- The receipt of the cleanup is well formed. -/
def exactCleanupReceipt (receipt : CleanupReceipt) : Check := do
  exactSandbox receipt.sandbox
  exactSha256 receipt.bootstrapIdentity "cleanup bootstrap identity"
  exactNullableSha256 receipt.restoredRuntimeId "restored runtime ID"
  exactNullableSha256 receipt.restoredSpecHash "restored spec hash"
  exactTimestamp receipt.finalizedAt "cleanup finalization timestamp"

def exactOption {α : Type} (exact : α → Check) : Option α → Check
  | none => .ok ()
  | some a => exact a

/-- The preparation and the commit are those of the journal's transaction. -/
def Journal.receiptsMatch (j : Journal) : Bool :=
  (j.preparationReceipt.all fun receipt =>
    receipt.bootstrapIdentity == j.bootstrapIdentity && receipt.sandbox == j.sandbox) &&
  (j.commitReceipt.all fun receipt =>
    receipt.bootstrapIdentity == j.bootstrapIdentity && receipt.sandbox == j.sandbox &&
      receipt.runtimeId == j.replacementRuntimeId &&
      receipt.profileFingerprint == j.profileFingerprint &&
      receipt.originalSpecHash == j.originalSpecHash &&
      receipt.replacementSpecHash == j.replacementSpecHash &&
      receipt.image.repository ++ "@" ++ receipt.image.manifestDigest == j.imageReference)

/-- What a journal has to satisfy. -/
def Journal.check (j : Journal) : Check := do
  exactSha256 j.bootstrapIdentity "bootstrap identity"
  exactString j.providerId "provider ID" 4096
  exactSandbox j.sandbox
  exactSha256 j.planFingerprint "plan fingerprint"
  exactSha256 j.profileFingerprint "profile fingerprint"
  exactString j.imageReference "image reference" 4096
  exactString j.runtimeImageContentId "runtime image content ID" 4096
  exactSha256 j.originalRuntimeId "original runtime ID"
  exactSha256 j.replacementRuntimeId "replacement runtime ID"
  exactString j.originalName "original name" 253
  exactString j.replacementStagingName "replacement staging name" 253
  exactString j.backupName "backup name" 253
  exactSha256 j.originalSpecHash "original spec hash"
  exactSha256 j.replacementSpecHash "replacement spec hash"
  exactSha256 j.rollbackTargetRuntimeId "rollback target runtime ID"
  exactSha256 j.rollbackTargetSpecHash "rollback target spec hash"
  exactOption exactPreparationReceipt j.preparationReceipt
  exactOption exactCompletionReceipt j.commitReceipt
  require (j.originalRuntimeId ≠ j.replacementRuntimeId)
    "original and replacement runtime IDs must differ"
  require ([j.originalName, j.replacementStagingName, j.backupName].Nodup)
    "original, staging, and backup names must be distinct"
  require (j.providerId = j.sandbox.driverId ∧ j.rollbackTargetRuntimeId = j.originalRuntimeId ∧
      j.rollbackTargetSpecHash = j.originalSpecHash)
    "provider or rollback authority does not match the transaction identity"
  require j.receiptsMatch
    "durable preparation or commit receipt does not match the transaction identity"

def normalizeDockerManagedBootstrapJournal (j : Journal) : Except Failure Journal := do
  j.check
  return j

/-- The record and its receipts tell of one replacement and one outcome. -/
def FinalizationRecord.receiptsMatch (r : FinalizationRecord) : Bool :=
  r.providerId == r.sandbox.driverId && r.bootstrapIdentity == r.cleanupReceipt.bootstrapIdentity &&
    r.phase == r.cleanupReceipt.outcome && r.sandbox == r.cleanupReceipt.sandbox &&
    (r.phase == .committed) == r.commitReceipt.isSome &&
    (r.commitReceipt.all fun receipt =>
      receipt.bootstrapIdentity == r.bootstrapIdentity &&
        receipt.profileFingerprint == r.profileFingerprint && receipt.sandbox == r.sandbox &&
        receipt.image.repository ++ "@" ++ receipt.image.manifestDigest == r.imageReference)

/-- What a finalization record has to satisfy. -/
def FinalizationRecord.check (r : FinalizationRecord) : Check := do
  exactSandbox r.sandbox
  exactOption exactCompletionReceipt r.commitReceipt
  exactCleanupReceipt r.cleanupReceipt
  exactSha256 r.bootstrapIdentity "finalization bootstrap identity"
  exactString r.providerId "finalization provider ID" 4096
  exactSha256 r.planFingerprint "finalization plan fingerprint"
  exactSha256 r.profileFingerprint "finalization profile fingerprint"
  exactString r.imageReference "finalization image reference" 4096
  require r.receiptsMatch "finalization receipts do not match their durable transaction identity"

/-- What a context has to satisfy. -/
def normalizeFinalizationContext (context : FinalizationContext) : Check := do
  exactSha256 context.bootstrapIdentity "finalization context bootstrap identity"
  exactString context.providerId "finalization context provider ID" 4096
  exactSandbox context.sandbox
  exactSha256 context.planFingerprint "finalization context plan fingerprint"
  exactSha256 context.profileFingerprint "finalization context profile fingerprint"
  exactString context.imageReference "finalization context image reference" 4096

/-- The record is of the replacement that the context names. -/
def assertFinalizationMatchesContext (r : FinalizationRecord) (context : FinalizationContext) :
    Check := do
  normalizeFinalizationContext context
  require (r.toFinalizationContext = context)
    "finalization record does not match supplied durable context"

def Sandbox.text (sandbox : Sandbox) : String :=
  objectText [("sandboxName", quote sandbox.sandboxName), ("sandboxId", quote sandbox.sandboxId),
    ("driverId", quote sandbox.driverId)]

def Image.text (image : Image) : String :=
  objectText [("repository", quote image.repository),
    ("manifestDigest", quote image.manifestDigest)]

def PreparationReceipt.text (receipt : PreparationReceipt) : String :=
  objectText [("schemaVersion", "1"), ("sandbox", receipt.sandbox.text),
    ("bootstrapIdentity", quote receipt.bootstrapIdentity),
    ("authorityFingerprint", quote receipt.authorityFingerprint),
    ("recordId", quote receipt.recordId), ("recordedAt", quote receipt.recordedAt)]

def CompletionReceipt.text (receipt : CompletionReceipt) : String :=
  objectText [("schemaVersion", "1"), ("sandbox", receipt.sandbox.text),
    ("runtimeId", quote receipt.runtimeId), ("image", receipt.image.text),
    ("runtimeImageContentId", quote receipt.runtimeImageContentId),
    ("originalSpecHash", quote receipt.originalSpecHash),
    ("replacementSpecHash", quote receipt.replacementSpecHash),
    ("profileFingerprint", quote receipt.profileFingerprint),
    ("bootstrapIdentity", quote receipt.bootstrapIdentity),
    ("transactionPending", boolText receipt.transactionPending),
    ("completedAt", quote receipt.completedAt)]

def CleanupReceipt.text (receipt : CleanupReceipt) : String :=
  objectText [("schemaVersion", "1"), ("sandbox", receipt.sandbox.text),
    ("bootstrapIdentity", quote receipt.bootstrapIdentity),
    ("outcome", quote receipt.outcome.text),
    ("restoredRuntimeId", quoteOrNull receipt.restoredRuntimeId),
    ("restoredSpecHash", quoteOrNull receipt.restoredSpecHash),
    ("heldWorkloadRemoved", boolText receipt.heldWorkloadRemoved),
    ("alreadyRolledBack", boolText receipt.alreadyRolledBack),
    ("finalizedAt", quote receipt.finalizedAt)]

def textOrNull {α : Type} (text : α → String) : Option α → String
  | none => "null"
  | some a => text a

/-- The journal as its file has it. -/
def Journal.text (j : Journal) : String :=
  objectText [("schemaVersion", "3"), ("phase", quote j.phase.text),
    ("bootstrapIdentity", quote j.bootstrapIdentity), ("providerId", quote j.providerId),
    ("agent", quote j.agent.text), ("sandbox", j.sandbox.text),
    ("planFingerprint", quote j.planFingerprint),
    ("profileFingerprint", quote j.profileFingerprint),
    ("imageReference", quote j.imageReference),
    ("runtimeImageContentId", quote j.runtimeImageContentId),
    ("originalRuntimeId", quote j.originalRuntimeId),
    ("replacementRuntimeId", quote j.replacementRuntimeId),
    ("originalName", quote j.originalName),
    ("replacementStagingName", quote j.replacementStagingName),
    ("backupName", quote j.backupName), ("originalSpecHash", quote j.originalSpecHash),
    ("replacementSpecHash", quote j.replacementSpecHash),
    ("rollbackTargetRuntimeId", quote j.rollbackTargetRuntimeId),
    ("rollbackTargetSpecHash", quote j.rollbackTargetSpecHash),
    ("preparationReceipt", textOrNull PreparationReceipt.text j.preparationReceipt),
    ("commitReceipt", textOrNull CompletionReceipt.text j.commitReceipt)] ++ "\n"

/-- The record as its file has it. -/
def FinalizationRecord.text (r : FinalizationRecord) : String :=
  objectText [("schemaVersion", "2"), ("phase", quote r.phase.text),
    ("bootstrapIdentity", quote r.bootstrapIdentity), ("providerId", quote r.providerId),
    ("agent", quote r.agent.text), ("sandbox", r.sandbox.text),
    ("planFingerprint", quote r.planFingerprint),
    ("profileFingerprint", quote r.profileFingerprint),
    ("imageReference", quote r.imageReference),
    ("commitReceipt", textOrNull CompletionReceipt.text r.commitReceipt),
    ("cleanupReceipt", r.cleanupReceipt.text)] ++ "\n"

/-- The largest file that is written. -/
def maxJournalBytes : ℕ := 32 * 1024

/-- The journal, if it may be written. -/
def serializeDockerManagedBootstrapJournal (j : Journal) : Except Failure Journal := do
  let normalized ← normalizeDockerManagedBootstrapJournal j
  require (byteLength normalized.text ≤ maxJournalBytes)
    "serialized journal exceeds its bounded transport"
  return normalized

/-- The record, if it may be written. -/
def serializeDockerManagedBootstrapFinalizationRecord (r : FinalizationRecord) :
    Except Failure FinalizationRecord := do
  r.check
  require (byteLength r.text ≤ maxJournalBytes)
    "serialized finalization record exceeds its bounded transport"
  return r

/-- The three files of a replacement. -/
inductive Kind where
  | journal
  | decision
  | finalized
  deriving DecidableEq

/-- A file of the store. -/
structure Target where
  bootstrapIdentity : String
  kind : Kind
  deriving DecidableEq

/-- What a file of the store holds; a decision is a phase and a line feed. -/
inductive Content where
  | journal (j : Journal)
  | decision (phase : Phase)
  | finalization (r : FinalizationRecord)
  deriving DecidableEq

/-- The journal in a file, if it holds one. -/
def parseDockerManagedBootstrapJournal : Content → Except Failure Journal
  | .journal j => serializeDockerManagedBootstrapJournal j
  | .decision _ => invalid "serialized journal is not valid JSON"
  | .finalization _ => invalid "legacy journal schema is invalid"

/-- The record in a file, if it holds one that fits the context. -/
def parseDockerManagedBootstrapFinalizationRecord (context : Option FinalizationContext) :
    Content → Except Failure FinalizationRecord
  | .finalization r => do
    let record ← serializeDockerManagedBootstrapFinalizationRecord r
    exactOption (assertFinalizationMatchesContext record) context
    return record
  | .decision _ => invalid "serialized finalization record is not valid JSON"
  | .journal _ => invalid "finalization record schema is invalid"

/-- The process and the time in a temporary name. -/
structure Stamp where
  pid : List Char
  time : List Char
  pid_digits : pid ≠ [] ∧ pid.all isDigit
  time_hex : time ≠ [] ∧ time.all isLowerHex

/-- What follows the identity in a file's name. -/
def Kind.suffix : Kind → List (List Char)
  | journal => []
  | decision => ["decision".toList]
  | finalized => ["finalized".toList]

/-- The name of a file, as its pieces between dots. -/
def Target.pieces (x : Target) : List (List Char) :=
  [x.bootstrapIdentity.toList, "json".toList] ++ x.kind.suffix

/-- The name of an entry in the directory; a temporary file is hidden and stamped. -/
def entryName (stamps : ℕ → Stamp) : Entry Target → List Char
  | .file x => ['.'].intercalate x.pieces
  | .temporary x n =>
    ['.'].intercalate ([[]] ++ x.pieces ++ [(stamps n).pid, (stamps n).time, "tmp".toList])

def isSha256 (cs : List Char) : Bool := cs.length == 64 && cs.all isLowerHex

/-- `^([a-f0-9]{64})\.json$`. -/
def journalName (name : List Char) : Option String :=
  match name.splitOn '.' with
  | [identity, json] =>
    if isSha256 identity ∧ json = "json".toList then some (.ofList identity) else none
  | _ => none

/-- The two patterns of names that are passed over. -/
def isOtherName (name : List Char) : Bool :=
  match name.splitOn '.' with
  | [identity, json, kind] =>
    isSha256 identity && json == "json".toList &&
      (kind == "decision".toList || kind == "finalized".toList)
  | [start, identity, json, pid, time, tmp] =>
    start == [] && isSha256 identity && json == "json".toList && pid ≠ [] && pid.all isDigit &&
      time ≠ [] && time.all isLowerHex && tmp == "tmp".toList
  | [start, identity, json, kind, pid, time, tmp] =>
    start == [] && isSha256 identity && json == "json".toList &&
      (kind == "decision".toList || kind == "finalized".toList) && pid ≠ [] && pid.all isDigit &&
      time ≠ [] && time.all isLowerHex && tmp == "tmp".toList
  | _ => false

/-- The identities whose journals are in a listing. -/
def unfinishedIdentities : List (List Char) → Except Failure (List String)
  | [] => .ok []
  | name :: names =>
    match journalName name with
    | some identity => (unfinishedIdentities names).map (identity :: ·)
    | none =>
      if isOtherName name then unfinishedIdentities names
      else invalid ("journal directory contains an unsupported entry: " ++ .ofList name)

/-! ## The store -/

/-- An operation of the store, call by call. -/
abbrev StoreProgram (α : Type) := Program Target Content α

def failStore {α : Type} (message : String) : StoreProgram α := Tree.lift (invalid message)

/-- The identity has to be a digest, for it names the file. -/
def journalPath (bootstrapIdentity : String) : StoreProgram Unit :=
  Tree.lift (exactSha256 bootstrapIdentity "bootstrap identity")

/-- The phases that a decision file can hold. -/
def decisionPhases : List Phase := [.rollbackAuthorized, .sharedStateCommitted]

/-- The steps of a journal. -/
def allowedTransitions : List (Phase × Phase) :=
  [(.staged, .cutover), (.staged, .ownerCleanupRequired), (.cutover, .rollbackAuthorized),
    (.cutover, .sharedStateCommitted), (.rollbackAuthorized, .ownerCleanupRequired)]

/-- A decision can have been made from this phase. -/
def decisionMatchesJournal (journal phase : Phase) : Bool :=
  journal == .cutover || journal == phase ||
    (phase == .rollbackAuthorized && journal == .ownerCleanupRequired)

/-- The journal is put in the place of the one that is there. -/
def rewrite (j : Journal) : StoreProgram Unit := do
  let serialized ← Tree.lift (serializeDockerManagedBootstrapJournal j)
  atomicWrite ⟨j.bootstrapIdentity, .journal⟩ (.journal serialized) false

/-- The journal with the decision that stands beside it. -/
def applyDecision (journal : Journal) : Content → StoreProgram Journal
  | .decision phase =>
    if phase ∈ decisionPhases ∧ decisionMatchesJournal journal.phase phase then do
      let decided ← Tree.lift (normalizeDockerManagedBootstrapJournal { journal with phase })
      if journal.phase = .cutover then
        rewrite decided
        return decided
      else return journal
    else failStore "decision does not match its cutover journal"
  | _ => failStore "decision does not match its cutover journal"

/-- The journal of a replacement, its decision applied. -/
def load (bootstrapIdentity : String) : StoreProgram (Option Journal) := do
  journalPath bootstrapIdentity
  match ← readPrivateFile ⟨bootstrapIdentity, .journal⟩ "journal" with
  | none => return none
  | some contents =>
    let journal ← Tree.lift (parseDockerManagedBootstrapJournal contents)
    if journal.bootstrapIdentity ≠ bootstrapIdentity then
      failStore "journal bootstrap identity does not match its file name"
    else
      match ← readPrivateFile ⟨bootstrapIdentity, .decision⟩ "decision" with
      | none => return some journal
      | some decision => some <$> applyDecision journal decision

/-- A journal is started, with the receipt of the preparation. -/
def create (journal : Journal) : StoreProgram Unit := do
  let normalized ← Tree.lift (normalizeDockerManagedBootstrapJournal journal)
  if normalized.phase ≠ .staged ∨ normalized.preparationReceipt = none ∨
      normalized.commitReceipt ≠ none then
    failStore "a new journal requires staged durable preparation authority"
  else
    match ← readPrivateFile ⟨normalized.bootstrapIdentity, .decision⟩ "decision" with
    | some _ => failStore "stale decision exists for this bootstrap identity"
    | none =>
      let serialized ← Tree.lift (serializeDockerManagedBootstrapJournal normalized)
      atomicWrite ⟨normalized.bootstrapIdentity, .journal⟩ (.journal serialized) true

/-- The identities of all journals, in order. -/
def listUnfinishedIdentities (stamps : ℕ → Stamp) : StoreProgram (List String) := do
  let entries ← readdirSync
  let identities ← Tree.lift (unfinishedIdentities (entries.map (entryName stamps)))
  return identities.insertionSort (· ≤ ·)

/-- The decision is written, unless the same one stands already. -/
def publishDecision (bootstrapIdentity : String) (next : Phase) : StoreProgram Unit :=
  tryCatch (atomicWrite ⟨bootstrapIdentity, .decision⟩ (.decision next) true) fun e => do
    if e ≠ .entryExists then throw e
    else
      match ← readPrivateFile ⟨bootstrapIdentity, .decision⟩ "decision" with
      | some (.decision phase) => if phase = next then return () else throw e
      | _ => throw e

/-- The journal goes on from one phase to the next. -/
def transition (bootstrapIdentity : String) (expected next : Phase) : StoreProgram Journal := do
  if (expected, next) ∉ allowedTransitions then
    failStore ("transition " ++ expected.text ++ " to " ++ next.text ++ " is unsupported")
  else
    match ← load bootstrapIdentity with
    | none =>
      failStore ("expected phase " ++ expected.text ++ " before transition to " ++ next.text)
    | some current =>
      if current.phase = next then return current
      else if current.phase ≠ expected then
        failStore ("expected phase " ++ expected.text ++ " before transition to " ++ next.text)
      else
        let updated ← Tree.lift (normalizeDockerManagedBootstrapJournal
          { current with phase := next })
        if expected = .cutover then publishDecision bootstrapIdentity next else pure ()
        rewrite updated
        return updated

/-- Two journals are written alike. -/
def sameSerializedJournal (left right : Journal) : Except Failure Bool := do
  let left ← serializeDockerManagedBootstrapJournal left
  let right ← serializeDockerManagedBootstrapJournal right
  return left = right

/-- The receipt of the commit is put into the journal. -/
def recordCompletion (bootstrapIdentity : String) (receipt : CompletionReceipt) :
    StoreProgram Journal := do
  match ← load bootstrapIdentity with
  | none => failStore "completion recording requires phase cutover, found absent"
  | some current =>
    if current.phase ≠ .cutover then
      failStore ("completion recording requires phase cutover, found " ++ current.phase.text)
    else
      let updated ← Tree.lift (normalizeDockerManagedBootstrapJournal
        { current with commitReceipt := some receipt })
      if current.commitReceipt ≠ none then
        if ← Tree.lift (sameSerializedJournal current updated) then return current
        else failStore "completion receipt changed for this bootstrap identity"
      else
        rewrite updated
        match ← load bootstrapIdentity with
        | none => failStore "completion receipt was not durably re-readable"
        | some persisted =>
          if ← Tree.lift (sameSerializedJournal persisted updated) then return persisted
          else failStore "completion receipt was not durably re-readable"

/-- A journal goes, from one of the expected phases only. -/
def remove (bootstrapIdentity : String) (expected : List Phase) : StoreProgram Unit := do
  match ← load bootstrapIdentity with
  | none => failStore "journal removal is not authorized from phase absent"
  | some current =>
    if current.phase ∉ expected then
      failStore ("journal removal is not authorized from phase " ++ current.phase.text)
    else
      match ← readPrivateFile ⟨bootstrapIdentity, .decision⟩ "decision" with
      | some _ => unlinkSync ⟨bootstrapIdentity, .decision⟩
      | none => pure ()
      unlinkSync ⟨bootstrapIdentity, .journal⟩

/-- The record of a replacement that has ended. -/
def loadFinalization (bootstrapIdentity : String) (context : Option FinalizationContext) :
    StoreProgram (Option FinalizationRecord) := do
  journalPath bootstrapIdentity
  match ← readPrivateFile ⟨bootstrapIdentity, .finalized⟩ "finalization" with
  | none => return none
  | some contents =>
    let record ← Tree.lift (parseDockerManagedBootstrapFinalizationRecord context contents)
    if record.bootstrapIdentity ≠ bootstrapIdentity then
      failStore "finalization bootstrap identity does not match its file name"
    else return some record

/-- The record that is there is the one that was to be written, or this is thrown. -/
def expectFinalization (serialized : FinalizationRecord) (context : Option FinalizationContext)
    (otherwise : Failure) : StoreProgram Unit := do
  if (← loadFinalization serialized.bootstrapIdentity context) = some serialized then return ()
  else throw otherwise

/-- The record is written, unless the same one stands already. -/
def recordFinalization (record : FinalizationRecord) (context : Option FinalizationContext) :
    StoreProgram Unit := do
  Tree.lift record.check
  Tree.lift (exactOption (assertFinalizationMatchesContext record) context)
  let serialized ← Tree.lift (serializeDockerManagedBootstrapFinalizationRecord record)
  match ← loadFinalization record.bootstrapIdentity context with
  | some existing =>
    if existing ≠ serialized then
      failStore "finalization record changed for this bootstrap identity"
    else return ()
  | none =>
    tryCatch (atomicWrite ⟨record.bootstrapIdentity, .finalized⟩ (.finalization serialized) true)
      fun e => expectFinalization serialized context e
    expectFinalization serialized context (.invalid
      "Managed bootstrap Docker journal is invalid: finalization record was not durably re-readable")

end NemoClaw.DockerJournal
