import NemoClaw.Js.Text
import NemoClaw.Js.Stringify
import NemoClaw.Onboard.PrivateFiles

/- The Podman store of managed-bootstrap journals.

A journal goes through the creation of a replacement; that it is to be rolled back is
decided by a second file, which is published once, and from then on a load rewrites the
journal to agree with it.

Correspondence (managed-bootstrap/podman-bootstrap-journal.ts ↔ Lean): the functions
keep their names, and the methods of the store are programs over its directory. A
canonical text stands for its record; its length is that of the text. The directory is
there and private.
-/
namespace NemoClaw.PodmanJournal

open Js CallTree PrivateFiles

/-- `PodmanBootstrapJournalPhase`. -/
inductive Phase where
  | preparingReplacement
  | stateVolumeCreated
  | replacementCreated
  | originalStopped
  | rollbackAuthorized
  deriving DecidableEq

/-- The phase as the journal writes it. -/
def Phase.text : Phase → String
  | preparingReplacement => "preparing-replacement"
  | stateVolumeCreated => "state-volume-created"
  | replacementCreated => "replacement-created"
  | originalStopped => "original-stopped"
  | rollbackAuthorized => "rollback-authorized"

/-- `PodmanBootstrapJournal`. -/
structure Journal where
  phase : Phase
  bootstrapIdentity : String
  engineAuthorityId : String
  watcherLeaseId : String
  sandboxName : String
  sandboxId : String
  originalRuntimeId : String
  originalContainerName : String
  originalImageContentId : String
  originalSpecFingerprint : String
  replacementStateVolumeName : String
  replacementStateVolumeMountpoint : Option String
  replacementRuntimeId : Option String
  replacementStagingName : String
  replacementImageContentId : String
  replacementSpecFingerprint : String
  deriving DecidableEq

/-! ## Checks -/

abbrev Check := Except Failure Unit

/-- The error of a journal that is refused. -/
def invalid {α : Type} (message : String) : Except Failure α :=
  .error (.invalid ("Podman bootstrap journal is invalid: " ++ message))

/-- A check with the message of its failure. -/
def require (p : Prop) [Decidable p] (message : String) : Check :=
  if p then .ok () else invalid message

/-- `CONTROL_CHARACTER`. -/
def isControl (c : Char) : Bool := c.toNat ≤ 0x1f || (0x7f ≤ c.toNat && c.toNat ≤ 0x9f)

/-- A bounded string without blanks at its ends or control characters. -/
def exactString (value label : String) (maxBytes : ℕ) : Check :=
  require (value ≠ "" ∧ isTrimmed value ∧ value.toList.any isControl = false ∧
      byteLength value ≤ maxBytes)
    (label ++ " must be one bounded exact string")

/-- `SHA256`. -/
def exactSha256 (value label : String) : Check :=
  require (isLowerHexOf 64 value) (label ++ " must be lowercase SHA-256")

/-- The id of a container. -/
def exactRuntimeId (value label : String) : Check := exactSha256 value label

/-- The text begins with the letters, and 64 hexadecimal digits follow. -/
def isDigestAfter (start : List Char) (s : String) : Bool :=
  s.toList.take start.length == start && isLowerHexOf 64 (.ofList (s.toList.drop start.length))

/-- `IMAGE_CONTENT_ID`. -/
def exactImageContentId (value label : String) : Check :=
  require (isDigestAfter "sha256:".toList value)
    (label ++ " must be one immutable sha256 image content ID")

/-- `path.normalize` leaves the absolute path as it is, and it is not the root: no piece is
empty, a dot or two, except that the path may end in a slash. -/
def isNormalizedPath (p : String) : Bool :=
  match p.toList.splitOn '/' with
  | start :: first :: rest =>
    start == [] && first ≠ [] &&
      ((first :: rest).dropLast.all (fun piece => piece ≠ [] && piece ≠ ['.'] && piece ≠ ['.', '.'])) &&
      (first :: rest).getLast?.all (fun piece => piece ≠ ['.'] && piece ≠ ['.', '.'])
  | _ => false

/-- A normalized path below the root. -/
def exactAbsolutePath (value label : String) : Check := do
  exactString value label 4096
  require (isAbsolutePath value ∧ isNormalizedPath value)
    (label ++ " must be one normalized non-root absolute path")

/-- A name that Podman accepts. -/
def isSafeName (s : String) : Bool :=
  match s.toList with
  | c :: rest =>
    isAlphanumeric c && rest.all (fun c => isAlphanumeric c || c ∈ ['_', '.', '-']) &&
      rest.length ≤ 252
  | [] => false
where
  isAlphanumeric (c : Char) : Bool := isLower c || ('A' ≤ c && c ≤ 'Z') || isDigit c

/-- The name of a container. -/
def exactContainerName (value label : String) : Check := do
  exactString value label 253
  require (isSafeName value) (label ++ " is malformed")

/-- `LEASE_ID`. -/
def isLeaseId (s : String) : Bool :=
  match s.toList.splitOn '-' with
  | [a, b, c, d, e] =>
    [a, b, c, d, e].all (fun part => part.all isLowerHex) &&
      [a, b, c, d, e].map List.length == [8, 4, 4, 4, 12] &&
      c.head? == some '4' && d.head?.any (fun v => v ∈ ['8', '9', 'a', 'b'])
  | _ => false

/-- A value that may be missing. -/
def exactNullable (exact : String → String → Check) (value : Option String) (label : String) :
    Check :=
  match value with
  | none => .ok ()
  | some value => exact value label

/-- The phase says which parts of the replacement there are. -/
def Journal.phaseMatches (j : Journal) : Bool :=
  match j.phase with
  | .preparingReplacement =>
    j.replacementStateVolumeMountpoint == none && j.replacementRuntimeId == none
  | .stateVolumeCreated =>
    j.replacementStateVolumeMountpoint ≠ none && j.replacementRuntimeId == none
  | .replacementCreated | .originalStopped =>
    j.replacementStateVolumeMountpoint ≠ none && j.replacementRuntimeId ≠ none
  | .rollbackAuthorized => true

/-- The fields of a journal are well formed. -/
def Journal.checkFields (j : Journal) : Check := do
  exactNullable exactRuntimeId j.replacementRuntimeId "replacement runtime ID"
  exactNullable exactAbsolutePath j.replacementStateVolumeMountpoint
    "replacement state volume mountpoint"
  exactSha256 j.bootstrapIdentity "bootstrap identity"
  exactString j.engineAuthorityId "engine authority ID" 256
  exactString j.watcherLeaseId "watcher lease ID" 64
  exactString j.sandboxName "sandbox name" 128
  exactString j.sandboxId "sandbox ID" 4096
  exactRuntimeId j.originalRuntimeId "original runtime ID"
  exactContainerName j.originalContainerName "original container name"
  exactImageContentId j.originalImageContentId "original image content ID"
  exactSha256 j.originalSpecFingerprint "original spec fingerprint"
  exactContainerName j.replacementStateVolumeName "replacement state volume name"
  exactContainerName j.replacementStagingName "replacement staging name"
  exactImageContentId j.replacementImageContentId "replacement image content ID"
  exactSha256 j.replacementSpecFingerprint "replacement spec fingerprint"
  require (isDigestAfter "podman-sha256:".toList j.engineAuthorityId)
    "engine authority ID is not an exact Podman authority"
  require (isLeaseId j.watcherLeaseId) "watcher lease ID is malformed"
  require (j.originalContainerName ≠ j.replacementStagingName)
    "original and replacement names must differ"
  require (some j.originalRuntimeId ≠ j.replacementRuntimeId)
    "original and replacement runtime IDs must differ"

/-- What a journal has to satisfy. -/
def Journal.check (j : Journal) : Check := do
  j.checkFields
  require j.phaseMatches "phase does not match the replacement runtime identity"

def normalizePodmanBootstrapJournal (j : Journal) : Except Failure Journal := do
  j.check
  return j

/-- The fields in the order of the file. -/
def Journal.fields (j : Journal) : List (String × String) :=
  [("schemaVersion", "1"), ("phase", quote j.phase.text),
    ("bootstrapIdentity", quote j.bootstrapIdentity),
    ("engineAuthorityId", quote j.engineAuthorityId),
    ("watcherLeaseId", quote j.watcherLeaseId), ("sandboxName", quote j.sandboxName),
    ("sandboxId", quote j.sandboxId), ("originalRuntimeId", quote j.originalRuntimeId),
    ("originalContainerName", quote j.originalContainerName),
    ("originalImageContentId", quote j.originalImageContentId),
    ("originalSpecFingerprint", quote j.originalSpecFingerprint),
    ("replacementStateVolumeName", quote j.replacementStateVolumeName),
    ("replacementStateVolumeMountpoint", quoteOrNull j.replacementStateVolumeMountpoint),
    ("replacementRuntimeId", quoteOrNull j.replacementRuntimeId),
    ("replacementStagingName", quote j.replacementStagingName),
    ("replacementImageContentId", quote j.replacementImageContentId),
    ("replacementSpecFingerprint", quote j.replacementSpecFingerprint)]

/-- The journal as its file has it. -/
def Journal.text (j : Journal) : String := objectText j.fields ++ "\n"

/-- The largest file that is written. -/
def maxJournalBytes : ℕ := 32 * 1024

/-- The journal, if it may be written. -/
def serializePodmanBootstrapJournal (j : Journal) : Except Failure Journal := do
  let normalized ← normalizePodmanBootstrapJournal j
  require (byteLength normalized.text ≤ maxJournalBytes)
    "serialized journal exceeds its bounded transport"
  return normalized

/-- The two files of a replacement. -/
inductive Kind where
  | journal
  | decision
  deriving DecidableEq

/-- A file of the store. -/
structure Target where
  bootstrapIdentity : String
  kind : Kind
  deriving DecidableEq

/-- What a file of the store holds; the one decision is `rollback-authorized` and a line
feed. -/
inductive Content where
  | journal (j : Journal)
  | decision
  deriving DecidableEq

/-- The journal in a file, if it holds one. -/
def parsePodmanBootstrapJournal : Content → Except Failure Journal
  | .journal j => serializePodmanBootstrapJournal j
  | .decision => invalid "serialized journal is not valid JSON"

/-- The UUID in a temporary name. -/
structure Stamp where
  uuid : List Char
  uuid_hex : uuid ≠ [] ∧ uuid.all (fun c => isLowerHex c || c == '-')

/-- What follows the identity in a file's name. -/
def Kind.suffix : Kind → List (List Char)
  | journal => []
  | decision => ["decision".toList]

/-- The name of a file, as its pieces between dots. -/
def Target.pieces (x : Target) : List (List Char) :=
  [x.bootstrapIdentity.toList, "json".toList] ++ x.kind.suffix

/-- The name of an entry in the directory; a temporary file is hidden and stamped. -/
def entryName (stamps : ℕ → Stamp) : Entry Target → List Char
  | .file x => ['.'].intercalate x.pieces
  | .temporary x n =>
    ['.'].intercalate ([[]] ++ x.pieces ++ [(stamps n).uuid, "tmp".toList])

def isSha256 (cs : List Char) : Bool := cs.length == 64 && cs.all isLowerHex

def isStamp (cs : List Char) : Bool := cs ≠ [] && cs.all (fun c => isLowerHex c || c == '-')

/-- `^([a-f0-9]{64})\.json$`. -/
def journalName (name : List Char) : Option String :=
  match name.splitOn '.' with
  | [identity, json] =>
    if isSha256 identity ∧ json = "json".toList then some (.ofList identity) else none
  | _ => none

/-- `^([a-f0-9]{64})\.json\.decision$`. -/
def decisionName (name : List Char) : Option String :=
  match name.splitOn '.' with
  | [identity, json, kind] =>
    if isSha256 identity ∧ json = "json".toList ∧ kind = "decision".toList then
      some (.ofList identity)
    else none
  | _ => none

/-- The pattern of names that are passed over. -/
def isTemporaryName (name : List Char) : Bool :=
  match name.splitOn '.' with
  | [start, identity, json, uuid, tmp] =>
    start == [] && isSha256 identity && json == "json".toList && isStamp uuid &&
      tmp == "tmp".toList
  | [start, identity, json, kind, uuid, tmp] =>
    start == [] && isSha256 identity && json == "json".toList && kind == "decision".toList &&
      isStamp uuid && tmp == "tmp".toList
  | _ => false

/-- The identities whose journals, and those whose decisions, are in a listing. -/
def readNames : List (List Char) → Except Failure (List String × List String)
  | [] => .ok ([], [])
  | name :: names =>
    match journalName name with
    | some identity => (readNames names).map fun r => (identity :: r.1, r.2)
    | none =>
      match decisionName name with
      | some identity => (readNames names).map fun r => (r.1, identity :: r.2)
      | none =>
        if isTemporaryName name then readNames names
        else invalid ("journal directory contains an unsupported entry: " ++ .ofList name)

/-! ## The store -/

/-- An operation of the store, call by call. -/
abbrev StoreProgram (α : Type) := Program Target Content α

def failStore {α : Type} (message : String) : StoreProgram α := Tree.lift (invalid message)

/-- The identity has to be a digest, for it names the file. -/
def journalPath (bootstrapIdentity : String) : StoreProgram Unit :=
  Tree.lift (exactSha256 bootstrapIdentity "bootstrap identity")

/-- The journal is put in the place of the one that is there. -/
def rewrite (bootstrapIdentity : String) (j : Journal) : StoreProgram Unit := do
  let serialized ← Tree.lift (serializePodmanBootstrapJournal j)
  atomicWrite ⟨bootstrapIdentity, .journal⟩ (.journal serialized) false

/-- The journal of a replacement, its decision applied. -/
def load (bootstrapIdentity : String) : StoreProgram (Option Journal) := do
  journalPath bootstrapIdentity
  match ← readPrivateFile ⟨bootstrapIdentity, .journal⟩ "journal" with
  | none => return none
  | some contents =>
    let journal ← Tree.lift (parsePodmanBootstrapJournal contents)
    match ← readPrivateFile ⟨bootstrapIdentity, .decision⟩ "rollback decision" with
    | none => return some journal
    | some contents =>
      if contents ≠ .decision then failStore "rollback decision is invalid"
      else if journal.phase = .rollbackAuthorized then return some journal
      else
        let decided ← Tree.lift (normalizePodmanBootstrapJournal
          { journal with phase := .rollbackAuthorized })
        rewrite bootstrapIdentity decided
        return some decided

/-- A journal is started, before the replacement is created. -/
def create (journal : Journal) : StoreProgram Unit := do
  let normalized ← Tree.lift (normalizePodmanBootstrapJournal journal)
  if normalized.phase ≠ .preparingReplacement then
    failStore "a new journal must begin before replacement creation"
  else
    match ← readPrivateFile ⟨normalized.bootstrapIdentity, .decision⟩ "rollback decision" with
    | some _ => failStore "stale rollback decision exists for this bootstrap identity"
    | none =>
      let serialized ← Tree.lift (serializePodmanBootstrapJournal normalized)
      atomicWrite ⟨normalized.bootstrapIdentity, .journal⟩ (.journal serialized) true

/-- The journals of the identities, each of which has to be there. -/
def loadAll : List String → StoreProgram (List Journal)
  | [] => return []
  | identity :: identities => do
    match ← load identity with
    | none => failStore ("enumerated journal " ++ identity ++ " disappeared")
    | some journal => return journal :: (← loadAll identities)

/-- The journals of a listing in which no decision stands alone. -/
def loadListed (identities decisions : List String) : StoreProgram (List Journal) :=
  match decisions.find? (· ∉ identities) with
  | some identity => failStore ("rollback decision " ++ identity ++ " has no journal")
  | none => loadAll (identities.insertionSort (· ≤ ·))

/-- All journals, in the order of their identities. -/
def listUnfinished (stamps : ℕ → Stamp) : StoreProgram (List Journal) := do
  let entries ← readdirSync
  let names ← Tree.lift (readNames (entries.map (entryName stamps)))
  loadListed names.1 names.2

/-- Two journals are written alike. -/
def sameJournal (left right : Journal) : Except Failure Bool := do
  let left ← serializePodmanBootstrapJournal left
  let right ← serializePodmanBootstrapJournal right
  return left = right

/-- The journal is rewritten and read again. -/
def rewriteAndLoad (bootstrapIdentity : String) (updated : Journal) (message : String) :
    StoreProgram Journal := do
  rewrite bootstrapIdentity updated
  match ← load bootstrapIdentity with
  | none => failStore message
  | some persisted =>
    if ← Tree.lift (sameJournal persisted updated) then return persisted
    else failStore message

/-- The state volume that was created is recorded. -/
def recordStateVolume (bootstrapIdentity replacementStateVolumeMountpoint : String) :
    StoreProgram Journal := do
  Tree.lift (exactAbsolutePath replacementStateVolumeMountpoint
    "replacement state volume mountpoint")
  journalPath bootstrapIdentity
  match ← load bootstrapIdentity with
  | none => failStore "state volume recording requires preparing-replacement, found absent"
  | some current =>
    if current.phase = .stateVolumeCreated then
      if current.replacementStateVolumeMountpoint ≠ some replacementStateVolumeMountpoint then
        failStore "replacement state volume mountpoint changed for this bootstrap identity"
      else return current
    else if current.phase ≠ .preparingReplacement then
      failStore ("state volume recording requires preparing-replacement, found " ++
        current.phase.text)
    else
      let updated ← Tree.lift (normalizePodmanBootstrapJournal
        { current with
            phase := .stateVolumeCreated
            replacementStateVolumeMountpoint := some replacementStateVolumeMountpoint })
      rewriteAndLoad bootstrapIdentity updated
        "replacement state volume was not durably re-readable"

/-- The replacement that was created is recorded. -/
def recordReplacement (bootstrapIdentity replacementRuntimeId : String) :
    StoreProgram Journal := do
  Tree.lift (exactRuntimeId replacementRuntimeId "replacement runtime ID")
  journalPath bootstrapIdentity
  match ← load bootstrapIdentity with
  | none => failStore "replacement recording requires state-volume-created, found absent"
  | some current =>
    if current.phase = .replacementCreated then
      if current.replacementRuntimeId ≠ some replacementRuntimeId then
        failStore "replacement runtime ID changed for this bootstrap identity"
      else return current
    else if current.phase ≠ .stateVolumeCreated then
      failStore ("replacement recording requires state-volume-created, found " ++
        current.phase.text)
    else
      let updated ← Tree.lift (normalizePodmanBootstrapJournal
        { current with
            phase := .replacementCreated
            replacementRuntimeId := some replacementRuntimeId })
      rewriteAndLoad bootstrapIdentity updated "replacement identity was not durably re-readable"

/-- The original container has been stopped. -/
def recordOriginalStopped (bootstrapIdentity : String) : StoreProgram Journal := do
  journalPath bootstrapIdentity
  match ← load bootstrapIdentity with
  | none => failStore "original stop recording requires replacement-created, found absent"
  | some current =>
    if current.phase = .originalStopped then return current
    else if current.phase ≠ .replacementCreated then
      failStore ("original stop recording requires replacement-created, found " ++
        current.phase.text)
    else
      let updated ← Tree.lift (normalizePodmanBootstrapJournal
        { current with phase := .originalStopped })
      rewriteAndLoad bootstrapIdentity updated "original stop was not durably re-readable"

/-- The decision is written, unless it stands already. -/
def publishDecision (bootstrapIdentity : String) : StoreProgram Unit :=
  tryCatch (atomicWrite ⟨bootstrapIdentity, .decision⟩ .decision true) fun e => do
    if e ≠ .entryExists then throw e
    else
      match ← readPrivateFile ⟨bootstrapIdentity, .decision⟩ "rollback decision" with
      | some .decision => return ()
      | _ => throw e

/-- The rollback is decided, from one of the expected phases. -/
def authorizeRollback (bootstrapIdentity : String) (expected : List Phase) :
    StoreProgram Journal := do
  if expected = [] then failStore "rollback authorization requires at least one expected phase"
  else
    journalPath bootstrapIdentity
    match ← load bootstrapIdentity with
    | none => failStore "rollback authorization is not allowed from absent"
    | some current =>
      if current.phase = .rollbackAuthorized then return current
      else if current.phase ∉ expected then
        failStore ("rollback authorization is not allowed from " ++ current.phase.text)
      else
        publishDecision bootstrapIdentity
        let updated ← Tree.lift (normalizePodmanBootstrapJournal
          { current with phase := .rollbackAuthorized })
        rewrite bootstrapIdentity updated
        return updated

/-- The journal goes after the rollback. -/
def removeAfterRollback (bootstrapIdentity : String) : StoreProgram Unit := do
  journalPath bootstrapIdentity
  match ← load bootstrapIdentity with
  | none => failStore "rollback removal requires rollback-authorized, found absent"
  | some current =>
    if current.phase ≠ .rollbackAuthorized then
      failStore ("rollback removal requires rollback-authorized, found " ++ current.phase.text)
    else
      match ← readPrivateFile ⟨bootstrapIdentity, .decision⟩ "rollback decision" with
      | some _ => unlinkSync ⟨bootstrapIdentity, .decision⟩
      | none => pure ()
      unlinkSync ⟨bootstrapIdentity, .journal⟩

end NemoClaw.PodmanJournal
