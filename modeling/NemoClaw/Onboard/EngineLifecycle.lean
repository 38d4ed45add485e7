import NemoClaw.Onboard.EngineRecord

/- The store of persisted engine lifecycles.

A transaction is a directory with a file for each phase it has come to. A process that
carries the operation out holds an execution lease there; a lease whose owner is dead is
removed under a recovery marker. A transaction that is over leaves a tombstone beside
its directory; how it is removed (`retire`), and `listUnfinished`, are not modelled.

Correspondence (runtime-provider/persisted-engine-lifecycle.ts ↔ Lean): the functions
and the methods of the store keep their names; each is a program over the store root.
A stable read is two calls, the file and whether it has changed since. Calls that change
no name and no contents (fsync, close) are left out. The root and each transaction
directory are private to the user, and hold names of the store only.
`exactExecutionOwnerIsAlive` is one call, answered exactly. The engine and the store of
engine authorities answer as the environment says, and so may a reader find that a file
changed under it.
-/
namespace NemoClaw.EngineLifecycle

open Js CallTree PrivateFiles
open ExecutionLease (isOwnerUuid)

/-! ## The store root -/

/-- A file of a transaction directory: one of `PHASE_FILES`, `EXECUTION_LEASE_FILE` or
`EXECUTION_RECOVERY_FILE`. -/
inductive Slot where
  | phase (phase : Phase)
  | lease
  | recovery
  deriving DecidableEq

/-- The files of the store: those of a transaction, and its tombstone. -/
inductive Name where
  | inTransaction (transactionId : String) (slot : Slot)
  | tombstone (transactionId : String)
  deriving DecidableEq

/-- What a listing of the root can show. -/
inductive RootEntry where
  | directory (name : String)
  | retired (transactionId : String)
  | temporary (transactionId : String)

/-- A command for the engine: on the host or in the engine's own scope. -/
structure Command where
  host : Bool
  args : List String
  timeoutMs : Option ℕ
  deriving DecidableEq

/-- `ContainerEngineCommandResult`. -/
structure CommandResult where
  status : Int
  stdout : String
  stderr : String

/-- The directories and the files; the processes that are alive; the commands that the engine was
given, newest first; the number of calls so far. -/
structure Store where
  directories : List String
  files : Files Name Content
  alive : Owner → Bool
  issued : List Command
  clock : ℕ

structure Environment where
  /-- `engineAuthorityStore.load("sandbox-lifecycle")` -/
  authority : ℕ → Except Failure (Option EngineAuthority)
  engine : ℕ → Except Failure CommandResult
  /-- a file that is being read changes -/
  changes : ℕ → Bool

/-- What an operation asks of its host. -/
inductive Request where
  | file (q : FsCall Name Content)
  /-- the second fstat of a stable read -/
  | changed
  | lstat (transactionId : String)
  | mkdir (transactionId : String)
  | readdir (transactionId : String)
  | rmdir (transactionId : String)
  | readRoot
  | isAlive (owner : Owner)
  | loadAuthority
  | capture (command : Command)

def Request.Answer : Request → Type
  | file q => q.Answer
  | changed => Bool
  | lstat _ => Bool
  | mkdir _ => Unit
  | readdir _ => List (Entry Slot)
  | rmdir _ => Unit
  | readRoot => List RootEntry
  | isAlive _ => Bool
  | loadAuthority => Except Failure (Option EngineAuthority)
  | capture _ => Except Failure CommandResult

/-- The entry as the directory of its transaction has it. -/
def slotEntry (transactionId : String) : Entry Name → Option (Entry Slot)
  | .file (.inTransaction t slot) => if t = transactionId then some (.file slot) else none
  | .temporary (.inTransaction t slot) n =>
    if t = transactionId then some (.temporary slot n) else none
  | .file (.tombstone _) | .temporary (.tombstone _) _ => none

/-- The entry as the root has it. -/
def rootEntry : Entry Name → Option RootEntry
  | .file (.tombstone t) => some (.retired t)
  | .temporary (.tombstone t) _ => some (.temporary t)
  | .file (.inTransaction _ _) | .temporary (.inTransaction _ _) _ => none

namespace Store

def tick (s : Store) : Store := { s with clock := s.clock + 1 }

def exec (env : Environment) (s : Store) : (q : Request) → Store × q.Answer
  | .file q => ({ s.tick with files := (s.files.exec q).1 }, (s.files.exec q).2)
  | .changed => (s.tick, env.changes s.clock)
  | .lstat t => (s.tick, decide (t ∈ s.directories))
  | .mkdir t =>
    ({ s.tick with
        directories := if t ∈ s.directories then s.directories else s.directories ++ [t] }, ())
  | .readdir t => (s.tick, s.files.entries.filterMap (slotEntry t))
  | .rmdir t => ({ s.tick with directories := s.directories.filter (· ≠ t) }, ())
  | .readRoot =>
    (s.tick, s.directories.map .directory ++ s.files.entries.filterMap rootEntry)
  | .isAlive owner => (s.tick, s.alive owner)
  | .loadAuthority => (s.tick, env.authority s.clock)
  | .capture command => ({ s.tick with issued := command :: s.issued }, env.engine s.clock)

def contents (s : Store) (x : Name) : Option Content := s.files.contents x

end Store

/-- An operation of the store, call by call. -/
abbrev Program (α : Type) := Tree Request Request.Answer Failure α

def fail {α : Type} (message : String) : Program α := .lift (invalid message)

/-- `throw new Error(message)`. -/
def throwNew {α : Type} (message : String) : Program α := .done (.error (.invalid message))

/-! Each call, with the type of its answer. -/

def readSync (x : Name) : Program (Option (File Content)) := Tree.ask (Request.file (.read x))

def openSync (x : Name) : Program ℕ := Tree.ask (Request.file (.openTemporary x))

def writeFileSync (x : Name) (n : ℕ) (c : Content) : Program Unit :=
  Tree.ask (Request.file (.write x n c))

def linkSync (x : Name) (n : ℕ) (c : Content) : Program Bool :=
  Tree.ask (Request.file (.link x n c))

def unlinkTemporary (x : Name) (n : ℕ) : Program Bool :=
  Tree.ask (Request.file (.unlinkTemporary x n))

def unlinkName (x : Name) : Program Bool := Tree.ask (Request.file (.unlink x))

def changedSync : Program Bool := Tree.ask Request.changed

def lstatSync (transactionId : String) : Program Bool := Tree.ask (Request.lstat transactionId)

def mkdirSync (transactionId : String) : Program Unit := Tree.ask (Request.mkdir transactionId)

def exactExecutionOwnerIsAlive (lease : Lease) : Program Bool :=
  Tree.ask (Request.isAlive lease.owner)

def loadAuthority : Program (Except Failure (Option EngineAuthority)) :=
  Tree.ask Request.loadAuthority

def captureCommand (command : Command) : Program (Except Failure CommandResult) :=
  Tree.ask (Request.capture command)

/-- The contents, unless the file changed while it was read. -/
def stableContents (f : File Content) (changed : Bool) : Program (Option Content) :=
  if changed then fail "ledger file changed during its stable read" else return some f.content

/-- The contents of a file that is this user's alone. -/
def readPrivateFile (x : Name) : Program (Option Content) := do
  match ← readSync x with
  | none => return none
  | some f =>
    if f.nlink ≠ 1 then fail "ledger file failed ownership, mode, link, or size checks"
    else stableContents f (← changedSync)

/-- `fs.rmSync(temporary, { force: true })`. -/
def cleanup {α : Type} (x : Name) (n : ℕ) (r : Except Failure α) : Program α := do
  let _ ← unlinkTemporary x n
  .lift r

/-- The file is written aside and linked; the answer is whether the name was free. -/
def publishExclusive (x : Name) (serialized : Content) : Program Bool := do
  let n ← openSync x
  writeFileSync x n serialized
  if ← linkSync x n serialized then
    if ← unlinkTemporary x n then cleanup x n (.ok true)
    else cleanup x n (.error .noEntry)
  else cleanup x n (.ok false)

/-- `fs.unlinkSync`. -/
def unlinkSync (x : Name) : Program Unit := do
  if ← unlinkName x then return () else .lift (.error .noEntry)

/-- The lease in a file. -/
def parseLease : Option Content → Except Failure (Option Lease)
  | none => .ok none
  | some c => (parseExecutionLease c).map some

/-- `loadExecutionLease` and `loadExecutionRecovery`, by the file that they read. -/
def loadLeaseFile (transactionId : String) (slot : Slot) : Program (Option Lease) := do
  let serialized ← readPrivateFile (.inTransaction transactionId slot)
  .lift (parseLease serialized)

/-- The lease of a transaction. -/
def loadExecutionLease (transactionId : String) : Program (Option Lease) :=
  loadLeaseFile transactionId .lease

/-- The marker of who removes a dead lease. -/
def loadExecutionRecovery (transactionId : String) : Program (Option Lease) :=
  loadLeaseFile transactionId .recovery

/-- The lease that is there is the expected one. -/
def sameLease (current : Option Lease) (expected : Lease) (message : String) :
    Except Failure Unit :=
  match current with
  | none => invalid message
  | some current => do
    let left ← serializeExecutionLease current
    let right ← serializeExecutionLease expected
    if left ≠ right then invalid message else return ()

/-- The transaction is still held by this lease. -/
def requireExactExecutionLease (transactionId : String) (expected : Lease) : Program Unit := do
  let current ← loadExecutionLease transactionId
  .lift (sameLease current expected "mutation execution ownership changed")

/-- The lease goes, if it is this one. -/
def removeExactExecutionLease (transactionId : String) (expected : Lease) : Program Unit := do
  requireExactExecutionLease transactionId expected
  unlinkSync (.inTransaction transactionId .lease)

/-- The marker goes, if it is this one. -/
def removeExactExecutionRecovery (transactionId : String) (expected : Lease) : Program Unit := do
  let current ← loadExecutionRecovery transactionId
  Tree.lift (sameLease current expected "mutation execution recovery ownership changed")
  unlinkSync (.inTransaction transactionId .recovery)

/-- The record in a phase's file, which has to be of that phase. -/
def parsePhase (phase : Phase) : Option Content → Except Failure (Option Record)
  | none => .ok none
  | some c => do
    let record ← parsePersistedEngineLifecycleRecord c
    if record.phase ≠ phase then invalid (phase.text ++ " file contains another phase")
    else return some record

/-- The record of a phase. -/
def loadPhase (transactionId : String) (phase : Phase) : Program (Option Record) := do
  let serialized ← readPrivateFile (.inTransaction transactionId (.phase phase))
  .lift (parsePhase phase serialized)

/-- The checks between the phases, `prepared` being there. -/
def currentPhase (prepared : Record) (authorized completed : Option Record) :
    Except Failure Record :=
  match authorized, completed with
  | none, some _ => invalid "completed transaction is missing mutation authority"
  | none, none => .ok prepared
  | some authorized, none => do
    requireSameLifecycle prepared authorized
    return authorized
  | some authorized, some completed => do
    requireSameLifecycle prepared authorized
    requireSameLifecycle prepared completed
    return completed

/-- `!prepared || prepared.transactionId !== transactionId`. -/
def exactPrepared (transactionId : String) : Option Record → Except Failure Record
  | none => invalid "transaction is missing its exact prepared authority"
  | some prepared =>
    if prepared.transactionId ≠ transactionId then
      invalid "transaction is missing its exact prepared authority"
    else .ok prepared

/-- The record of the latest phase, each one following from that before it. -/
def loadPhases (transactionId : String) : Program (Option Record) := do
  let prepared ← loadPhase transactionId .prepared
  let prepared ← Tree.lift (exactPrepared transactionId prepared)
  let authorized ← loadPhase transactionId .mutationAuthorized
  let completed ← loadPhase transactionId .completed
  .lift ((currentPhase prepared authorized completed).map some)

/-- The record of a transaction that has a directory. -/
def loadTransaction (transactionId : String) : Program (Option Record) := do
  let _ ← Tree.lift (exactSha256 transactionId "transaction identity")
  if ← lstatSync transactionId then loadPhases transactionId else return none

/-- After an exclusive publication that found the name taken. -/
def existingPhase (record : Record) (serialized : Content) : Program Record := do
  let existing ← loadPhase record.transactionId record.phase
  match existing with
  | none => fail (record.phase.text ++ " authority already exists with different content")
  | some existing =>
    let text ← Tree.lift (serializePersistedEngineLifecycleRecord existing)
    if text = serialized then return existing
    else fail (record.phase.text ++ " authority already exists with different content")

/-- The record is published as its phase's file. -/
def publishPhase (record : Record) : Program Record := do
  let _ ← Tree.lift (exactSha256 record.transactionId "transaction identity")
  mkdirSync record.transactionId
  let serialized ← Tree.lift (serializePersistedEngineLifecycleRecord record)
  if ← publishExclusive (.inTransaction record.transactionId (.phase record.phase)) serialized then
    return record
  else existingPhase record serialized

def load (transactionId : String) : Program (Option Record) := loadTransaction transactionId

/-- `readPrivateFile(...) === null`. -/
def isAbsent (x : Name) : Program Bool := do
  return (← readPrivateFile x).isNone

/-- Where no tombstone is in the way. -/
def createIn (record : Record) : Program Record := do
  let existing ← loadTransaction record.transactionId
  match existing with
  | some existing =>
    Tree.lift (requireSameLifecycle record existing)
    return existing
  | none => publishPhase record

/-- A transaction begins. -/
def create (value : Record) : Program Record := do
  let record ← Tree.lift (normalizePersistedEngineLifecycleRecord value)
  if record.phase ≠ .prepared ∨ record.resultSha256 ≠ none then
    fail "new lifecycle must begin in prepared phase"
  else
    if ← isAbsent (.tombstone record.transactionId) then createIn record
    else fail "retired transaction identity cannot be reused"

/-- The mutation of a prepared transaction is authorized. -/
def authorizeMutation (transactionId : String) : Program Record := do
  let current ← loadTransaction transactionId
  match current with
  | none => fail "mutation authorization requires prepared authority"
  | some current =>
    match current.phase with
    | .mutationAuthorized => return current
    | .prepared =>
      let record ← Tree.lift
        (normalizePersistedEngineLifecycleRecord { current with phase := .mutationAuthorized })
      publishPhase record
    | .completed => fail ("mutation is not allowed from " ++ current.phase.text)

/-! ### Execution -/

/-- A text that `randomUUID` can return. -/
abbrev Uuid := { s : String // isOwnerUuid s }

/-- The process that calls, and what its calls of `randomUUID` return. -/
structure Caller where
  owner : Owner
  ids : ℕ → Uuid

/-- The record of the caller, with one of its identities. -/
def Caller.leaseFor (caller : Caller) (transactionId : String) (n : ℕ) : Lease :=
  ⟨transactionId, (caller.ids n).val, caller.owner.pid, caller.owner.startIdentity⟩

/-- The marker of an owner that is gone is removed. -/
def removeDeadRecovery (transactionId : String) (existingRecovery : Lease) : Program Unit := do
  if existingRecovery.transactionId ≠ transactionId then
    fail "mutation execution recovery names another transaction"
  else
    if ← exactExecutionOwnerIsAlive existingRecovery then
      fail "mutation execution recovery is already in progress"
    else removeExactExecutionRecovery transactionId existingRecovery

/-- A marker in the way is removed, if its owner is gone. -/
def clearRecovery (transactionId : String) : Program Unit := do
  match ← loadExecutionRecovery transactionId with
  | none => return ()
  | some existingRecovery => removeDeadRecovery transactionId existingRecovery

/-- Under the own recovery marker. -/
def removeAbandoned (transactionId : String) : Program Unit := do
  match ← loadExecutionLease transactionId with
  | none => return ()
  | some abandoned =>
    if ← exactExecutionOwnerIsAlive abandoned then
      fail "mutation execution owner became live during recovery"
    else removeExactExecutionLease transactionId abandoned

/-- The marker is this caller's. -/
def isOwnMarker (marker : Option Lease) (recovery : Lease) : Except Failure Bool :=
  match marker with
  | none => .ok false
  | some marker => do
    let left ← serializeExecutionLease marker
    let right ← serializeExecutionLease recovery
    return decide (left = right)

/-- This caller's marker is removed. -/
def removeOwnMarker (transactionId : String) (recovery : Lease) : Program Unit := do
  let marker ← loadExecutionRecovery transactionId
  if ← Tree.lift (isOwnMarker marker recovery) then
    removeExactExecutionRecovery transactionId recovery
  else return ()

/-- The lease of a dead owner is removed, by one recovery at a time. -/
def recoverLease (transactionId : String) (recovery : Lease) : Program Unit := do
  let serialized ← Tree.lift (serializeExecutionLease recovery)
  if ← publishExclusive (.inTransaction transactionId .recovery) serialized then
    (removeAbandoned transactionId).tryFinally (removeOwnMarker transactionId recovery)
  else return ()

/-- A lease that is there: recover it, if its owner is dead. -/
def contendLease (transactionId : String) (recovery : Lease) : Program Unit := do
  match ← loadExecutionLease transactionId with
  | none => return ()
  | some existing =>
    if existing.transactionId ≠ transactionId then
      fail "mutation execution lease names another transaction"
    else
      if ← exactExecutionOwnerIsAlive existing then
        fail "mutation execution is already owned by a live process"
      else
        let recovery ← Tree.lift (normalizeExecutionLease recovery)
        recoverLease transactionId recovery

/-- One attempt; `none` is `continue`. -/
def attemptExecution (transactionId : String) (lease recovery : Lease) :
    Program (Option Lease) := do
  clearRecovery transactionId
  let serialized ← Tree.lift (serializeExecutionLease lease)
  if ← publishExclusive (.inTransaction transactionId .lease) serialized then
    if ← isAbsent (.inTransaction transactionId .recovery) then return some lease
    else
      removeExactExecutionLease transactionId lease
      return none
  else
    contendLease transactionId recovery
    return none

/-- The lease is tried for again while a dead one stands in the way. -/
def attempts (caller : Caller) (transactionId : String) (lease : Lease) : ℕ → Program Lease
  | 0 => fail "mutation execution ownership could not be acquired"
  | n + 1 => do
    match ← attemptExecution transactionId lease (caller.leaseFor transactionId (n + 1)) with
    | some lease => return lease
    | none => attempts caller transactionId lease n

/-- How often the lease is tried for. -/
def maxAttempts : ℕ := 3

/-- With durable mutation authority. -/
def acquireAuthorized (caller : Caller) (transactionId : String) : Program Lease := do
  mkdirSync transactionId
  let lease ← Tree.lift (normalizeExecutionLease (caller.leaseFor transactionId 0))
  attempts caller transactionId lease maxAttempts

/-- The lease of an authorized transaction is taken. -/
def acquireMutationExecution (caller : Caller) (transactionId : String) : Program Lease := do
  let current ← loadTransaction transactionId
  if current.map (·.phase) ≠ some .mutationAuthorized then
    fail "mutation execution requires durable mutation authority"
  else acquireAuthorized caller transactionId

/-- The lease still holds its transaction. -/
def assertMutationExecution (lease : Lease) : Program Unit := do
  let expected ← Tree.lift (normalizeExecutionLease lease)
  let current ← loadTransaction expected.transactionId
  if current.map (·.phase) ≠ some .mutationAuthorized then
    fail "mutation execution authority is no longer active"
  else requireExactExecutionLease expected.transactionId expected

/-- The lease is given back. -/
def releaseMutationExecution (lease : Lease) : Program Unit := do
  let expected ← Tree.lift (normalizeExecutionLease lease)
  let current ← loadTransaction expected.transactionId
  match current with
  | none => fail "mutation execution transaction is missing"
  | some _ => removeExactExecutionLease expected.transactionId expected

/-- With the lease in place. -/
def completeFrom (result : String) : Option Record → Program Record
  | none => fail "completion requires durable mutation authority"
  | some current =>
    match current.phase with
    | .completed =>
      if current.resultSha256 = some result then return current
      else fail "completion result digest changed"
    | .mutationAuthorized => do
      let record ← Tree.lift (normalizePersistedEngineLifecycleRecord
        { current with phase := .completed, resultSha256 := some result })
      publishPhase record
    | .prepared => fail ("completion is not allowed from " ++ current.phase.text)

/-- The transaction is completed by the holder of its lease. -/
def complete (lease : Lease) (resultSha256 : String) : Program Record := do
  let execution ← Tree.lift (normalizeExecutionLease lease)
  requireExactExecutionLease execution.transactionId execution
  let result ← Tree.lift (exactSha256 resultSha256 "completion result digest")
  let current ← loadTransaction execution.transactionId
  completeFrom result current

end NemoClaw.EngineLifecycle
