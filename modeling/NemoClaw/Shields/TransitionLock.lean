import NemoClaw.Js.Json
import NemoClaw.Js.Text
import NemoClaw.Lib.Runs
import NemoClaw.Lib.LockFiles

/- The shields transition lock of one sandbox.

The lock is a file that is linked into place complete. A lock whose owner is gone is
removed under a second file, `<lock>.recovering`, which is taken the same way and can
itself be left behind, so that its removal is guarded by `<lock>.recovering.recovering`,
and so on: level 0 is the lock, and level `n + 1` guards level `n`. Each file-system
call is one step of the chain that makes it; the chains of any number of processes
interleave, and a process can stop for good between any two steps.

Correspondence (shields/transition-lock.ts ↔ Lean): `tryCreate` is the `create` points,
`staleRecoveryInProgress` `progress`, `enterStaleRecoveryGuard` the `enter` callers,
`removeObservedStaleRecoveryGuard` `cleanup`, `removeHeldLockPath` `removeHeld`,
`removeStaleTransitionLockOwner` `recover`, `acquire` and `acquireAsync` the `acquire`
and `observe` points. A function that calls another waits on the `Stack` for what it
returns. A temporary or quarantined file is not seen by others and is no step of its
own. An open descriptor keeps its inode, so inode numbers are not reused.
-/
namespace NemoClaw.TransitionLock

open Js Runs LockFiles

/-! ## Owner records -/

/-- `ShieldsTransitionLockOwner`. -/
structure Owner where
  version : ℕ
  sandboxName : String
  pid : ℕ
  processStartIdentity : String
  command : String
  acquiredAtMs : ℚ
  takeoverToken : Option String
  deriving DecidableEq

def lockVersion : ℕ := 1
def maxOwnerBytes : ℕ := 16 * 1024
def defaultWaitTimeoutMs : ℕ := 30000
def defaultMalformedStaleMs : ℕ := 30000

/-- `TAKEOVER_TOKEN_PATTERN`. -/
def isTakeoverToken (token : String) : Bool := isLowerHexOf 32 token

def isUnverifiedSelfIdentity (identity : String) : Bool :=
  "unverified-self:".toList.isPrefixOf identity.toList

def sameOwnerRecord (left right : Owner) : Bool :=
  left.version == right.version && left.sandboxName == right.sandboxName &&
    left.pid == right.pid && left.processStartIdentity == right.processStartIdentity &&
    left.command == right.command && left.acquiredAtMs == right.acquiredAtMs &&
    left.takeoverToken == right.takeoverToken

/-- `JSON.stringify(owner)`, as the value it stands for. -/
def Owner.toJson (owner : Owner) : Json :=
  .obj ([("version", .ofNat owner.version), ("sandboxName", .str owner.sandboxName),
    ("pid", .ofNat owner.pid), ("processStartIdentity", .str owner.processStartIdentity),
    ("command", .str owner.command), ("acquiredAtMs", .num owner.acquiredAtMs)] ++
    optField "takeoverToken" (owner.takeoverToken.map .str))

def readNumber : Option Json → Option ℚ
  | some (.num q) => some q
  | _ => none

/-- The field `takeoverToken`: it may be missing, and must be a token if it is there. -/
def readTakeoverToken : Option Json → Option (Option String)
  | none => some none
  | some (.str token) => if isTakeoverToken token then some (some token) else none
  | some _ => none

/-- The record in a file's JSON value; `none` where the text is no such record. -/
def parseOwner (value : Json) (sandboxName : String) : Option Owner := do
  guard value.isObject
  let version ← readNat (value.get? "version")
  guard (version = lockVersion)
  let name ← readString (value.get? "sandboxName")
  guard (name = sandboxName)
  let pid ← readNat (value.get? "pid")
  guard (0 < pid)
  let processStartIdentity ← readNonEmpty (value.get? "processStartIdentity")
  let command ← readNonEmpty (value.get? "command")
  let acquiredAtMs ← readNumber (value.get? "acquiredAtMs")
  let takeoverToken ← readTakeoverToken (value.get? "takeoverToken")
  return ⟨version, name, pid, processStartIdentity, command, acquiredAtMs, takeoverToken⟩

structure LockText where
  json : Option Json
  bytes : ℕ
  mtimeMs : ℕ

/-- The owner that `readExistingLock` finds. -/
def LockText.owner (sandboxName : String) (text : LockText) : Option Owner :=
  if maxOwnerBytes < text.bytes then none
  else text.json.bind fun value => parseOwner value sandboxName

/-- What the outside answers during a step: the liveness and start identities, and the time. -/
structure Probe where
  processIsAlive : Bool
  processStartIdentity : Option String
  ownStartIdentity : Option String
  nowMs : ℕ

/-- How `staleRecoveryInProgress` judges the owner of a guard. -/
def guardIsStale (owner : Owner) (probe : Probe) : Bool :=
  if probe.processIsAlive = false then true
  else if isUnverifiedSelfIdentity owner.processStartIdentity then false
  else probe.processStartIdentity.any (· ≠ owner.processStartIdentity)

/-- `ShieldsTransitionTakeoverReason`. -/
inductive TakeoverReason where
  | removedDeadOwner
  | removedReusedPid
  | missing
  | ownerMismatch
  | ownerLive
  | ownerIdentityUnavailable
  | pathChanged
  | replacementPreserved
  deriving DecidableEq

/-- The `removed` that goes with the reason. -/
def TakeoverReason.removed : TakeoverReason → Bool
  | removedDeadOwner | removedReusedPid => true
  | _ => false

/-- How `removeStaleTransitionLockOwner` judges the owner of the lock. -/
def removalReason (owner : Owner) (probe : Probe) : TakeoverReason :=
  if probe.processIsAlive = false then .removedDeadOwner
  else match probe.processStartIdentity with
    | none => .ownerIdentityUnavailable
    | some current =>
      if current = "" then .ownerIdentityUnavailable
      else if isUnverifiedSelfIdentity owner.processStartIdentity then .ownerIdentityUnavailable
      else if current = owner.processStartIdentity then .ownerLive
      else .removedReusedPid

inductive WaitReason where
  | live
  | identityUnavailable
  | recentMalformed
  | staleMalformed
  | dead (owner : Owner)
  | pidReused (owner : Owner)

def observeWaitReason (sandboxName : String) (text : LockText) (malformedStaleMs : ℕ)
    (probe : Probe) : WaitReason :=
  match text.owner sandboxName with
  | none =>
    if malformedStaleMs ≤ probe.nowMs - text.mtimeMs then .staleMalformed else .recentMalformed
  | some owner =>
    if probe.processIsAlive = false then .dead owner
    else match probe.processStartIdentity with
      | none => .identityUnavailable
      | some current =>
        if current = "" then .identityUnavailable
        else if isUnverifiedSelfIdentity owner.processStartIdentity then .identityUnavailable
        else if current ≠ owner.processStartIdentity then .pidReused owner
        else .live

/-- `StaleOwnerRemovalExpectation`; `accepts` is its `matches`. -/
structure Expectation where
  expectedOwnerPid : ℕ
  expectedOwnerStartIdentity : String
  accepts : Owner → Bool

def observedExpectation (owner : Owner) : Expectation where
  expectedOwnerPid := owner.pid
  expectedOwnerStartIdentity := owner.processStartIdentity
  accepts := fun current => sameOwnerRecord current owner

/-- The expectation of `takeoverShieldsTransitionLock`. -/
def takeoverExpectation (pid : ℕ) (startIdentity token : String) : Expectation where
  expectedOwnerPid := pid
  expectedOwnerStartIdentity := startIdentity
  accepts := fun owner => owner.pid == pid && owner.processStartIdentity == startIdentity &&
    owner.takeoverToken == some token

def Expectation.matchesOwner (expect : Expectation) (owner : Owner) : Bool :=
  owner.pid == expect.expectedOwnerPid &&
    owner.processStartIdentity == expect.expectedOwnerStartIdentity && expect.accepts owner

/-! ## Chains -/

/-- A chain of calls within a process. -/
abbrev ChainId := ℕ
abbrev Proc := ℕ

/-- The processes that share the lock files of one sandbox. -/
structure Site where
  sandboxName : String
  proc : ChainId → Proc
  pid : Proc → ℕ
  ownerStartIdentityFallback : Proc → String
  /-- the length of an owner's record as it is written -/
  ownerBytes : Owner → ℕ

/-- `ShieldsTransitionLockOptions`. -/
structure Options where
  waitTimeoutMs : Option ℕ
  malformedStaleMs : Option ℕ
  takeoverToken : Option String
  recoverStaleOwner : Option Bool

/-- `AcquisitionState`, and whether stale owners are recovered. -/
structure Acquisition where
  owner : Owner
  startedAtMs : ℕ
  waitTimeoutMs : ℕ
  malformedStaleMs : ℕ
  recoverStaleOwner : Bool

def acquisitionState (site : Site) (p : Proc) (command : String) (options : Options)
    (probe : Probe) : Acquisition where
  owner :=
    { version := lockVersion
      sandboxName := site.sandboxName
      pid := site.pid p
      processStartIdentity := probe.ownStartIdentity.getD (site.ownerStartIdentityFallback p)
      command
      acquiredAtMs := probe.nowMs
      takeoverToken := options.takeoverToken }
  startedAtMs := probe.nowMs
  waitTimeoutMs := options.waitTimeoutMs.getD defaultWaitTimeoutMs
  malformedStaleMs := options.malformedStaleMs.getD defaultMalformedStaleMs
  recoverStaleOwner := options.recoverStaleOwner != some false

def staleRecoveryGuardOwner (site : Site) (p : Proc) (probe : Probe) : Owner where
  version := lockVersion
  sandboxName := site.sandboxName
  pid := site.pid p
  processStartIdentity := probe.ownStartIdentity.getD (site.ownerStartIdentityFallback p)
  command := "shields stale recovery"
  acquiredAtMs := probe.nowMs
  takeoverToken := none

/-- What a function returns: the handle of a lock at a level, or nothing; a boolean;
nothing; the outcome of a removal. -/
inductive Ret where
  | handle (level : ℕ)
  | bool
  | unit
  | removal

/-- A handle is the inode of the lock that was made. -/
def Ret.Value : Ret → Type
  | handle _ => Option ℕ
  | bool => Bool
  | unit => Unit
  | removal => TakeoverReason

/-- The callers that wait for a value. -/
inductive Stack : Ret → Type where
  | acquire (acq : Acquisition) : Stack (.handle 0)
  /-- `tryCreate`, for `staleRecoveryInProgress` -/
  | createProgress (level : ℕ) (owner : Owner) (k : Stack (.handle level)) : Stack .bool
  /-- `enterStaleRecoveryGuard`, for its first `tryCreate` -/
  | enterCreated (level : ℕ) (owner : Owner) (k : Stack (.handle (level + 1))) :
      Stack (.handle (level + 1))
  | enterProgress (level : ℕ) (owner : Owner) (k : Stack (.handle (level + 1))) : Stack .bool
  /-- `staleRecoveryInProgress`, for the removal of the guard it found stale -/
  | progressRemoved (level : ℕ) (k : Stack .bool) : Stack .bool
  | cleanupEntered (level seen : ℕ) (k : Stack .bool) : Stack (.handle (level + 1))
  /-- the guard is given up; then the answer is returned, or an error thrown again -/
  | cleanupReleased (answer : Option Bool) (k : Stack .bool) : Stack .unit
  | recoverEntered (expect : Expectation) (seen : ℕ) (reason : TakeoverReason)
      (k : Stack .removal) : Stack (.handle 1)
  | recoverReleased (answer : Option TakeoverReason) (k : Stack .removal) : Stack .unit
  | acquireRecovered (acq : Acquisition) : Stack .removal
  | takeover : Stack .removal
  | released : Stack .unit

/-- The stale guard at `level` that was seen, and the guard that is held over it. -/
structure Cleanup where
  level : ℕ
  seen : ℕ
  guard : ℕ

inductive CleanupPoint where
  | assertHeld
  | readOpen
  | readLstat (fd : ℕ)
  | assertHeldAgain
  | rename
  | moved (ino : ℕ)
  | restore (ino : ℕ)

/-- The stale lock that was seen, and the guard that is held over it. -/
structure Recovery where
  expect : Expectation
  seen : ℕ
  reason : TakeoverReason
  guard : ℕ

inductive RecoverPoint where
  | assertHeld
  | identity
  | link
  | linked (ino : ℕ)
  | identityAgain
  | assertHeldAgain
  | unlink
  | unlinked

inductive RemoveHeldPoint where
  | rename
  | moved (ino : ℕ)
  | restore (ino : ℕ)

inductive Chain where
  | idle
  | acquireLoop (acq : Acquisition) (retrying : Bool)
  | acquireSleep (acq : Acquisition)
  | observeOpen (acq : Acquisition)
  | observeLstat (acq : Acquisition) (fd : ℕ)
  | observeJudge (acq : Acquisition) (seen : ℕ)
  /-- `acquire` has returned -/
  | acquired (acq : Acquisition) (ino : ℕ)
  | holding (owner : Owner) (ino depth : ℕ)
  | createLstat (level : ℕ) (owner : Owner) (k : Stack (.handle level))
  | createLink (level : ℕ) (owner : Owner) (k : Stack (.handle level))
  | progressOpen (level : ℕ) (k : Stack .bool)
  | progressLstat (level fd : ℕ) (k : Stack .bool)
  | progressJudge (level seen : ℕ) (k : Stack .bool)
  | progressRecheck (level : ℕ) (k : Stack .bool)
  | cleanup (point : CleanupPoint) (c : Cleanup) (k : Stack .bool)
  | removeHeld (point : RemoveHeldPoint) (level held : ℕ) (k : Stack .unit)
  | recoverOpen (expect : Expectation) (k : Stack .removal)
  | recoverLstat (expect : Expectation) (fd : ℕ) (k : Stack .removal)
  | recoverJudge (expect : Expectation) (seen : ℕ) (k : Stack .removal)
  | recover (point : RecoverPoint) (r : Recovery) (k : Stack .removal)

/-- The value goes to the caller, and on to its caller where it returns it. -/
def resume : {r : Ret} → Stack r → r.Value → Chain
  | _, .acquire acq, some ino => .acquired acq ino
  | _, .acquire acq, none => .observeOpen acq
  | _, .createProgress _ _ k, true => resume k none
  | _, .createProgress level owner k, false => .createLink level owner k
  | _, .enterCreated _ _ k, some ino => resume k (some ino)
  | _, .enterCreated level owner k, none => .progressOpen level (.enterProgress level owner k)
  | _, .enterProgress _ _ k, true => resume k none
  | _, .enterProgress level owner k, false => .createLstat (level + 1) owner k
  | _, .progressRemoved _ k, false => resume k true
  | _, .progressRemoved level k, true => .progressRecheck level k
  | _, .cleanupEntered _ _ k, none => resume k false
  | _, .cleanupEntered level seen k, some guard => .cleanup .assertHeld ⟨level, seen, guard⟩ k
  | _, .cleanupReleased (some answer) k, _ => resume k answer
  | _, .cleanupReleased none _, _ => .idle
  | _, .recoverEntered _ _ _ k, none => resume k .pathChanged
  | _, .recoverEntered expect seen reason k, some guard =>
    .recover .assertHeld ⟨expect, seen, reason, guard⟩ k
  | _, .recoverReleased (some answer) k, _ => resume k answer
  | _, .recoverReleased none _, _ => .idle
  | _, .acquireRecovered acq, reason =>
    match (reason : TakeoverReason) with
    | .removedDeadOwner | .removedReusedPid | .missing | .ownerMismatch | .pathChanged =>
      .acquireLoop acq true
    | .replacementPreserved => .idle
    | .ownerLive | .ownerIdentityUnavailable => .acquireSleep acq
  | _, .takeover, _ => .idle
  | _, .released, _ => .idle

/-! ## Steps -/

/-- The lock files by level, the processes that have stopped, and for each process the
inode of the lock it has recorded as held. -/
structure Shared where
  files : Files ℕ ChainId LockText
  crashed : Proc → Bool
  held : Proc → Option ℕ

variable (site : Site)

/-- The owner that a reader of the inode finds. -/
def Shared.ownerAt (s : Shared) (ino : ℕ) : Option Owner :=
  s.files.inodes[ino]?.bind fun inode => inode.content.owner site.sandboxName

def Shared.Live (s : Shared) (a : ChainId) : Prop := s.crashed (site.proc a) = false

/-- The guard is released, and then the answer goes to the caller. -/
def Cleanup.finish (c : Cleanup) (k : Stack .bool) (answer : Option Bool) : Chain :=
  .removeHeld .rename (c.level + 1) c.guard (.cleanupReleased answer k)

def CleanupPoint.advance (s : Shared) (c : Cleanup) (k : Stack .bool) :
    CleanupPoint → Shared × Chain
  | assertHeld =>
    if s.files.linked (c.level + 1) = some c.guard then (s, .cleanup .readOpen c k)
    else (s, c.finish k none)
  | readOpen =>
    match s.files.linked c.level with
    | none => (s, c.finish k (some true))
    | some fd => (s, .cleanup (.readLstat fd) c k)
  | readLstat fd =>
    if s.files.linked c.level = some fd then
      match s.ownerAt site fd, s.ownerAt site c.seen with
      | some current, some owner =>
        if fd = c.seen ∧ sameOwnerRecord current owner then (s, .cleanup .assertHeldAgain c k)
        else (s, c.finish k (some false))
      | _, _ => (s, c.finish k (some false))
    -- gone or replaced since it was opened: there is nothing to read
    else (s, c.finish k (some true))
  | assertHeldAgain =>
    if s.files.linked (c.level + 1) = some c.guard then (s, .cleanup .rename c k)
    else (s, c.finish k none)
  | rename =>
    match s.files.linked c.level with
    | none => (s, c.finish k (some true))
    | some ino => ({ s with files := s.files.unlink c.level }, .cleanup (.moved ino) c k)
  | moved ino =>
    match s.ownerAt site ino, s.ownerAt site c.seen with
    | some current, some owner =>
      if ino = c.seen ∧ sameOwnerRecord current owner then (s, c.finish k (some true))
      else (s, .cleanup (.restore ino) c k)
    | _, _ => (s, .cleanup (.restore ino) c k)
  | restore ino =>
    if s.files.linked c.level = none then
      ({ s with files := s.files.relink c.level ino }, c.finish k (some false))
    else (s, c.finish k (some false))

def RemoveHeldPoint.advance (s : Shared) (level held : ℕ) (k : Stack .unit) :
    RemoveHeldPoint → Shared × Chain
  | rename =>
    match s.files.linked level with
    | none => (s, resume k ())
    | some ino => ({ s with files := s.files.unlink level }, .removeHeld (.moved ino) level held k)
  | moved ino =>
    if ino = held then (s, resume k ()) else (s, .removeHeld (.restore ino) level held k)
  | restore ino =>
    if s.files.linked level = none then
      ({ s with files := s.files.relink level ino }, resume k ())
    else (s, resume k ())

def Recovery.finish (r : Recovery) (k : Stack .removal) (answer : Option TakeoverReason) : Chain :=
  .removeHeld .rename 1 r.guard (.recoverReleased answer k)

def RecoverPoint.advance (s : Shared) (r : Recovery) (k : Stack .removal) :
    RecoverPoint → Shared × Chain
  | assertHeld =>
    if s.files.linked 1 = some r.guard then (s, .recover .identity r k)
    else (s, r.finish k none)
  | identity =>
    if s.files.linked 0 = some r.seen then (s, .recover .link r k)
    else (s, r.finish k (some .pathChanged))
  | link =>
    match s.files.linked 0 with
    | none => (s, r.finish k (some .pathChanged))
    | some ino => (s, .recover (.linked ino) r k)
  | linked ino =>
    if ino = r.seen ∧ (s.ownerAt site ino).any r.expect.accepts then
      (s, .recover .identityAgain r k)
    else (s, r.finish k (some .pathChanged))
  | identityAgain =>
    if s.files.linked 0 = some r.seen then (s, .recover .assertHeldAgain r k)
    else (s, r.finish k (some .pathChanged))
  | assertHeldAgain =>
    if s.files.linked 1 = some r.guard then (s, .recover .unlink r k)
    else (s, r.finish k none)
  | unlink =>
    if s.files.linked 0 = none then (s, r.finish k (some .pathChanged))
    else ({ s with files := s.files.unlink 0 }, .recover .unlinked r k)
  | unlinked => (s, r.finish k (some r.reason))

/-- The start of `enterStaleRecoveryGuard`. -/
def enterStaleRecoveryGuard (a : ChainId) (probe : Probe) (level : ℕ)
    (k : Stack (.handle (level + 1))) : Chain :=
  let owner := staleRecoveryGuardOwner site (site.proc a) probe
  .createLstat (level + 1) owner (.enterCreated level owner k)

def advance (a : ChainId) (probe : Probe) (s : Shared) : Chain → Option (Shared × Chain)
  | .idle | .holding _ _ _ => none
  | .acquireLoop acq retrying =>
    if retrying ∧ acq.waitTimeoutMs ≤ probe.nowMs - acq.startedAtMs then some (s, .idle)
    else if (s.held (site.proc a)).isSome then some (s, .acquireSleep acq)
    else some (s, .createLstat 0 acq.owner (.acquire acq))
  | .acquireSleep acq =>
    if acq.waitTimeoutMs ≤ probe.nowMs - acq.startedAtMs then some (s, .idle)
    else some (s, .acquireLoop acq true)
  | .observeOpen acq =>
    match s.files.linked 0 with
    | none => some (s, .acquireLoop acq true)
    | some fd => some (s, .observeLstat acq fd)
  | .observeLstat acq fd =>
    if s.files.linked 0 = some fd then some (s, .observeJudge acq fd)
    else some (s, .acquireLoop acq true)
  | .observeJudge acq seen =>
    s.files.inodes[seen]?.map fun inode =>
      match observeWaitReason site.sandboxName inode.content acq.malformedStaleMs probe with
      | .dead owner | .pidReused owner =>
        if acq.recoverStaleOwner then
          (s, .recoverOpen (observedExpectation owner) (.acquireRecovered acq))
        else (s, .acquireSleep acq)
      | .staleMalformed => (s, .idle)
      | .live | .identityUnavailable | .recentMalformed => (s, .acquireSleep acq)
  | .acquired acq ino =>
    some ({ s with held := Function.update s.held (site.proc a) (some ino) },
      .holding acq.owner ino 1)
  | .createLstat level owner k =>
    if (s.files.linked level).isSome then some (s, resume k none)
    else some (s, .progressOpen level (.createProgress level owner k))
  | .createLink level owner k =>
    if (s.files.linked level).isSome then some (s, resume k none)
    else
      let text : LockText := ⟨some owner.toJson, site.ownerBytes owner, probe.nowMs⟩
      some ({ s with files := s.files.publish level a text },
        resume k (some s.files.inodes.length))
  | .progressOpen level k =>
    match s.files.linked (level + 1) with
    | none => some (s, resume k false)
    | some fd => some (s, .progressLstat level fd k)
  | .progressLstat level fd k =>
    if s.files.linked (level + 1) = some fd then some (s, .progressJudge level fd k)
    else some (s, resume k false)
  | .progressJudge level seen k =>
    match s.ownerAt site seen with
    | none => some (s, resume k true)
    | some owner =>
      if guardIsStale owner probe then
        some (s, enterStaleRecoveryGuard site a probe (level + 1)
          (.cleanupEntered (level + 1) seen (.progressRemoved level k)))
      else some (s, resume k true)
  | .progressRecheck level k => some (s, resume k (s.files.linked (level + 1)).isSome)
  | .cleanup point c k => some (point.advance site s c k)
  | .removeHeld point level held k => some (point.advance s level held k)
  | .recoverOpen expect k =>
    match s.files.linked 0 with
    | none => some (s, resume k .missing)
    | some fd => some (s, .recoverLstat expect fd k)
  | .recoverLstat expect fd k =>
    if s.files.linked 0 = some fd then some (s, .recoverJudge expect fd k)
    else some (s, resume k .missing)
  | .recoverJudge expect seen k =>
    match s.ownerAt site seen with
    | none => some (s, resume k .ownerMismatch)
    | some owner =>
      if expect.matchesOwner owner = false then some (s, resume k .ownerMismatch)
      else if (removalReason owner probe).removed then
        some (s, enterStaleRecoveryGuard site a probe 0
          (.recoverEntered expect seen (removalReason owner probe) k))
      else some (s, resume k (removalReason owner probe))
  | .recover point r k => some (point.advance site s r k)

/-- Where a chain goes if its next instruction throws: it releases the guard it holds. -/
def abort : Chain → Option Chain
  | .idle | .holding _ _ _ | .acquired _ _ => none
  | .cleanup _ c k => some (c.finish k none)
  | .recover _ r k => some (r.finish k none)
  | _ => some .idle

/-- `release`: a lock that the process has recorded is removed with its last call. -/
def releaseHeld (a : ChainId) (s : Shared) (owner : Owner) (ino depth : ℕ) : Shared × Chain :=
  if s.held (site.proc a) ≠ some ino then (s, .idle)
  else if 0 < depth - 1 then (s, .holding owner ino (depth - 1))
  else ({ s with held := Function.update s.held (site.proc a) none },
    .removeHeld .rename 0 ino .released)

/-- A call from inside asks for the same token and finds the lock where it was put. -/
def reenterHeld (s : Shared) (owner : Owner) (ino depth : ℕ) (token : Option String) : Chain :=
  if token.isSome ∧ token ≠ owner.takeoverToken then .holding owner ino depth
  else if s.files.linked 0 = some ino then .holding owner ino (depth + 1)
  else .holding owner ino depth

/-- What a chain can do. -/
inductive Act where
  | withLock (command : String) (options : Options) (probe : Probe)
  | takeover (pid : ℕ) (startIdentity token : String)
  /-- a call of `withLock` from inside -/
  | reenter (token : Option String)
  /-- a call of `withLock` returns -/
  | release
  /-- the next instruction -/
  | go (probe : Probe)
  /-- the next instruction throws -/
  | fail

def Act.perform (a : ChainId) (s : Shared) (l : Chain) : Act → Option (Shared × Chain)
  | withLock command options probe =>
    match l with
    | .idle =>
      if jsTrim command = "" ∨
          options.takeoverToken.any (fun token => !isTakeoverToken token) then some (s, .idle)
      else some (s, .acquireLoop (acquisitionState site (site.proc a) command options probe) false)
    | _ => none
  | takeover pid startIdentity token =>
    match l with
    | .idle =>
      if pid = 0 ∨ startIdentity = "" ∨ isTakeoverToken token = false then some (s, .idle)
      else some (s, .recoverOpen (takeoverExpectation pid startIdentity token) .takeover)
    | _ => none
  | reenter token =>
    match l with
    | .holding owner ino depth => some (s, reenterHeld s owner ino depth token)
    | _ => none
  | release =>
    match l with
    | .holding owner ino depth => some (releaseHeld site a s owner ino depth)
    | _ => none
  | go probe => advance site a probe s l
  | fail => (abort l).map fun next => (s, next)

structure World where
  shared : Shared
  chains : ChainId → Chain

inductive Action where
  | act (a : ChainId) (what : Act)
  | crash (p : Proc)

/-- A chain of a process that has not stopped does something, or a process stops. -/
def World.step (w : World) : Action → Option World
  | .act a what =>
    if w.shared.crashed (site.proc a) then none
    else (what.perform site a w.shared (w.chains a)).map fun next =>
      { shared := next.1, chains := Function.update w.chains a next.2 }
  | .crash p =>
    some { w with shared := { w.shared with
      crashed := Function.update w.shared.crashed p true } }

/-- The chain is between a successful acquisition and its release, and its process has
not stopped. -/
def World.Holds (w : World) (a : ChainId) : Prop :=
  w.shared.Live site a ∧
    ((∃ acq ino, w.chains a = .acquired acq ino) ∨
      ∃ owner ino depth, w.chains a = .holding owner ino depth)

/-- The inode whose owner the next instruction classifies stale. -/
def Chain.judgesStale (s : Shared) (probe : Probe) : Chain → Option ℕ
  | progressJudge _ seen _ =>
    if (s.ownerAt site seen).any (guardIsStale · probe) then some seen else none
  | recoverJudge _ seen _ =>
    if (s.ownerAt site seen).any (fun owner => (removalReason owner probe).removed) then some seen
    else none
  | _ => none

def LiveNeverStale (w : World) : Action → Prop
  | .act a (.go probe) => ∀ seen ∈ (w.chains a).judgesStale site w.shared probe,
      ∀ inode ∈ w.shared.files.inodes[seen]?, ¬ w.shared.Live site inode.maker
  | _ => True

instance (s : Shared) (a : ChainId) : Decidable (s.Live site a) :=
  inferInstanceAs (Decidable (_ = _))

instance (w : World) : (a : Action) → Decidable (LiveNeverStale site w a)
  | .act a (.go probe) =>
    inferInstanceAs (Decidable (∀ seen ∈ (w.chains a).judgesStale site w.shared probe,
      ∀ inode ∈ w.shared.files.inodes[seen]?, ¬ w.shared.Live site inode.maker))
  | .act _ (.withLock ..) | .act _ (.takeover ..) | .act _ (.reenter _) | .act _ .release
  | .act _ .fail | .crash _ => isTrue trivial

end NemoClaw.TransitionLock
