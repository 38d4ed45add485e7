import NemoClaw.Js.Json
import NemoClaw.Js.Text
import NemoClaw.Lib.Runs
import NemoClaw.Lib.LockFiles

/- The MCP lifecycle lock of one sandbox.

Four files say who may change the sandbox: the main lock; `.reaper`, which a waiter
takes to remove a main lock whose owner is gone; `.deadline`, which the auto-restore
timer takes to close the gate for everyone else; and `.containment`, which is left in
place where it cannot be shown that nothing of a former owner survives. Each file is
linked into place complete. A file is removed by renaming it away, looking at what was
renamed, and putting it back if it is not the generation that was meant. Each
file-system call is one step of the chain that makes it; the chains of any number of
processes interleave, and a process can stop for good between any two steps.

Correspondence (state/mcp-lifecycle-lock-acquisition.ts, -storage.ts and -identity.ts
↔ Lean): `acquireMcpLifecycleLock` is the `acquire` and `post` points,
`tryReapStaleMainLock` `reap` and `reapHeld`,
`ensureDurableContainmentForStaleGenerationSync` and
`beginCommittedContainmentAtPathSync` `contain`, `writeMcpLifecycleLockCandidateAndLink`
`link` and `reconcile`, `reclaimStaleMcpLifecycleLockGeneration` `rename`, `claimed` and
`restore`, `safelyReleaseMcpLifecycleLock` `release`, `acquireDeadlineFence` `fence`,
`publishDeadlineMainOwner` and `clearDeadlineProtectedPath` `publish`. The variables that
hold the tokens of the chain's own files are `Chain.mine`. What the timer marker says is
an answer of the outside. Reports of a closed gate are left out, and so is how long a
chain sleeps.
-/
namespace NemoClaw.LifecycleLock

open Js Runs LockFiles

/-! ## Owner records -/

/-- `McpLifecycleLockOwner`. -/
structure Owner where
  version : ℕ
  sandboxName : String
  pid : ℕ
  processIdentity : Option String
  hostIdentity : Option String
  pidNamespaceIdentity : Option String
  shieldsTakeoverToken : Option String
  token : String
  acquiredAt : String
  deriving DecidableEq

/-- The version of the lock's record. -/
def lockSchemaVersion : ℕ := 1
/-- How long a caller waits for the lock. -/
def defaultTimeoutMs : ℕ := 30 * 60000
/-- How long a lock without a readable owner is left alone. -/
def defaultCorruptLockGraceMs : ℕ := 30000

/-- `JSON.stringify(owner)`, as the value it stands for. -/
def Owner.toJson (owner : Owner) : Json :=
  .obj ([("version", .ofNat owner.version), ("sandboxName", .str owner.sandboxName),
    ("pid", .ofNat owner.pid), ("processIdentity", Json.ofString? owner.processIdentity),
    ("hostIdentity", Json.ofString? owner.hostIdentity),
    ("pidNamespaceIdentity", Json.ofString? owner.pidNamespaceIdentity)] ++
    optField "shieldsTakeoverToken" (owner.shieldsTakeoverToken.map .str) ++
    [("token", .str owner.token), ("acquiredAt", .str owner.acquiredAt)])

/-- A string or `null`; what is neither has no reading. -/
def readNullable : Option Json → Option (Option String)
  | some .null => some none
  | some (.str s) => some (some s)
  | _ => none

/-- A field that is missing, null or a string. -/
def readOptional : Option Json → Option (Option String)
  | none => some none
  | v => readNullable v

/-- An absent token, or one that is well formed. -/
def readTakeoverToken : Option Json → Option (Option String)
  | none => some none
  | some (.str token) => if isLowerHexOf 32 token then some (some token) else none
  | some _ => none

/-- The record that `isMcpLifecycleLockOwner` accepts. -/
def parseOwner (value : Json) : Option Owner := do
  guard value.isObject
  let version ← readNat (value.get? "version")
  guard (version = lockSchemaVersion)
  let sandboxName ← readString (value.get? "sandboxName")
  let pid ← readSafeNat (value.get? "pid")
  guard (0 < pid)
  let processIdentity ← readNullable (value.get? "processIdentity")
  let hostIdentity ← readOptional (value.get? "hostIdentity")
  let pidNamespaceIdentity ← readOptional (value.get? "pidNamespaceIdentity")
  let shieldsTakeoverToken ← readTakeoverToken (value.get? "shieldsTakeoverToken")
  let token ← readNonEmpty (value.get? "token")
  let acquiredAt ← readString (value.get? "acquiredAt")
  return ⟨version, sandboxName, pid, processIdentity, hostIdentity, pidNamespaceIdentity,
    shieldsTakeoverToken, token, acquiredAt⟩

/-- What stands at a lock's path. -/
inductive FileKind where
  | regular
  | directory
  | other
  deriving DecidableEq

/-- The file at a lock's path: what it says, and when it was written. -/
structure LockText where
  json : Option Json
  kind : FileKind
  mtimeMs : ℕ

/-- The owner that the file names. -/
def LockText.owner (text : LockText) : Option Owner :=
  if text.kind = .regular then text.json.bind parseOwner else none

/-- A directory cannot be put back with a hard link. -/
def LockText.reclaimable (text : LockText) : Bool := text.kind != .directory

/-- What a waiting caller makes of a lock. -/
inductive Disposition where
  | active
  | stale
  | wait
  deriving DecidableEq

/-- What the outside answers during a step: the liveness of the owner that is judged and
its process identity, read from the cache and afresh; the process's own identity; the
monotonic clock; what the shields timer's marker says; and whether the reply to a link
that was made is lost. -/
structure Probe where
  processIsAlive : Bool
  processIdentity : Option String
  refreshedIdentity : Option String
  ownIdentity : Option String
  now : ℕ
  takeoverToken : Option String
  timerExpired : Bool
  replyLost : Bool
  acquiredAt : String
  mtimeMs : ℕ

/-- `probes.localHostIdentity` and `probes.localPidNamespaceIdentity`. -/
structure Host where
  hostIdentity : String
  pidNamespaceIdentity : Option String

/-- The owner runs on another host or in another process namespace. -/
def Host.isForeign (host : Host) (owner : Owner) : Bool :=
  owner.hostIdentity != some host.hostIdentity || host.hostIdentity == "" ||
    (host.pidNamespaceIdentity.isSome && owner.pidNamespaceIdentity.all (· == "")) ||
    (owner.pidNamespaceIdentity.isSome && owner.pidNamespaceIdentity != host.pidNamespaceIdentity)

/-- A lock with an owner is judged by its process, one without by its age. -/
def classifyMcpLifecycleLock (text : LockText) (sandboxName : String)
    (nowMs corruptLockGraceMs : ℕ) (host : Host) (probe : Probe) : Disposition :=
  match text.owner.filter (·.sandboxName = sandboxName) with
  | none =>
    if text.reclaimable ∧ corruptLockGraceMs ≤ nowMs - text.mtimeMs then .stale else .wait
  | some owner =>
    if host.isForeign owner then .active
    else if probe.processIsAlive = false then .stale
    else match owner.processIdentity, probe.processIdentity, probe.refreshedIdentity with
      | some recorded, some observed, some refreshed =>
        -- a mismatch is read again without the cache
        if recorded ≠ observed ∧ recorded ≠ refreshed then .stale else .active
      | _, _, _ => .active

/-- `CorruptGenerationTracker`: the inode and the time it was written. -/
structure Tracker where
  generation : Option (ℕ × ℕ)
  firstSeenAt : ℕ
  deriving DecidableEq

/-- Nothing has been observed yet. -/
def Tracker.reset : Tracker := ⟨none, 0⟩

/-- A lock without an owner becomes stale only after it is seen unchanged for the time of
grace. -/
def classifyObservedMcpLifecycleLock (ino : ℕ) (text : LockText) (sandboxName : String)
    (corruptLockGraceMs : ℕ) (tracker : Tracker) (host : Host) (probe : Probe) :
    Disposition × Tracker :=
  if (text.owner.all (·.sandboxName ≠ sandboxName)) ∧ text.reclaimable then
    if tracker.generation ≠ some (ino, text.mtimeMs) then
      (.wait, ⟨some (ino, text.mtimeMs), probe.now⟩)
    else if corruptLockGraceMs ≤ probe.now - tracker.firstSeenAt then (.stale, tracker)
    else (.wait, tracker)
  else if text.owner.isNone then (.wait, .reset)
  else (classifyMcpLifecycleLock text sandboxName text.mtimeMs corruptLockGraceMs host probe,
    .reset)

/-! ## Chains -/

abbrev ChainId := ℕ
abbrev Proc := ℕ

/-- The four files of the protocol. -/
inductive Name where
  | main
  | reaper
  | deadline
  | containment
  deriving DecidableEq

/-- The processes that share the lock files of one sandbox. -/
structure Site where
  sandboxName : String
  proc : ChainId → Proc
  pid : Proc → ℕ
  host : Proc → Host
  /-- the random token in the file with that inode -/
  token : ℕ → String

/-- A call of `acquireMcpLifecycleLock`. -/
structure Acquisition where
  deadline : ℕ
  corruptLockGraceMs : ℕ
  mainTracker : Tracker
  reaperTracker : Tracker
  deadlineTracker : Tracker

/-- A call of `withMcpLifecycleDeadlineFence` or of its synchronous twin. -/
structure Fence where
  takeoverToken : String
  corruptLockGraceMs : ℕ
  throwOnCommittedContainment : Bool
  synchronous : Bool
  fenceTracker : Tracker
  clearTracker : Tracker

/-- What is thrown: a coded containment failure may say that the owned files stay. -/
inductive Failure where
  | plain
  | reentrant
  | durable (retainOwnedLifecycleGates : Bool)
  deriving DecidableEq

/-- Where a caller is that waits for the lock. -/
inductive AcquirePoint where
  | containmentRead
  | deadlineRead
  | deadlineJudge (seen : ℕ)
  | reaperRead
  | reaperJudge (seen : ℕ)
  | expired
  | deadlineExists
  | reaperExists
  | publishOwner
  | mainRead
  | mainJudge (seen : ℕ)

/-- The checks between publication and entry. -/
inductive PostPoint where
  | containment
  | deadline
  | reaper
  | timer

/-- Where it is before it takes the reaper's lock. -/
inductive ReapPoint where
  | containment
  | deadline

/-- With the reaper file in hand. -/
inductive ReapHeldPoint where
  | containment
  | deadline
  | readMain
  | judge (seen : ℕ)

/-- Where it is while it commits a containment. -/
inductive ContainPoint where
  | present
  | authority
  | commit
  | rollback
  | caught (failure : Failure)

/-- Where a deadline restore is that fences the others out. -/
inductive FencePoint where
  | token
  | containment
  | tokenAgain
  | read
  | judge (seen : ℕ)

/-- What the fence waits for before it publishes. -/
inductive Target where
  | reaper
  | main
  deriving DecidableEq

/-- The file that is to be cleared. -/
def Target.name : Target → Name
  | reaper => .reaper
  | main => .main

/-- Where a fence is that clears the other locks. -/
inductive PublishPoint where
  | start
  | clearToken (target : Target)
  | clearRead (target : Target)
  | clearJudge (target : Target) (seen : ℕ)
  | clearConfirm (target : Target) (seen : ℕ)
  | link
  | caught (failure : Failure)
  | wait

/-- Who waits for durable containment. -/
inductive After where
  | acquire (acq : Acquisition)
  | reap (acq : Acquisition)
  | fence (f : Fence)
  | publish (f : Fence)

/-- What a caller goes on with after a release. -/
inductive Released where
  | acquire (acq : Acquisition)
  | reaped (acq : Acquisition)
  | thrown
  | done
  | fence

/-- What a file is linked for. -/
inductive Purpose where
  | main (acq : Acquisition) (takeoverToken : Option String)
  | reaper (acq : Acquisition) (takeoverToken : Option String)
  | containment (after : After)
  | deadline (f : Fence)
  | fenceMain (f : Fence)

/-- What a file is renamed away for, and the generation that is meant. -/
inductive Removal where
  | release (name : Name) (seen : ℕ) (k : Released)
  | reap (acq : Acquisition) (seen : ℕ)
  | rollback (seen : ℕ) (after : After)

/-- Where a chain is. -/
inductive Point where
  | idle
  | acquire (point : AcquirePoint) (acq : Acquisition)
  | post (point : PostPoint) (acq : Acquisition) (takeoverToken : Option String)
  | inside (takeoverToken : Option String)
  /-- the operation has failed; does the lock stay? -/
  | retainCheck
  | retained
  | reap (point : ReapPoint) (acq : Acquisition)
  | reapHeld (point : ReapHeldPoint) (acq : Acquisition) (takeoverToken : Option String)
  | contain (point : ContainPoint) (after : After)
  | link (purpose : Purpose)
  | reconcile (purpose : Purpose)
  | rename (removal : Removal)
  | claimed (removal : Removal) (ino : ℕ)
  | restore (removal : Removal) (ino : ℕ) (threw : Bool)
  | release (name : Name) (k : Released)
  | fence (point : FencePoint) (f : Fence)
  | publish (point : PublishPoint) (f : Fence)
  | fenceInside (f : Fence)
  | fenceRetainCheck (published : Bool)
  | fenceRetained

/-- A chain: the inodes of its own files by name, and where it is. -/
structure Chain where
  mine : Name → Option ℕ
  point : Point

/-! ## Where a chain goes next -/

/-- The time of the acquisition is up. -/
def Acquisition.past (acq : Acquisition) (probe : Probe) : Bool := acq.deadline ≤ probe.now

/-- Where it goes on. -/
def Released.next : Released → Point
  | acquire acq => .acquire .mainRead acq
  | reaped acq => .acquire .containmentRead acq
  | thrown | done => .idle
  | fence => .release .deadline .done

/-- Where the caller is when the containment returns. -/
def After.returned : After → Point
  | acquire acq => .acquire .containmentRead acq
  | reap acq => .release .reaper (.reaped acq)
  | fence f => .fence .token f
  | publish f => .publish (.caught (.durable false)) f

/-- Where it is when the containment throws. -/
def After.thrown (failure : Failure) : After → Point
  | acquire _ | fence _ => .idle
  | reap _ => .release .reaper .thrown
  | publish f => .publish (.caught failure) f

/-- `assertAuthority`: the acquisition has not run out of time. -/
def After.authorized (probe : Probe) : After → Bool
  | acquire acq | reap acq => !acq.past probe
  | fence _ | publish _ => true

/-- The file that a link makes. -/
def Purpose.name : Purpose → Name
  | main _ _ | fenceMain _ => .main
  | reaper _ _ => .reaper
  | containment _ => .containment
  | deadline _ => .deadline

/-- The takeover token that its record has. -/
def Purpose.recorded (probe : Probe) : Purpose → Option String
  | main _ token | reaper _ token => token
  | containment _ => probe.takeoverToken
  | deadline f | fenceMain f => some f.takeoverToken

/-- Where the caller is with the link made. -/
def Purpose.linked : Purpose → Point
  | main acq token => .post .containment acq token
  | reaper acq token => .reapHeld .containment acq token
  | containment after => .contain .commit after
  | deadline f => .fence .tokenAgain f
  | fenceMain f => .fenceInside f

/-- Where it is when the name was taken. -/
def Purpose.taken : Purpose → Point
  | main acq _ => .acquire .mainRead acq
  | reaper acq _ => .acquire .containmentRead acq
  | containment after => .contain (.caught .plain) after
  | deadline f => .fence .read f
  | fenceMain f => .publish .start f

/-- The file that a removal is about. -/
def Removal.name : Removal → Name
  | release name _ _ => name
  | reap _ _ => .main
  | rollback _ _ => .containment

/-- The file that was there when the removal was decided. -/
def Removal.seen : Removal → ℕ
  | release _ seen _ | reap _ seen | rollback seen _ => seen

/-- `assertAfterClaim`, which only a reaper passes. -/
def Removal.asserts (probe : Probe) : Removal → Bool
  | reap acq _ => !acq.past probe
  | release _ _ _ | rollback _ _ => true

/-- Where the caller is after the removal. -/
def Removal.done (claimed : Bool) : Removal → Point
  | release _ _ k => k.next
  | reap acq _ => .release .reaper (.reaped acq)
  | rollback _ after => .contain (.caught (if claimed then .plain else .durable true)) after

/-- Where it is when the removal throws. -/
def Removal.thrown : Removal → Point
  | reap _ _ => .release .reaper .thrown
  | release _ _ _ => .idle
  | rollback _ after => .contain (.caught (.durable true)) after

/-- What all processes share: the files, and which of them have crashed. -/
structure Shared where
  files : Files Name ChainId LockText
  crashed : Proc → Bool

variable (site : Site)

/-- What is in the file with that inode. -/
def Shared.textAt (s : Shared) (ino : ℕ) : LockText :=
  ((s.files.inodes[ino]?).map (·.content)).getD ⟨none, .regular, 0⟩

/-- The owner that a file names. -/
def Shared.ownerAt (s : Shared) (ino : ℕ) : Option Owner := (s.textAt ino).owner

/-- The process of the chain has not crashed. -/
def Shared.Live (s : Shared) (a : ChainId) : Prop := s.crashed (site.proc a) = false

/-- There is a file under the name. -/
def Shared.isAt (s : Shared) (name : Name) : Bool := (s.files.linked name).isSome

/-- What a chain makes of a file, as its host sees it. -/
def judge (a : ChainId) (probe : Probe) (s : Shared) (seen grace : ℕ) (tracker : Tracker) :
    Disposition × Tracker :=
  classifyObservedMcpLifecycleLock seen (s.textAt seen) site.sandboxName grace tracker
    (site.host (site.proc a)) probe

/-- The file names an owner for this sandbox. -/
def isValidMainOwnerForSandbox (s : Shared) (seen : ℕ) : Bool :=
  (s.ownerAt seen).any (·.sandboxName = site.sandboxName)

/-- Durable containment, unless the acquisition has run out of time. -/
def containUnlessPast (acq : Acquisition) (probe : Probe) : Point :=
  if acq.past probe then .idle else .contain .present (.acquire acq)

/-- One look of a caller that waits. -/
def AcquirePoint.next (a : ChainId) (probe : Probe) (s : Shared) (acq : Acquisition) :
    AcquirePoint → Point
  | containmentRead =>
    if s.isAt .containment then .idle
    else if acq.past probe then .idle
    else .acquire .deadlineRead acq
  | deadlineRead =>
    match s.files.linked .deadline with
    | none => .acquire .reaperRead { acq with deadlineTracker := .reset }
    | some seen => .acquire (.deadlineJudge seen) acq
  | deadlineJudge seen =>
    let (disposition, tracker) :=
      judge site a probe s seen acq.corruptLockGraceMs acq.deadlineTracker
    if disposition = .stale then containUnlessPast { acq with deadlineTracker := tracker } probe
    else .acquire .containmentRead { acq with deadlineTracker := tracker }
  | reaperRead =>
    match s.files.linked .reaper with
    | none => .acquire .expired { acq with reaperTracker := .reset }
    | some seen => .acquire (.reaperJudge seen) acq
  | reaperJudge seen =>
    let (disposition, tracker) :=
      judge site a probe s seen acq.corruptLockGraceMs acq.reaperTracker
    if disposition = .stale then containUnlessPast { acq with reaperTracker := tracker } probe
    else .acquire .containmentRead { acq with reaperTracker := tracker }
  | expired =>
    if probe.timerExpired then .acquire .containmentRead acq else .acquire .deadlineExists acq
  | deadlineExists =>
    if s.isAt .deadline then .acquire .mainRead acq else .acquire .reaperExists acq
  | reaperExists =>
    if s.isAt .reaper then .acquire .mainRead acq else .acquire .publishOwner acq
  | publishOwner =>
    if probe.timerExpired then .acquire .mainRead acq
    else if acq.past probe then .idle
    else .link (.main acq probe.takeoverToken)
  | mainRead =>
    match s.files.linked .main with
    | none => .acquire .containmentRead { acq with mainTracker := .reset }
    | some seen => .acquire (.mainJudge seen) acq
  | mainJudge seen =>
    let (disposition, tracker) := judge site a probe s seen acq.corruptLockGraceMs acq.mainTracker
    let acq := { acq with mainTracker := tracker }
    if disposition = .stale then
      if isValidMainOwnerForSandbox site s seen then
        if acq.past probe then .idle else .reap .containment acq
      else containUnlessPast acq probe
    else .acquire .containmentRead acq

/-- The lock that was just published is given up again, and the owner that is there read. -/
def giveUp (acq : Acquisition) : Point := .release .main (.acquire acq)

/-- One look of a caller that has linked its lock. -/
def PostPoint.next (probe : Probe) (s : Shared) (acq : Acquisition) (token : Option String) :
    PostPoint → Point
  | containment => if s.isAt .containment then giveUp acq else .post .deadline acq token
  | deadline => if s.isAt .deadline then giveUp acq else .post .reaper acq token
  | reaper => if s.isAt .reaper then giveUp acq else .post .timer acq token
  | timer =>
    if probe.timerExpired ∨ probe.takeoverToken ≠ token then giveUp acq
    else if acq.past probe then .release .main .thrown
    else .inside token

/-- One look before the reaper's lock is taken. -/
def ReapPoint.next (probe : Probe) (s : Shared) (acq : Acquisition) : ReapPoint → Point
  | containment =>
    if s.isAt .containment then .acquire .containmentRead acq else .reap .deadline acq
  | deadline =>
    if s.isAt .deadline then .acquire .containmentRead acq
    else if acq.past probe then .idle
    else .link (.reaper acq probe.takeoverToken)

/-- One look with the reaper's lock held. -/
def ReapHeldPoint.next (a : ChainId) (probe : Probe) (s : Shared) (acq : Acquisition)
    (token : Option String) : ReapHeldPoint → Point
  | containment =>
    if acq.past probe then .release .reaper .thrown
    else if s.isAt .containment then .release .reaper (.reaped acq)
    else .reapHeld .deadline acq token
  | deadline =>
    if s.isAt .deadline ∨ probe.takeoverToken ≠ token then .release .reaper (.reaped acq)
    else .reapHeld .readMain acq token
  | readMain =>
    match s.files.linked .main with
    | none => .release .reaper (.reaped acq)
    | some seen => .reapHeld (.judge seen) acq token
  | judge seen =>
    if isValidMainOwnerForSandbox site s seen then
      let (disposition, tracker) :=
        LifecycleLock.judge site a probe s seen acq.corruptLockGraceMs acq.mainTracker
      let acq := { acq with mainTracker := tracker }
      -- the file that was read is not looked at again before it is renamed
      if disposition ≠ .stale ∨ probe.takeoverToken ≠ token then .release .reaper (.reaped acq)
      else if acq.past probe then .release .reaper .thrown
      else if (s.ownerAt seen).any (·.shieldsTakeoverToken.isSome) ∨ probe.takeoverToken.isSome then
        .contain .present (.reap acq)
      else .rename (.reap acq seen)
    else .release .reaper (.reaped acq)

/-- The file under a name, if it is the chain's own. -/
def ownAt (s : Shared) (mine : Name → Option ℕ) (name : Name) : Option ℕ :=
  (s.files.linked name).filter fun seen =>
    (mine name).any fun ino => (s.ownerAt seen).any (·.token = site.token ino)

/-- One step of committing a containment. -/
def ContainPoint.next (probe : Probe) (s : Shared) (mine : Name → Option ℕ) (after : After) :
    ContainPoint → Point
  | present => if s.isAt .containment then after.returned else .contain .authority after
  | authority =>
    if after.authorized probe then .link (.containment after)
    else .contain (.caught .plain) after
  | commit => if after.authorized probe then after.returned else .contain .rollback after
  | rollback =>
    match ownAt site s mine .containment with
    | some seen => .rename (.rollback seen after)
    | none => .contain (.caught (.durable true)) after
  | caught failure => if s.isAt .containment then after.returned else after.thrown failure

/-- One step of a fence. -/
def FencePoint.next (a : ChainId) (probe : Probe) (s : Shared) (f : Fence) : FencePoint → Point
  | token => if probe.takeoverToken ≠ some f.takeoverToken then .idle else .fence .containment f
  | containment =>
    if s.isAt .containment then
      if f.throwOnCommittedContainment then .idle else .fence .token f
    else .link (.deadline f)
  | tokenAgain =>
    if probe.takeoverToken = some f.takeoverToken then .publish .start f
    else .release .deadline .thrown
  | read =>
    match s.files.linked .deadline with
    | none => .fence .token f
    | some seen => .fence (.judge seen) f
  | judge seen =>
    let (disposition, tracker) :=
      LifecycleLock.judge site a probe s seen f.corruptLockGraceMs f.fenceTracker
    let f := { f with fenceTracker := tracker }
    if disposition = .stale then .contain .present (.fence f) else .fence .token f

/-- The owner is of this sandbox, host and process namespace. -/
def isExactLocalOwner (a : ChainId) (owner : Owner) : Bool :=
  owner.sandboxName == site.sandboxName && owner.processIdentity.any (· ≠ "") &&
    owner.hostIdentity == some (site.host (site.proc a)).hostIdentity &&
    owner.pidNamespaceIdentity == (site.host (site.proc a)).pidNamespaceIdentity

/-- A synchronous fence cannot wait for its own process, or for one that may be. -/
def isReentrantOwner (a : ChainId) (probe : Probe) (owner : Owner) : Bool :=
  isExactLocalOwner site a owner && owner.pid == site.pid (site.proc a) &&
    (probe.refreshedIdentity.isNone || owner.processIdentity == probe.refreshedIdentity)

/-- The gate files go, or stay if the failure says so. -/
def fenceFinish (failure : Option Failure) (published : Bool) : Point :=
  match failure with
  | some (.durable true) => .fenceRetained
  | some (.durable false) => .fenceRetainCheck published
  | _ => if published then .release .main .fence else .release .deadline .done

/-- One step of a fence that clears the other locks. -/
def PublishPoint.next (a : ChainId) (probe : Probe) (s : Shared) (f : Fence) :
    PublishPoint → Point
  | start => .publish (.clearToken .reaper) { f with clearTracker := .reset }
  | clearToken target =>
    if probe.takeoverToken ≠ some f.takeoverToken then .publish (.caught .plain) f
    else .publish (.clearRead target) f
  | clearRead target =>
    match s.files.linked target.name, target with
    | none, .reaper => .publish (.clearToken .main) { f with clearTracker := .reset }
    | none, .main => .publish .link f
    | some seen, _ => .publish (.clearJudge target seen) f
  | clearJudge target seen =>
    let (disposition, tracker) := judge site a probe s seen 0 f.clearTracker
    let f := { f with clearTracker := tracker }
    let owner := s.ownerAt seen
    if disposition = .stale ∧ owner.any (isExactLocalOwner site a) ∧
        ¬ (f.synchronous ∧ owner.any (fun owner => isReentrantOwner site a probe owner ∧
          probe.refreshedIdentity.isSome)) then
      .publish (.clearConfirm target seen) f
    else if f.synchronous ∧ owner.any (isReentrantOwner site a probe) then
      .publish (.caught .reentrant) f
    else .publish (.clearToken target) f
  | clearConfirm target seen =>
    if s.files.linked target.name ≠ some seen then .publish (.clearToken target) f
    else if probe.takeoverToken ≠ some f.takeoverToken then .publish (.caught .plain) f
    else .contain .present (.publish f)
  | link =>
    if probe.takeoverToken ≠ some f.takeoverToken then .publish (.caught .plain) f
    else .link (.fenceMain f)
  | caught failure =>
    if probe.takeoverToken ≠ some f.takeoverToken then fenceFinish (some .plain) false
    else match failure with
      | .reentrant => fenceFinish (some .reentrant) false
      | .durable retain =>
        if f.throwOnCommittedContainment then fenceFinish (some (.durable retain)) false
        else .publish .wait f
      | .plain => .publish .start f
  | wait =>
    if probe.takeoverToken ≠ some f.takeoverToken then fenceFinish (some .plain) false
    else if s.isAt .containment ∨ s.isAt .main then .publish .wait f
    else .publish .start f

/-- `selfOwnedDeadlineMainToken`: a link that was made though its call failed. -/
def isSelfOwnedDeadlineMain (a : ChainId) (probe : Probe) (s : Shared) (f : Fence)
    (mine : Name → Option ℕ) : Bool :=
  match s.files.linked .main, mine .main with
  | some seen, some ino => (s.ownerAt seen).any fun owner =>
      owner.sandboxName == site.sandboxName && owner.pid == site.pid (site.proc a) &&
        probe.ownIdentity.any (· ≠ "") && owner.processIdentity == probe.ownIdentity &&
        owner.hostIdentity == some (site.host (site.proc a)).hostIdentity &&
        owner.pidNamespaceIdentity == (site.host (site.proc a)).pidNamespaceIdentity &&
        owner.shieldsTakeoverToken == some f.takeoverToken && owner.token == site.token ino
  | _, _ => false

/-! ## Steps -/

/-- The record that a chain writes. -/
def createMcpLifecycleLockOwner (a : ChainId) (probe : Probe) (ino : ℕ)
    (takeoverToken : Option String) : Owner where
  version := lockSchemaVersion
  sandboxName := site.sandboxName
  pid := site.pid (site.proc a)
  processIdentity := probe.ownIdentity
  hostIdentity := some (site.host (site.proc a)).hostIdentity
  pidNamespaceIdentity := (site.host (site.proc a)).pidNamespaceIdentity
  shieldsTakeoverToken := takeoverToken
  token := site.token ino
  acquiredAt := probe.acquiredAt

/-- The chain at another point. -/
def Chain.goto (c : Chain) (point : Point) : Chain := { c with point }

/-- The chain, with a file of its own under a name. -/
def Chain.take (c : Chain) (name : Name) (ino : ℕ) : Chain :=
  { c with mine := Function.update c.mine name (some ino) }

/-- The chain, with no file of its own under a name. -/
def Chain.forget (c : Chain) (name : Name) : Chain :=
  { c with mine := Function.update c.mine name none }

/-- A file is linked where the name is free. The reply can be lost. -/
def Purpose.advance (a : ChainId) (probe : Probe) (s : Shared) (c : Chain) (purpose : Purpose) :
    Shared × Chain :=
  if s.isAt purpose.name then (s, c.goto purpose.taken)
  else
    let ino := s.files.inodes.length
    let owner := createMcpLifecycleLockOwner site a probe ino (purpose.recorded probe)
    let files := s.files.publish purpose.name a ⟨some owner.toJson, .regular, probe.mtimeMs⟩
    ({ s with files }, (c.take purpose.name ino).goto
      (if probe.replyLost then .reconcile purpose else purpose.linked))

/-- The reply was lost: the link counts if the chain's own token is read there. -/
def Purpose.reconcile (s : Shared) (c : Chain) (purpose : Purpose) : Shared × Chain :=
  match ownAt site s c.mine purpose.name with
  | some _ => (s, c.goto purpose.linked)
  | none => (s, c.goto purpose.taken)

/-- The chain has no more use for the token of the file it renames, unless it reaps. -/
def Removal.forget (c : Chain) : Removal → Chain
  | release name _ _ => c.forget name
  | rollback _ _ => c.forget .containment
  | reap _ _ => c

/-- The file is moved aside, whatever it is by then. -/
def Removal.rename (s : Shared) (c : Chain) (removal : Removal) : Shared × Chain :=
  match s.files.linked removal.name with
  | none => (s, (removal.forget c).goto (removal.done false))
  | some ino =>
    ({ s with files := s.files.unlink removal.name },
      (removal.forget c).goto (.claimed removal ino))

/-- `claimedExpectedGeneration`. -/
def isExpectedGeneration (s : Shared) (expected claimed : ℕ) : Bool :=
  match s.ownerAt expected with
  | some owner => (s.ownerAt claimed).any (·.token = owner.token)
  | none => (s.ownerAt claimed).isNone && claimed == expected

/-- The file that was moved aside is looked at again. -/
def Removal.claimed (probe : Probe) (s : Shared) (c : Chain) (removal : Removal) (ino : ℕ) :
    Chain :=
  if isExpectedGeneration s removal.seen ino then
    if removal.asserts probe then c.goto (removal.done true)
    else c.goto (.restore removal ino true)
  else c.goto (.restore removal ino false)

/-- A file that is not to go is put back, unless the name is taken. -/
def Removal.restore (s : Shared) (c : Chain) (removal : Removal) (ino : ℕ) (threw : Bool) :
    Shared × Chain :=
  let next := c.goto (if threw then removal.thrown else removal.done false)
  if s.isAt removal.name then (s, next)
  else ({ s with files := s.files.relink removal.name ino }, next)

/-- `safelyReleaseMcpLifecycleLock`, up to the rename. -/
def releaseOwn (s : Shared) (c : Chain) (name : Name) (k : Released) : Chain :=
  match ownAt site s c.mine name with
  | some seen => c.goto (.rename (.release name seen k))
  | none => (c.forget name).goto k.next

/-- The next instruction of a chain that is not idle and not inside. -/
def advance (a : ChainId) (probe : Probe) (s : Shared) (c : Chain) : Option (Shared × Chain) :=
  match c.point with
  | .idle | .inside _ | .fenceInside _ | .retained | .fenceRetained => none
  | .acquire point acq => some (s, c.goto (point.next site a probe s acq))
  | .post point acq token => some (s, c.goto (point.next probe s acq token))
  | .retainCheck =>
    some (s, c.goto (if s.isAt .containment then .release .main .done else .retained))
  | .reap point acq => some (s, c.goto (point.next probe s acq))
  | .reapHeld point acq token => some (s, c.goto (point.next site a probe s acq token))
  | .contain point after => some (s, c.goto (point.next site probe s c.mine after))
  | .link purpose => some (purpose.advance site a probe s c)
  | .reconcile purpose => some (purpose.reconcile site s c)
  | .rename removal => some (removal.rename s c)
  | .claimed removal ino => some (s, removal.claimed probe s c ino)
  | .restore removal ino threw => some (removal.restore s c ino threw)
  | .release name k => some (s, releaseOwn site s c name k)
  | .fence point f => some (s, c.goto (point.next site a probe s f))
  | .publish .start f =>
    if isSelfOwnedDeadlineMain site a probe s f c.mine then some (s, c.goto (.fenceInside f))
    else some (s, (c.forget .main).goto (PublishPoint.start.next site a probe s f))
  | .publish point f => some (s, c.goto (point.next site a probe s f))
  | .fenceRetainCheck published =>
    some (s, c.goto (if s.isAt .containment then fenceFinish none published else .fenceRetained))

/-- Where a chain goes if its next instruction throws. -/
def Point.abort (failure : Failure) : Point → Option Point
  | idle | inside _ | fenceInside _ | retained | fenceRetained => none
  | acquire _ _ | post _ _ _ | reap _ _ | fence _ _ | release _ _ => some .idle
  | retainCheck => some .retained
  | fenceRetainCheck _ => some .fenceRetained
  | reapHeld _ _ _ => some (.release .reaper .thrown)
  | contain .present after | contain (.caught _) after => some (after.thrown failure)
  | contain .authority after => some (.contain (.caught failure) after)
  | contain .commit after => some (.contain .rollback after)
  | contain .rollback after => some (.contain (.caught (.durable true)) after)
  | link (.containment after) | reconcile (.containment after) =>
    some (.contain (.caught failure) after)
  | link (.fenceMain f) | reconcile (.fenceMain f) => some (.publish (.caught failure) f)
  | link _ | reconcile _ => some .idle
  | rename removal | claimed removal _ | restore removal _ _ => some removal.thrown
  | publish (.caught _) _ | publish .wait _ => some (fenceFinish (some failure) false)
  | publish _ f => some (.publish (.caught failure) f)

/-- What a chain can do. -/
inductive Act where
  | withLock (timeoutMs corruptLockGraceMs : Option ℕ) (now : ℕ)
  | withFence (takeoverToken : String) (corruptLockGraceMs : Option ℕ)
      (throwOnCommittedContainment synchronous : Bool)
  /-- the operation ends, or throws; `retain` is the lease's own request -/
  | finish (failure : Option Failure) (retain : Bool)
  | go (probe : Probe)
  | fail (failure : Failure)

/-- The value, if it is positive. -/
def positiveInteger (value : Option ℕ) (fallback : ℕ) : ℕ :=
  (value.filter (0 < ·)).getD fallback

/-- The end of the operation, inside: only a lock that is bound to the shields timer can
be retained. -/
def finishInside (token : Option String) (failure : Option Failure) (retain : Bool) : Point :=
  if token.isSome then
    match failure, retain with
    | some (.durable true), _ => .retained
    | some (.durable false), _ | _, true => .retainCheck
    | _, false => .release .main .done
  else .release .main .done

/-- How a fence ends. -/
def finishFence (failure : Option Failure) (retain : Bool) : Point :=
  match failure, retain with
  | some (.durable _), _ => fenceFinish failure true
  | _, true => .fenceRetainCheck true
  | _, false => fenceFinish failure true

/-- One step of a chain; there is none where the chain is elsewhere. -/
def Act.perform (a : ChainId) (s : Shared) (c : Chain) : Act → Option (Shared × Chain)
  | withLock timeoutMs grace now =>
    match c.point with
    | .idle => some (s, c.goto (.acquire .containmentRead
        { deadline := now + positiveInteger timeoutMs defaultTimeoutMs
          corruptLockGraceMs := positiveInteger grace defaultCorruptLockGraceMs
          mainTracker := .reset
          reaperTracker := .reset
          deadlineTracker := .reset }))
    | _ => none
  | withFence takeoverToken grace throwOnCommittedContainment synchronous =>
    match c.point with
    | .idle =>
      if isLowerHexOf 32 takeoverToken then some (s, c.goto (.fence .token
        { takeoverToken
          corruptLockGraceMs := positiveInteger grace defaultCorruptLockGraceMs
          throwOnCommittedContainment
          synchronous
          fenceTracker := .reset
          clearTracker := .reset }))
      else some (s, c)
    | _ => none
  | finish failure retain =>
    match c.point with
    | .inside token => some (s, c.goto (finishInside token failure retain))
    | .fenceInside _ => some (s, c.goto (finishFence failure retain))
    | _ => none
  | go probe => advance site a probe s c
  | fail failure => (c.point.abort failure).map fun point => (s, c.goto point)

/-- The shared files and all chains. -/
structure World where
  shared : Shared
  chains : ChainId → Chain

/-- A step of a chain, or the crash of a process. -/
inductive Action where
  | act (a : ChainId) (what : Act)
  | crash (p : Proc)

/-- A chain of a process that has not stopped does something, or a process stops. -/
def World.step (w : World) : Action → Option World
  | .act a what =>
    if w.shared.crashed (site.proc a) then none
    else (what.perform site a w.shared (w.chains a)).map fun next =>
      { shared := next.1, chains := Function.update w.chains a next.2 }
  | .crash p =>
    some { w with shared := { w.shared with
      crashed := Function.update w.shared.crashed p true } }

/-- Between a successful ordinary acquisition and the release. -/
def Point.isInside : Point → Bool
  | inside _ | retainCheck | retained => true
  | _ => false

/-- A live chain has acquired the lock and not released it. -/
def World.Holds (w : World) (a : ChainId) : Prop :=
  w.shared.Live site a ∧ (w.chains a).point.isInside

/-- The inode whose owner a reaper's next instruction classifies stale. -/
def Point.judgesStale (a : ChainId) (probe : Probe) (s : Shared) : Point → Option ℕ
  | reapHeld (.judge seen) acq _ =>
    if isValidMainOwnerForSandbox site s seen ∧
        (judge site a probe s seen acq.corruptLockGraceMs acq.mainTracker).1 = .stale then some seen
    else none
  | _ => none

/-- No live process is taken for a dead one. -/
def LiveNeverStale (w : World) : Action → Prop
  | .act a (.go probe) => ∀ seen ∈ (w.chains a).point.judgesStale site a probe w.shared,
      ∀ inode ∈ w.shared.files.inodes[seen]?, ¬ w.shared.Live site inode.maker
  | _ => True

/-- The generation that a reaper is about to rename away as stale. -/
def Point.reaps : Point → Option ℕ
  | rename (.reap _ seen) => some seen
  | _ => none

/-- A reaper renames away the generation that it has read. -/
def ReapsWhatItRead (w : World) : Action → Prop
  | .act a (.go _) => ∀ seen ∈ (w.chains a).point.reaps, ∀ ino ∈ w.shared.files.linked .main,
      ino = seen
  | _ => True

instance (s : Shared) (a : ChainId) : Decidable (s.Live site a) :=
  inferInstanceAs (Decidable (_ = _))

instance (w : World) : (a : Action) → Decidable (LiveNeverStale site w a)
  | .act a (.go probe) =>
    inferInstanceAs (Decidable (∀ seen ∈ (w.chains a).point.judgesStale site a probe w.shared,
      ∀ inode ∈ w.shared.files.inodes[seen]?, ¬ w.shared.Live site inode.maker))
  | .act _ (.withLock ..) | .act _ (.withFence ..) | .act _ (.finish ..) | .act _ (.fail _)
  | .crash _ => isTrue trivial

instance (w : World) : (a : Action) → Decidable (ReapsWhatItRead w a)
  | .act a (.go _) =>
    inferInstanceAs (Decidable (∀ seen ∈ (w.chains a).point.reaps,
      ∀ ino ∈ w.shared.files.linked .main, ino = seen))
  | .act _ (.withLock ..) | .act _ (.withFence ..) | .act _ (.finish ..) | .act _ (.fail _)
  | .crash _ => isTrue trivial

end NemoClaw.LifecycleLock
