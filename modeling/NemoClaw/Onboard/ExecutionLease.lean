import NemoClaw.Js.Text
import NemoClaw.Lib.Runs
import NemoClaw.Lib.LockFiles

/- The execution lease of the host-local create journal.

The lease is a file that is linked into place complete. A lease whose owner is gone is
removed under a second file, the recovery marker, which is taken the same way and is
removed without a guard where its owner is gone. Each file-system call is one step of
the process that makes it, the question whether a process is alive is another; the
steps of any number of processes interleave, and a process can stop for good between
any two of its own.

Correspondence (runtime-provider/host-local-create-journal.ts ↔ Lean):
`acquireExecution` is the points up to `finish`, `publishExclusive` the `publish`
points, `removeExactExecutionLease` the points `compare` and `unlink`,
`releaseExecution` a removal of its own. A text that is canonical stands for its
record. A temporary file is linked at its name until the publication is through; a
reader that finds it removes it, and the publisher takes no notice. A file-system call
may throw before or after it has taken effect. `assertExecution` writes nothing.
-/
namespace NemoClaw.ExecutionLease

open Js Runs LockFiles

/-- `HostLocalCreateJournalExecutionLease`, less its schema version, which is constant. -/
structure Lease where
  transactionId : String
  ownerId : String
  ownerPid : ℕ
  deriving DecidableEq

/-- `UUID`. -/
def isOwnerUuid (s : String) : Bool :=
  match s.toList.splitOn '-' with
  | [a, b, c, d, e] =>
    [a, b, c, d, e].all (fun part => part.all isLowerHex) &&
      [a, b, c, d, e].map List.length == [8, 4, 4, 4, 12] &&
      c.head?.any (fun v => '1' ≤ v && v ≤ '5') &&
      d.head?.any (fun v => v ∈ ['8', '9', 'a', 'b'])
  | _ => false

/-- `normalizeExecutionLease` accepts the record. -/
def Lease.isExact (lease : Lease) : Bool :=
  isLowerHexOf 64 lease.transactionId && isOwnerUuid lease.ownerId &&
    decide (1 ≤ lease.ownerPid) && decide (lease.ownerPid ≤ 0x7fffffff)

/-- `EXECUTION_LEASE_FILE` and `EXECUTION_RECOVERY_FILE`. -/
inductive LeaseFile where
  | lease
  | recovery
  deriving DecidableEq

abbrev Pid := ℕ

/-- The records of the two names, `none` where the text is no canonical record, and the processes
that have stopped. -/
structure Shared where
  files : Files LeaseFile Pid (Option Lease)
  crashed : Pid → Bool

/-- What `readExecutionLease` finds: nothing, or the record of the file, if it has one. -/
def Shared.read (s : Shared) (name : LeaseFile) : Option (Option Lease) :=
  (s.files.linked name).map fun ino => s.files.inodes[ino]?.bind fun inode => inode.content

def Shared.processIsAlive (s : Shared) (pid : Pid) : Bool := !s.crashed pid

/-- The calls of `removeExactExecutionLease`. -/
inductive Removal where
  /-- a recovery marker whose owner is gone -/
  | staleMarker (recovery : Lease)
  /-- the lease that was just taken, since there is a recovery marker -/
  | withdraw
  /-- a lease whose owner is gone, under the recovery marker -/
  | abandoned (lease : Lease)
  /-- the recovery marker, at the end of a recovery that has thrown or not -/
  | ownMarker (thrown : Bool)
  | release

def Removal.target : Removal → LeaseFile
  | staleMarker _ | ownMarker _ => .recovery
  | withdraw | abandoned _ | release => .lease

/-- The record that is to be removed, where `own` is the record of the call. -/
def Removal.expected (own : Lease) : Removal → Lease
  | staleMarker lease | abandoned lease => lease
  | withdraw | ownMarker _ | release => own

inductive Point where
  | readRecovery
  | judgeRecovery (recovery : Lease)
  | publishLease
  | recheckRecovery
  | readExisting
  | judgeExisting (existing : Lease)
  | publishMarker
  | readAbandoned
  | judgeAbandoned (abandoned : Lease)
  | finish (thrown : Bool)
  | compare (r : Removal)
  | unlink (r : Removal)

/-- How the call goes on. -/
inductive Outcome where
  | go (point : Point)
  /-- `continue` -/
  | again
  | thrown
  | acquired
  | released

/-- After the removal is through. -/
def Removal.done : Removal → Outcome
  | staleMarker _ | withdraw | ownMarker false => .again
  | abandoned _ => .go (.finish false)
  | ownMarker true => .thrown
  | release => .released

/-- After an error in the removal: a recovery still gives up its marker. -/
def Removal.failed : Removal → Outcome
  | abandoned _ => .go (.finish true)
  | staleMarker _ | withdraw | ownMarker _ | release => .thrown

/-- After an error at the point. -/
def Point.failed : Point → Outcome
  | readAbandoned | judgeAbandoned _ => .go (.finish true)
  | compare r | unlink r => r.failed
  | _ => .thrown

def Shared.onRead (s : Shared) (name : LeaseFile) (failed absent : Outcome)
    (present : Lease → Outcome) : Outcome :=
  match s.read name with
  | none => absent
  | some none => failed
  | some (some lease) => present lease

/-- The next instruction of a call by the process, whose own record is `own`. -/
def Point.advance (s : Shared) (p : Pid) (own : Lease) :
    Point → Files LeaseFile Pid (Option Lease) × Outcome
  | readRecovery =>
    (s.files, s.onRead .recovery .thrown (.go .publishLease) fun recovery =>
      .go (.judgeRecovery recovery))
  | judgeRecovery recovery =>
    if s.processIsAlive recovery.ownerPid then (s.files, .thrown)
    else (s.files, .go (.compare (.staleMarker recovery)))
  | publishLease =>
    if s.files.linked .lease = none then
      (s.files.publish .lease p (some own), .go .recheckRecovery)
    else (s.files, .go .readExisting)
  | recheckRecovery =>
    (s.files, s.onRead .recovery .thrown .acquired fun _ => .go (.compare .withdraw))
  | readExisting =>
    (s.files, s.onRead .lease .thrown .again fun existing => .go (.judgeExisting existing))
  | judgeExisting existing =>
    if s.processIsAlive existing.ownerPid then (s.files, .thrown)
    else (s.files, .go .publishMarker)
  | publishMarker =>
    if s.files.linked .recovery = none then
      (s.files.publish .recovery p (some own), .go .readAbandoned)
    else (s.files, .thrown)
  | readAbandoned =>
    (s.files, s.onRead .lease (.go (.finish true)) (.go (.finish false)) fun abandoned =>
      .go (.judgeAbandoned abandoned))
  | judgeAbandoned abandoned =>
    if s.processIsAlive abandoned.ownerPid then (s.files, .go (.finish true))
    else (s.files, .go (.compare (.abandoned abandoned)))
  | finish thrown =>
    let leave : Outcome := if thrown then .thrown else .again
    (s.files, s.onRead .recovery .thrown leave fun marker =>
      if marker = own then .go (.compare (.ownMarker thrown)) else leave)
  | compare r =>
    (s.files, s.onRead r.target r.failed r.failed fun current =>
      if current = r.expected own then .go (.unlink r) else r.failed)
  | unlink r =>
    -- the name is removed, whatever it links to by now
    if s.files.linked r.target = none then (s.files, r.failed)
    else (s.files.unlink r.target, r.done)

structure Call where
  own : Lease
  attempt : ℕ
  point : Point

/-- A process: the lease that an `acquireExecution` returned to it and that is not yet
released, and the call it is in. -/
structure Local where
  held : Option Lease
  call : Option Call

def maxAttempts : ℕ := 3

def Outcome.apply (l : Local) (call : Call) : Outcome → Local
  | go point => { l with call := some { call with point } }
  | again =>
    if call.attempt + 1 < maxAttempts then
      { l with call := some { call with attempt := call.attempt + 1, point := .readRecovery } }
    else { l with call := none }
  | thrown => { l with call := none }
  | acquired => { held := some call.own, call := none }
  | released => { held := none, call := none }

/-- What follows an error: a lease that is gone is released all the same. -/
def Point.thrownAfter : Point → Outcome
  | unlink .release => .released
  | point => point.failed

inductive Act where
  | acquireExecution (transactionId ownerId : String)
  | releaseExecution
  /-- the next instruction -/
  | go
  /-- the next instruction throws, after it has taken effect or before -/
  | fail (late : Bool)

def Act.perform (p : Pid) (s : Shared) (l : Local) :
    Act → Option (Files LeaseFile Pid (Option Lease) × Local)
  | acquireExecution transactionId ownerId =>
    match l.call with
    | some _ => none
    | none =>
      let own : Lease := ⟨transactionId, ownerId, p⟩
      if own.isExact then some (s.files, { l with call := some ⟨own, 0, .readRecovery⟩ })
      else some (s.files, l)
  | releaseExecution =>
    match l.call, l.held with
    | none, some lease => some (s.files, { l with call := some ⟨lease, 0, .compare .release⟩ })
    | _, _ => none
  | go => l.call.map fun call =>
    let next := call.point.advance s p call.own
    (next.1, next.2.apply l call)
  | fail late => l.call.map fun call =>
    if late then ((call.point.advance s p call.own).1, call.point.thrownAfter.apply l call)
    else (s.files, call.point.failed.apply l call)

structure World where
  shared : Shared
  locals : Pid → Local

inductive Action where
  | act (p : Pid) (what : Act)
  | crash (p : Pid)

/-- A process that has not stopped does something, or a process stops. -/
def World.step (w : World) : Action → Option World
  | .act p what =>
    if w.shared.crashed p then none
    else (what.perform p w.shared (w.locals p)).map fun next =>
      { shared := { w.shared with files := next.1 }
        locals := Function.update w.locals p next.2 }
  | .crash p =>
    some { w with shared := { w.shared with
      crashed := Function.update w.shared.crashed p true } }

def Shared.Live (s : Shared) (p : Pid) : Prop := s.crashed p = false

/-- The process is alive and has a lease that it did not release. -/
def World.Holds (w : World) (p : Pid) : Prop :=
  w.shared.Live p ∧ (w.locals p).held.isSome

/-- A stale recovery marker is still there when it is removed, or there is none. -/
def Point.MarkerKept (s : Shared) : Point → Prop
  | unlink (.staleMarker recovery) => ∀ current ∈ s.read .recovery, current = some recovery
  | _ => True

/-- The condition on a step that removes a marker. -/
def MarkerKept (w : World) : Action → Prop
  | .act _ (.fail false) => True
  | .act p _ => ∀ call ∈ (w.locals p).call, call.point.MarkerKept w.shared
  | .crash _ => True

instance (s : Shared) : (point : Point) → Decidable (point.MarkerKept s)
  | .unlink (.staleMarker recovery) =>
    inferInstanceAs (Decidable (∀ current ∈ s.read .recovery, current = some recovery))
  | .unlink .withdraw | .unlink (.abandoned _) | .unlink (.ownMarker _) | .unlink .release
  | .readRecovery | .judgeRecovery _ | .publishLease | .recheckRecovery | .readExisting
  | .judgeExisting _ | .publishMarker | .readAbandoned | .judgeAbandoned _ | .finish _
  | .compare _ => isTrue trivial

instance (w : World) : (a : Action) → Decidable (MarkerKept w a)
  | .act _ (.fail false) | .crash _ => isTrue trivial
  | .act p (.fail true) | .act p .go | .act p .releaseExecution
  | .act p (.acquireExecution _ _) => inferInstanceAs (Decidable
      (∀ call ∈ (w.locals p).call, call.point.MarkerKept w.shared))

end NemoClaw.ExecutionLease
