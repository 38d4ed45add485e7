import NemoClaw.Shields.ShieldsUp

/- The timer that raises the shields again.

The timer process runs when the time is up, and again after a failure. A run waits for the
owner of a rebuild, takes over the lifecycle gates of the sandbox and tries to restore the
lockdown. All attempts, of all runs, come out of one budget; when it is used up the sandbox
is contained durably.

Correspondence (shields/timer.ts, state/mcp-lifecycle-lock-acquisition.ts ↔ Lean):
functions keep their names. `runRestoreTimerWithBudget` is one run, `runBody` and
`runFailed` its try and its catch. What the fence does until a set-up fails or the gate is
taken is one call, `awaitDeadlineGate` and `awaitMainOwner`; so are the preparation of the
takeover, the commit of a containment and the two ends of the transition lock. The loops
count down the budget. Delays and audit entries are left out.
-/
namespace NemoClaw.Shields

open Js CallTree

/-- What comes of waiting for a lifecycle gate. -/
inductive GateEvent where
  | acquired
  /-- `onSetupFailure` is called -/
  | setupFailed
  deriving DecidableEq

inductive TimerCall where
  /-- a call that the shields commands make as well -/
  | shields (q : Call)
  /-- `recoveryBudget.attemptsUsed += 1` -/
  | useAttempt
  | readAttemptsUsed
  /-- `terminalContainment`, a variable of the run -/
  | setTerminalContainment (terminal : Bool)
  | readTerminalContainment
  | prepareAutoRestoreTransitionTakeover
  | enterTransitionLock
  | leaveTransitionLock
  /-- `fs.existsSync` of the containment -/
  | containmentExists
  | beginCommittedContainment (token reason : String)
  | awaitDeadlineGate
  | awaitMainOwner
  | inspectContainment
  /-- the gates are released, but for those that a durable failure has marked -/
  | releaseGates

/-- What the host answers to each call. -/
def TimerCall.Answer : TimerCall → Type
  | shields q => q.Answer
  | useAttempt | readAttemptsUsed => ℕ
  | setTerminalContainment _ => Unit
  | readTerminalContainment => Bool
  | prepareAutoRestoreTransitionTakeover => Except Failure Unit
  | enterTransitionLock | leaveTransitionLock => Except Failure Unit
  | containmentExists => Bool
  | beginCommittedContainment _ _ => Except Failure Unit
  | awaitDeadlineGate | awaitMainOwner => Except Failure GateEvent
  | inspectContainment => Except Failure Bool
  | releaseGates => Except Failure Unit

/-- The timer as a tree of calls. -/
abbrev TimerProgram (α : Type) := Tree TimerCall TimerCall.Answer Failure α

/-- A program of the shields commands, run by the timer. -/
def embed {α : Type} (t : Program α) : TimerProgram α :=
  t.interpret fun q => Tree.ask (TimerCall.shields q)

/-- One more attempt is counted; the answer is how many there are. -/
def useAttempt : TimerProgram ℕ := Tree.ask TimerCall.useAttempt

/-- How many attempts have been counted. -/
def readAttemptsUsed : TimerProgram ℕ := Tree.ask TimerCall.readAttemptsUsed

/-- The timer notes that only an operator can go on. -/
def setTerminalContainment (terminal : Bool) : TimerProgram Unit :=
  Tree.ask (TimerCall.setTerminalContainment terminal)

/-- Whether it has noted that. -/
def readTerminalContainment : TimerProgram Bool := Tree.ask TimerCall.readTerminalContainment

/-- The sandbox is contained. -/
def containmentExists : TimerProgram Bool := Tree.ask TimerCall.containmentExists

/-- The lowering under way is taken over, or it fails. -/
def prepareAutoRestoreTransitionTakeover : TimerProgram Unit := do
  let answer ← Tree.ask TimerCall.prepareAutoRestoreTransitionTakeover
  .lift answer

/-- The lock of the transition is taken, or it fails. -/
def enterTransitionLock : TimerProgram Unit := do
  let answer ← Tree.ask TimerCall.enterTransitionLock
  .lift answer

/-- It is released. -/
def leaveTransitionLock : TimerProgram Unit := do
  let answer ← Tree.ask TimerCall.leaveTransitionLock
  .lift answer

/-- The next event of waiting for the deadline's lock. -/
def awaitDeadlineGate : TimerProgram GateEvent := do
  let answer ← Tree.ask TimerCall.awaitDeadlineGate
  .lift answer

/-- The next event of taking the main lock. -/
def awaitMainOwner : TimerProgram GateEvent := do
  let answer ← Tree.ask TimerCall.awaitMainOwner
  .lift answer

/-- The locks of the fence are released. -/
def releaseGates : TimerProgram Unit := do
  let answer ← Tree.ask TimerCall.releaseGates
  .lift answer

/-- The failure as one that an operator has to resolve. -/
def durableMcpLifecycleContainmentFailure (retainOwnedLifecycleGates : Bool) : Failure → Failure
  | .durable message retain => .durable message (retain || retainOwnedLifecycleGates)
  | .plain message =>
    .durable ("Durable sandbox mutation containment requires operator resolution: " ++ message)
      retainOwnedLifecycleGates

/-- How many attempts a timer has. -/
def autoRestoreMaxAttempts : ℕ := 7

structure TimerRuntimeOptions where
  /-- `maxRestoreAttempts`, if it is an integer -/
  maxRestoreAttempts : Option ℤ

/-- The attempts that the options ask for, if they ask for any. -/
def TimerRuntimeOptions.attempts (options : TimerRuntimeOptions) : ℕ :=
  match options.maxRestoreAttempts with
  | none => autoRestoreMaxAttempts
  | some n => if 0 < n then n.toNat else autoRestoreMaxAttempts

namespace TimerArgs

variable (pid : ℕ) (args : TimerArgs) (options : TimerRuntimeOptions)

/-- The marker is still that of this timer. -/
def markerMatches : TimerProgram Bool := embed (args.markerMatchesCurrentTimer pid)

/-- `processToken`, if it is a takeover token. -/
def takeoverToken : Option String := args.processToken.filter isTakeoverToken

/-- The token of the marker, whosever it is. -/
def readShieldsTimerTakeoverToken : TimerProgram (Option String) := do
  let marker ← embed readTimerMarker
  return marker.bind (·.takeoverToken)

/-- The error of a timer that another one has replaced. -/
def authorityChanged : Failure := .plain "Auto-restore authority changed for sandbox"

/-- The marker still has the token. -/
def checkTakeoverToken (token : String) : TimerProgram Unit := do
  let current ← readShieldsTimerTakeoverToken
  if current ≠ some token then throw authorityChanged else return ()

/-- The marker is still this timer's, or the attempt fails. -/
def assertTakeoverAuthority : TimerProgram Unit := do
  let current ← args.markerMatches pid
  if current then return ()
  else throw (.plain "Auto-restore authority changed before Shields transition takeover")

/-- The reason that a containment records. -/
def recoveryFailed (attempt : ℕ) : String :=
  "Auto-restore recovery failed after " ++ toString attempt ++
    (if attempt = 1 then " attempt" else " attempts") ++
    " while the exact timer generation still owned recovery authority"

/-- The sandbox is contained with the timer's token. -/
def beginCommittedMcpLifecycleContainment (reason : String) :
    TimerProgram (Except Failure Unit) :=
  match args.takeoverToken with
  | none =>
    return .error
      (.plain "Auto-restore takeover token must be 32 lowercase hexadecimal characters")
  | some token => Tree.ask (TimerCall.beginCommittedContainment token reason)

/-- The containment could not be committed. -/
def uncommitted (attempt : ℕ) (message : String) : TimerProgram Failure := do
  let current ← args.markerMatches pid
  if ¬current then return .plain message
  else return durableMcpLifecycleContainmentFailure true (.plain (recoveryFailed attempt ++
    "; durable containment could not be committed: " ++ message ++
    ". Correct the state-directory write failure"))

/-- The failure with which the timer gives up; the sandbox is contained first. -/
def terminalRecoveryFailure (attempt : ℕ) : TimerProgram Failure := do
  let committed ← args.beginCommittedMcpLifecycleContainment (recoveryFailed attempt)
  match committed with
  | .ok _ => return durableMcpLifecycleContainmentFailure false (.plain (recoveryFailed attempt ++
      ". Durable containment now blocks sandbox mutations"))
  | .error (.durable message retain) => return .durable message retain
  | .error (.plain message) => args.uncommitted pid attempt message

/-- The last attempt ends in the terminal failure. -/
def throwTerminal {α : Type} (attempt : ℕ) : TimerProgram α := do
  let failure ← args.terminalRecoveryFailure pid attempt
  throw failure

/-! ## The deadline fence -/

/-- A failed setup counts as an attempt; the last one is terminal. -/
def onSetupFailure : TimerProgram Unit := do
  let attempt ← useAttempt
  if options.attempts ≤ attempt then args.throwTerminal pid attempt
  else args.assertTakeoverAuthority pid

/-- Not reached: the budget is used up first. -/
def outOfAttempts : Failure := .plain "The recovery budget is used up"

/-- The deadline's lock is waited for, each failure counted. -/
def acquireDeadlineFence : ℕ → TimerProgram Unit
  | 0 => throw outOfAttempts
  | left + 1 => do
    let event ← awaitDeadlineGate
    match event with
    | .acquired => return ()
    | .setupFailed => do
      args.onSetupFailure pid options
      acquireDeadlineFence left

/-- Whether the main generation was published. -/
def tryPublish : TimerProgram Bool := do
  let event ← awaitMainOwner
  match event with
  | .acquired => return true
  | .setupFailed => do
    args.onSetupFailure pid options
    return false

/-- What fails while the generation is published counts as a failed set-up as well. -/
def publishFailed (token : String) (error : Failure) : TimerProgram Unit := do
  checkTakeoverToken token
  match error with
  | .durable message retain =>
    throw (.durable (message ++ " The deadline gate remains closed.") retain)
  | .plain _ => args.onSetupFailure pid options

/-- The main lock is taken, each failure counted. -/
def publishDeadlineMainOwner (token : String) : ℕ → TimerProgram Unit
  | 0 => throw outOfAttempts
  | left + 1 => do
    let published ← (args.tryPublish pid options).attempt
    match published with
    | .ok true => return ()
    | .ok false => publishDeadlineMainOwner token left
    | .error error => do
      args.publishFailed pid options token error
      publishDeadlineMainOwner token left

/-- After a durable failure the locks stay, unless no containment holds. -/
def retainOwnedLifecycleGateAfterFailure : Failure → TimerProgram Bool
  | .plain _ => return false
  | .durable _ true => return true
  | .durable _ false => do
    let found ← Tree.ask TimerCall.inspectContainment
    match found with
    | .ok found => return !found
    | .error _ => return true

/-- The gates are released unless the failure keeps them. -/
def releaseAfter {α : Type} (result : Except Failure α) : TimerProgram α :=
  match result with
  | .ok a => do
    releaseGates
    return a
  | .error error => do
    let retain ← retainOwnedLifecycleGateAfterFailure error
    if retain then throw error
    else do
      releaseGates
      throw error

/-- The operation, with the main lock taken for the token. -/
def ownMain {α : Type} (token : String) (operation : TimerProgram α) : TimerProgram α := do
  args.publishDeadlineMainOwner pid options token options.attempts
  checkTakeoverToken token
  operation

/-- The operation inside the fence. -/
def withMcpLifecycleDeadlineFence {α : Type} (token : String) (operation : TimerProgram α) :
    TimerProgram α := do
  args.acquireDeadlineFence pid options options.attempts
  let result ← (args.ownMain pid options token operation).attempt
  releaseAfter result

/-- One restore, with the transition's lock held. -/
def restoreUnderDeadlineFence (token : String) : TimerProgram RestoreAttemptOutcome := do
  enterTransitionLock
  (embed (args.attempt pid token)).tryFinally leaveTransitionLock

/-- The lowering under way is taken over, and the shields restored. -/
def prepareAndRestore (token : String) : TimerProgram RestoreAttemptOutcome := do
  prepareAutoRestoreTransitionTakeover
  args.restoreUnderDeadlineFence pid token

/-- A failure that leaves the sandbox contained. -/
def containedFailure (error : Failure) : TimerProgram RestoreAttemptOutcome := do
  setTerminalContainment true
  throw (durableMcpLifecycleContainmentFailure false error)

/-- A failed attempt is tried again, unless the sandbox is contained. -/
def attemptFailed (error : Failure) : TimerProgram RestoreAttemptOutcome :=
  if error.isDurable then containedFailure error
  else do
    let contained ← containmentExists
    if contained then containedFailure error
    else return .retry

/-- The outcome of the attempt, or what its failure leads to. -/
def attemptOutcome (result : Except Failure RestoreAttemptOutcome) :
    TimerProgram RestoreAttemptOutcome :=
  match result with
  | .ok outcome => return outcome
  | .error error => attemptFailed error

/-- The last attempt that the budget has was made. -/
def budgetUsedUp (attempt : ℕ) : TimerProgram ℕ := do
  setTerminalContainment true
  args.throwTerminal pid attempt

/-- The exit code, if the loop ends without a failure. -/
def restoreWhileDeadlineOwned (token : String) : ℕ → ℕ → TimerProgram ℕ
  | 0, _ => throw outOfAttempts
  | left + 1, exitCode => do
    let attempt ← useAttempt
    let result ← (args.prepareAndRestore pid token).attempt
    let outcome ← attemptOutcome result
    match outcome with
    | .complete => return 0
    | .revoked => return exitCode
    | .retry => do
      let owned ← args.markerMatches pid
      if ¬owned then return 1
      else if options.attempts ≤ attempt then args.budgetUsedUp pid attempt
      else do
        let stillOwned ← args.markerMatches pid
        if ¬stillOwned then return 1
        else restoreWhileDeadlineOwned token left 1

/-- Why the timer goes on later. -/
inductive RescheduleReason where
  | leaseOwnerAlive
  | failure
  deriving DecidableEq

/-- How a run of the timer ends. -/
inductive RunEnd where
  /-- the process exits, after it has reported a failure or without one -/
  | exited (exitCode : ℕ) (reported : Option Failure)
  | rescheduled (reason : RescheduleReason)

/-- The timer goes on later, while the marker is its own. -/
def scheduleRetry (reason : RescheduleReason) (otherwise : RunEnd) : TimerProgram RunEnd := do
  let current ← args.markerMatches pid
  if current then return .rescheduled reason else return otherwise

/-- How a process is told from a later one with its pid. -/
def readOwnerIdentity (owner : ℕ) : TimerProgram (Option String) :=
  Tree.ask (TimerCall.shields (.readProcessStartIdentity owner))

/-- A rebuild that put off the restore is still running. -/
def rebuildLeaseOwnerIsCurrent : TimerProgram Bool :=
  match args.leaseOwner with
  | none => return false
  | some (owner, startIdentity) => do
    let alive ← embed (isProcessAlive owner)
    if ¬alive then return false
    else do
      let identity ← readOwnerIdentity owner
      return identity = some startIdentity

/-- The restore inside the fence. -/
def recoverWithToken : TimerProgram RunEnd :=
  match args.takeoverToken with
  | none => throw (.plain "Auto-restore timer has no valid transition takeover token")
  | some token => do
    let exitCode ← args.withMcpLifecycleDeadlineFence pid options token
      (args.restoreWhileDeadlineOwned pid options token options.attempts 0)
    return .exited exitCode none

/-- A run, as far as nothing is thrown. -/
def runBody : TimerProgram RunEnd := do
  let current ← args.markerMatches pid
  if ¬current then return .exited 0 none
  else do
    let leased ← args.rebuildLeaseOwnerIsCurrent
    if leased then args.scheduleRetry pid .leaseOwnerAlive (.exited 0 none)
    else args.recoverWithToken pid options

/-- A run that has used none of the budget uses one attempt. -/
def countFailure (attemptsAtEntry : ℕ) : TimerProgram ℕ := do
  let used ← readAttemptsUsed
  if used = attemptsAtEntry then useAttempt else return used

/-- The failure is reported; where the containment is not terminal, the rest of the budget is left
to another run. -/
def retryOrExit (error : Failure) : TimerProgram RunEnd := do
  let terminal ← readTerminalContainment
  let used ← readAttemptsUsed
  if terminal = false ∧ used < options.attempts then
    args.scheduleRetry pid .failure (.exited 1 (some error))
  else return .exited 1 (some error)

/-- The terminal failure is reported, and the run ends or goes on later. -/
def reportTerminal (used : ℕ) : TimerProgram RunEnd := do
  let reported ← args.terminalRecoveryFailure pid used
  setTerminalContainment reported.isDurable
  args.retryOrExit pid options reported

/-- A failure of this timer's run counts, and the last one is terminal. -/
def failedWhileOwned (attemptsAtEntry : ℕ) (error : Failure) : TimerProgram RunEnd := do
  let used ← countFailure attemptsAtEntry
  if options.attempts ≤ used then args.reportTerminal pid options used
  else args.retryOrExit pid options error

/-- What a failure of the run leads to. -/
def runFailed (attemptsAtEntry : ℕ) (error : Failure) : TimerProgram RunEnd :=
  if error.isDurable then do
    setTerminalContainment true
    args.retryOrExit pid options error
  else do
    let current ← args.markerMatches pid
    if current then args.failedWhileOwned pid options attemptsAtEntry error
    else args.retryOrExit pid options error

/-- One run, within what is left of the attempts. -/
def runRestoreTimerWithBudget : TimerProgram RunEnd := do
  setTerminalContainment false
  let attemptsAtEntry ← readAttemptsUsed
  let result ← (args.runBody pid options).attempt
  match result with
  | .ok runEnd => return runEnd
  | .error error => args.runFailed pid options attemptsAtEntry error

end TimerArgs

end NemoClaw.Shields
