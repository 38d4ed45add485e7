import NemoClaw.Onboard.EngineLifecycle

/- Carrying a persisted engine lifecycle out.

`executePersistedEngineLifecycle` authorises the mutation, takes the execution lease and
runs the caller's mutation, which gives its commands to the engine through a scope that
checks the lease before and after each of them. The result is recorded before the lease
is given up.

Correspondence (runtime-provider/persisted-engine-lifecycle.ts ↔ Lean): the functions
keep their names. The caller's mutation is any program that asks for captures and sees
what each of them returns or throws. What the type of a mutation's result already says
is not checked again.
-/
namespace NemoClaw.EngineLifecycle

open Js CallTree PrivateFiles

/-- What is read of a `ContainerEngine`. -/
structure Engine where
  operation : OperationScope
  engineId : String
  authorityId : String

/-- `PersistedEngineLifecycleExecutionInput`. -/
structure Input where
  transactionId : String
  action : Action
  sandboxName : String
  resources : List Resource
  runtimeStateSha256 : String
  providerId : String
  bindingSha256 : String
  engine : Engine

def createPersistedEngineAuthority (providerId : String) (engine : Engine)
    (bindingSha256 : String) : Except Failure EngineAuthority :=
  normalizePersistedEngineAuthority
    { providerId, operation := engine.operation, engineId := engine.engineId
      authorityId := engine.authorityId, bindingSha256 }

/-- The comparisons of `requirePersistedEngineAuthority`. -/
def matchAuthority (authority qualified : EngineAuthority) : Except Failure EngineAuthority :=
  if authority.providerId ≠ qualified.providerId then
    .error (.invalid "Qualified runtime provider does not match persisted engine authority.")
  else if authority.operation ≠ qualified.operation then
    .error (.invalid
      "Qualified container-engine operation does not match persisted authority.")
  else if authority.engineId ≠ qualified.engineId then
    .error (.invalid "Qualified container-engine identity does not match persisted authority.")
  else if authority.authorityId ≠ qualified.authorityId then
    .error (.invalid "Qualified container endpoint does not match persisted authority.")
  else if authority.bindingSha256 ≠ qualified.bindingSha256 then
    .error (.invalid "Qualified runtime binding does not match persisted engine authority.")
  else .ok authority

def requirePersistedEngineAuthority (persisted : EngineAuthority) (providerId : String)
    (engine : Engine) (bindingSha256 : String) : Except Failure EngineAuthority := do
  let authority ← normalizePersistedEngineAuthority persisted
  let qualified ← createPersistedEngineAuthority providerId engine bindingSha256
  matchAuthority authority qualified

def matchCurrentAuthority (expected : EngineAuthority) (input : Input) :
    Option EngineAuthority → Except Failure EngineAuthority
  | none => .error (.invalid "Persisted sandbox-lifecycle engine authority is missing.")
  | some current => do
    let _ ← requirePersistedEngineAuthority current input.providerId input.engine
      input.bindingSha256
    let left ← normalizePersistedEngineAuthority current
    let right ← normalizePersistedEngineAuthority expected
    if left ≠ right then
      .error (.invalid "Persisted lifecycle engine authority changed after preparation.")
    else return current

def requireCurrentEngineAuthority (expected : EngineAuthority) (input : Input) :
    Program EngineAuthority := do
  if input.engine.operation ≠ .sandboxLifecycle then
    throwNew "Persisted lifecycle requires a sandbox-lifecycle container engine."
  else
    let loaded ← loadAuthority
    let current ← Tree.lift loaded
    Tree.lift (matchCurrentAuthority expected input current)

def expectedFrom (input : Input) : Option EngineAuthority → Except Failure Record
  | none => .error (.invalid "Persisted sandbox-lifecycle engine authority is missing.")
  | some authority => do
    let _ ← requirePersistedEngineAuthority authority input.providerId input.engine
      input.bindingSha256
    normalizePersistedEngineLifecycleRecord
      { transactionId := input.transactionId
        action := input.action
        phase := .prepared
        sandboxName := input.sandboxName
        resources := input.resources
        runtimeStateSha256 := input.runtimeStateSha256
        engineAuthority := authority
        resultSha256 := none }

def expectedRecord (input : Input) : Program Record := do
  let loaded ← loadAuthority
  let authority ← Tree.lift loaded
  Tree.lift (expectedFrom input authority)

def preparePersistedEngineLifecycle (input : Input) : Program Record := do
  let record ← expectedRecord input
  create record

def requireExpectedLifecycle (input : Input) : Program Record := do
  let expected ← expectedRecord input
  let current ← load input.transactionId
  match current with
  | none => throwNew "Persisted lifecycle transaction is missing."
  | some current =>
    Tree.lift (requireSameLifecycle expected current)
    let _ ← requireCurrentEngineAuthority current.engineAuthority input
    return current

/-- `PersistedEngineLifecycleExactCommand`. -/
structure ExactCommand where
  args : List String
  targetIndex : Int

/-- `captureExact` or `captureHostExact`, with its arguments. -/
structure CaptureRequest where
  host : Bool
  role : ResourceRole
  buildCommand : String → ExactCommand
  timeoutMs : Option ℕ

def maxArguments : ℕ := 512

def maxArgumentBytes : ℕ := 16 * 1024

def isExactArgument (value : String) : Bool :=
  !hasControlCharacter value && decide (value.utf8ByteSize ≤ maxArgumentBytes)

def exactArguments (command : ExactCommand) (runtimeId : String) :
    Except Failure (List String) :=
  if command.args.length = 0 ∨ maxArguments < command.args.length ∨ command.targetIndex < 0 ∨
      (command.args.length : Int) ≤ command.targetIndex then
    .error (.invalid "Exact runtime command has an invalid argument count.")
  else if ¬command.args.all isExactArgument then
    .error (.invalid ("Exact runtime command argument " ++
      toString (command.args.findIdx fun value => !isExactArgument value) ++ " is invalid."))
  else if command.args.count runtimeId ≠ 1 then
    .error (.invalid "Exact runtime command must contain its persisted runtime ID exactly once.")
  else if command.args[command.targetIndex.toNat]? ≠ some runtimeId then
    .error (.invalid "Exact runtime command target must be its persisted runtime ID.")
  else .ok command.args

/-- `guard` of `authorizedScope`. -/
def guardScope (input : Input) (lease : Lease) : Program Unit := do
  let current ← requireExpectedLifecycle input
  if current.phase ≠ .mutationAuthorized then
    throwNew "Persisted lifecycle mutation authority is no longer active."
  else assertMutationExecution lease

/-- The engine's error goes before one of the second guard. -/
def settleCapture (outcome : Except Failure CommandResult) (guarded : Except Failure Unit) :
    Except Failure CommandResult := do
  let result ← outcome
  guarded
  return result

/-- `capture` of `authorizedScope`, once the arguments are exact. -/
def captureArguments (input : Input) (lease : Lease) (command : Command) :
    Program CommandResult := do
  guardScope input lease
  let outcome ← captureCommand command
  let guarded ← (guardScope input lease).attempt
  Tree.lift (settleCapture outcome guarded)

def scopedArguments (record : Record) (request : CaptureRequest) :
    Except Failure (List String) :=
  match record.resources.find? fun candidate => candidate.role = request.role with
  | none => .error (.invalid ("Persisted lifecycle has no exact " ++ request.role.text ++
      " runtime authority."))
  | some resource => exactArguments (request.buildCommand resource.runtimeId) resource.runtimeId

/-- `capture` of `authorizedScope`. -/
def capture (input : Input) (record : Record) (lease : Lease) (request : CaptureRequest) :
    Program CommandResult := do
  let args ← Tree.lift (scopedArguments record request)
  captureArguments input lease ⟨request.host, args, request.timeoutMs⟩

/-- `PersistedEngineLifecycleMutationResult`. -/
structure MutationResult (V : Type) where
  resultSha256 : String
  value : V

/-- The caller's mutation: each capture returns or throws, and so does the mutation. -/
abbrev Mutation (V : Type) :=
  Tree CaptureRequest (fun _ => Except Failure CommandResult) Failure (MutationResult V)

structure Completion (V : Type) where
  record : Record
  value : V

variable {V : Type}

/-- `authorizedScope`: the mutation with its captures. -/
def authorizedScope (input : Input) (record : Record) (lease : Lease) (mutate : Mutation V) :
    Program (MutationResult V) :=
  mutate.interpret fun request => (capture input record lease request).attempt

def completeExpected (input : Input) (lease : Lease) (result : MutationResult V) :
    Program (Completion V) := do
  let resultSha256 ← Tree.lift (exactSha256 result.resultSha256 "completion result digest")
  let after ← requireExpectedLifecycle input
  if after.phase ≠ .mutationAuthorized then
    throwNew "Persisted lifecycle mutation authority changed before completion."
  else
    assertMutationExecution lease
    let completed ← complete lease resultSha256
    return { record := completed, value := result.value }

/-- The body of the `try`. -/
def mutateAndComplete (input : Input) (mutate : Mutation V) (authorized : Record)
    (lease : Lease) : Program (Completion V) := do
  let result ← authorizedScope input authorized lease mutate
  completeExpected input lease result

/-- The `finally`: an error of the release is dropped. -/
def releaseQuietly (lease : Lease) : Program Unit := do
  let _ ← (releaseMutationExecution lease).attempt
  return ()

/-- Until `acquireMutationExecution` has returned. -/
def enterExecution (caller : Caller) (input : Input) : Program (Record × Lease) := do
  let current ← requireExpectedLifecycle input
  if current.phase = .completed then
    throwNew "Persisted lifecycle transaction is already completed."
  else
    let authorized ← authorizeMutation input.transactionId
    let lease ← acquireMutationExecution caller input.transactionId
    return (authorized, lease)

/-- From then on. -/
def insideExecution (input : Input) (mutate : Mutation V) (authorized : Record)
    (lease : Lease) : Program (Completion V) :=
  (mutateAndComplete input mutate authorized lease).tryFinally (releaseQuietly lease)

def executePersistedEngineLifecycle (caller : Caller) (input : Input) (mutate : Mutation V) :
    Program (Completion V) := do
  let entered ← enterExecution caller input
  insideExecution input mutate entered.1 entered.2

end NemoClaw.EngineLifecycle
