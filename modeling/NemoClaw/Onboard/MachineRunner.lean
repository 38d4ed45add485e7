import NemoClaw.Js.Call
import NemoClaw.Onboard.Session

/- The runner of the onboarding machine (`machine/runner.ts`): it asks the handler of the
current state for results and applies them one by one.

Handlers, the runtime and the update of the context are arbitrary calls on a world. A run
keeps a record of the results it has handed to the runtime, each with the handler and the
list it comes from; nothing reads the record.

What is proved:
  1. `applyResults_logged` — what one list of results does to the record.
  2. `runOnboardMachine_inPlace` — a run applies no more results than its limit, each
     where it belongs, none behind a terminal state, a stop state or a pause, and returns
     only there.
  3. `runOnboardMachine_negInfinity` — the limit of a number that is not finite is the
     default one.

Correspondence (machine/runner.ts, machine/result.ts ↔ Lean): definitions keep the
source's names. The current state of the machine is that of the session the runtime
returned last; a session is a value. The updates of a result are left out: the runner
does not read them. The `while` loop is `runFrom`, the `for` loop `applyResults`.
-/
namespace NemoClaw.Onboard

open Js Call OnboardMachineState List

/-! ## Results and options -/

/-- What a handler's result does to the machine. -/
inductive OnboardStateResultType where
  | transition (next : OnboardMachineState) (transitionKind : Option TransitionKind)
  | pause
  | complete
  | failed (error step : Option String)
  deriving DecidableEq

/-- A result with what is told about it. -/
structure OnboardStateResult where
  type : OnboardStateResultType
  metadata : Option (List (String × Json))

/-- What a handler returns. -/
inductive OnboardStateHandlerResult where
  | one (result : OnboardStateResult)
  | many (results : List OnboardStateResult)

/-- The results in order. -/
def OnboardStateHandlerResult.results : OnboardStateHandlerResult → List OnboardStateResult
  | one result => [result]
  | many results => results

/-- A number as a caller may pass it. -/
inductive JsNumber where
  | finite (q : ℚ)
  | notANumber
  | infinity
  | negInfinity

/-- What the runner asks of its host. -/
structure OnboardMachineRunnerRuntime (W : Type) where
  session : Call W Session
  applyResult : OnboardStateResult → Call W Session

/-- An entry of `sequenceOwnership` may be present and undefined. -/
structure OnboardMachineRunnerOptions (Context W : Type) where
  context : Context
  runtime : OnboardMachineRunnerRuntime W
  handlers : OnboardMachineState → Option (Context → Call W OnboardStateHandlerResult)
  maxTransitions : Option JsNumber
  sequenceOwnership : OnboardMachineState → Option (Option (List OnboardMachineState))
  stopStates : List OnboardMachineState
  updateContext : Option (Context → OnboardMachineState → OnboardStateResult → Session →
    Call W Context)

/-- The error of a state without a handler. -/
def missingHandlerMessage (state : OnboardMachineState) : String :=
  "Missing onboarding machine handler for state: " ++ state.id

/-- The error of a machine that does not come to an end. -/
def transitionLimitMessage (maxTransitions : ℕ) : String :=
  "Onboarding machine exceeded transition limit: " ++ toString maxTransitions

/-- The error of a handler without results. -/
def emptyResultMessage (state : OnboardMachineState) : String :=
  "Onboarding machine handler for state '" ++ state.id ++ "' returned no results"

/-- How an error names a result of a list. -/
def sequenceItem (resultIndex : ℕ) : String :=
  "Onboarding machine result sequence item " ++ toString (resultIndex + 1) ++ " "

/-- The error of a result that is not from the current state. -/
def sequenceSourceMessage (currentState : OnboardMachineState) (resultIndex : ℕ) :
    Option String → String
  | none => sequenceItem resultIndex ++ "must declare a source state in metadata.state"
  | some sourceState =>
    if sourceState = "" then
      sequenceItem resultIndex ++ "must declare a source state in metadata.state"
    else sequenceItem resultIndex ++ "declares source state '" ++ sourceState ++
      "' but current state is '" ++ currentState.id ++ "'"

/-- The error of a result from a state that is not the handler's. -/
def sequenceOwnershipMessage (handlerState : OnboardMachineState) (resultIndex : ℕ)
    (sourceState : OnboardMachineState) : String :=
  sequenceItem resultIndex ++ "source state '" ++ sourceState.id ++
    "' is not owned by handler '" ++ handlerState.id ++ "'"

/-- The transitions that a run may make. -/
def defaultMaxTransitions : ℕ := 100

/-- The states that a handler may give results for besides its own. -/
def defaultSequenceOwnership : OnboardMachineState → Option (List OnboardMachineState)
  | providerSelection => some [inference]
  | _ => none

/-- The number without its fraction. -/
def mathTrunc (q : ℚ) : ℤ := q.num.tdiv q.den

/-- The limit, at least 1; a number that is not finite is not one. -/
def normalizeMaxTransitions : Option JsNumber → ℕ
  | some (.finite q) => (max 1 (mathTrunc q)).toNat
  | _ => defaultMaxTransitions

/-- The state that a result says it is from. -/
def resultSourceState (result : OnboardStateResult) : Option String :=
  result.metadata.bind fun metadata => readString (metadata.lookup "state")

/-- The source state of a result, which has to be the current one. -/
def assertResultSourceState (result : OnboardStateResult) (currentState : OnboardMachineState)
    (resultIndex : ℕ) (requireSourceState : Bool) :
    Except String (Option OnboardMachineState) :=
  let sourceState := resultSourceState result
  if sourceState = none ∨ sourceState = some "" then
    if requireSourceState then .error (sequenceSourceMessage currentState resultIndex sourceState)
    else .ok none
  else if sourceState = some currentState.id then .ok (some currentState)
  else .error (sequenceSourceMessage currentState resultIndex sourceState)

/-- A result that was applied, with the list it is from. -/
structure AppliedResult where
  handlerState : OnboardMachineState
  results : List OnboardStateResult
  resultIndex : ℕ
  result : OnboardStateResult
  before : OnboardMachineState
  after : Option OnboardMachineState

/-- A call on the world that keeps the record. -/
abbrev Run (W α : Type) := Call (W × List AppliedResult) α

/-- The variables of the loops. -/
structure Progress (Context : Type) where
  context : Context
  session : Session
  transitions : ℕ

def Progress.state {Context : Type} (progress : Progress Context) : OnboardMachineState :=
  progress.session.machine.state

/-- How the results of a list came to an end: a pause, or a `break` or the end of the list,
at least one transition later. -/
inductive ListEnd (Context : Type) (start : ℕ) where
  | paused (context : Context) (session : Session)
  | finished (progress : Progress Context) (h : start < progress.transitions)

section Runner

variable {Context W : Type} (options : OnboardMachineRunnerOptions Context W)

/-- `{ ...DEFAULT_SEQUENCE_OWNERSHIP, ...customSequenceOwnership }`, and `[]` for undefined. -/
def sequenceOwnershipOf (handlerState : OnboardMachineState) : List OnboardMachineState :=
  match options.sequenceOwnership handlerState with
  | some custom => custom.getD []
  | none => (defaultSequenceOwnership handlerState).getD []

/-- The states that a handler may give results for. -/
def sequenceSourceStatesForHandler (handlerState : OnboardMachineState) :
    List OnboardMachineState :=
  handlerState :: sequenceOwnershipOf options handlerState

/-- The source state is one of these. -/
def assertSequenceOwnership (sourceState handlerState : OnboardMachineState) (resultIndex : ℕ) :
    Except String Unit :=
  require (sourceState ∈ sequenceSourceStatesForHandler options handlerState)
    (sequenceOwnershipMessage handlerState resultIndex sourceState)

/-- The checks of one result in front of its application. -/
def assertInSequence (handlerState : OnboardMachineState) (requireSourceState : Bool)
    (resultIndex : ℕ) (result : OnboardStateResult) (currentState : OnboardMachineState) :
    Except String Unit := do
  let sourceState ← assertResultSourceState result currentState resultIndex requireSourceState
  match sourceState with
  | some sourceState =>
    if requireSourceState then assertSequenceOwnership options sourceState handlerState resultIndex
    else .ok ()
  | none => .ok ()

/-- The run is over in this state. -/
def stopsAt (state : OnboardMachineState) : Bool :=
  state.isTerminal || options.stopStates.contains state

/-- `runtime.applyResult(result)`, recorded. -/
def applyResult (handlerState : OnboardMachineState) (results : List OnboardStateResult)
    (resultIndex : ℕ) (result : OnboardStateResult) (before : OnboardMachineState) :
    Run W Session := do
  let (world, applied) ← get
  let entry := AppliedResult.mk handlerState results resultIndex result before
  match exec (options.runtime.applyResult result) world with
  | (.ok session, world) => do
    set (world, applied ++ [entry (some session.machine.state)])
    pure session
  | (.error e, world) => do
    set (world, applied ++ [entry none])
    throw e

/-- The context after a result, where the options change it. -/
def updatedContext (context : Context) (state : OnboardMachineState)
    (result : OnboardStateResult) (session : Session) : Run W Context :=
  match options.updateContext with
  | some updateContext => onFst (updateContext context state result session)
  | none => pure context

/-- The results of one list from `result` on; `start` is how many transitions there were
before the list. -/
def applyResults (transitionLimit : ℕ) (handlerState : OnboardMachineState)
    (results : List OnboardStateResult) (start : ℕ) :
    (resultIndex : ℕ) → (result : OnboardStateResult) → (rest : List OnboardStateResult) →
    (progress : Progress Context) → start ≤ progress.transitions →
    Run W (ListEnd Context start)
  | resultIndex, result, rest, progress, hstart =>
    if transitionLimit ≤ progress.transitions then
      throw (transitionLimitMessage transitionLimit)
    else do
      let resultState := progress.state
      Call.ofExcept (assertInSequence options handlerState (1 < results.length) resultIndex result
        resultState)
      let session ← applyResult options handlerState results resultIndex result resultState
      let context ← updatedContext options progress.context resultState result session
      if result.type = .pause then
        pure (.paused context session)
      else if stopsAt options session.machine.state then
        pure (.finished ⟨context, session, progress.transitions + 1⟩ (Nat.lt_succ_of_le hstart))
      else
        match rest with
        | [] =>
          pure (.finished ⟨context, session, progress.transitions + 1⟩ (Nat.lt_succ_of_le hstart))
        | next :: rest =>
          applyResults transitionLimit handlerState results start (resultIndex + 1) next rest
            ⟨context, session, progress.transitions + 1⟩ (Nat.le_succ_of_le hstart)

/-- The run, from where it has come to. -/
def runFrom (transitionLimit : ℕ) (progress : Progress Context) :
    Run W (Context × Session) :=
  if stopsAt options progress.state then pure (progress.context, progress.session)
  else if _h : transitionLimit ≤ progress.transitions then
    throw (transitionLimitMessage transitionLimit)
  else
    match options.handlers progress.state with
    | none => throw (missingHandlerMessage progress.state)
    | some handler => do
      let handlerResult ← onFst (handler progress.context)
      match handlerResult.results with
      | [] => throw (emptyResultMessage progress.state)
      | result :: rest => do
        let listEnd ← applyResults options transitionLimit progress.state handlerResult.results
          progress.transitions 0 result rest progress le_rfl
        match listEnd with
        | .paused context session => pure (context, session)
        | .finished next _hnext => runFrom transitionLimit next
termination_by transitionLimit - progress.transitions
decreasing_by omega

/-- The run from the session as it is. -/
def runOnboardMachine : Run W (Context × Session) := do
  let session ← onFst options.runtime.session
  runFrom options (normalizeMaxTransitions options.maxTransitions) ⟨options.context, session, 0⟩

end Runner

/-! ## What the record of a run says -/

/-- A result that was applied where it could be. -/
structure AppliedResult.InPlace {Context W : Type} (options : OnboardMachineRunnerOptions Context W)
    (entry : AppliedResult) : Prop where
  listed : entry.results[entry.resultIndex]? = some entry.result
  running : stopsAt options entry.before = false
  source : ∀ sourceState, resultSourceState entry.result = some sourceState →
    sourceState = "" ∨ sourceState = entry.before.id
  owned : 1 < entry.results.length → resultSourceState entry.result = some entry.before.id ∧
    entry.before ∈ sequenceSourceStatesForHandler options entry.handlerState

/-- The machine is next in the state that a result left it in, and the result is no pause. -/
def AppliedResult.LeadsTo (entry next : AppliedResult) : Prop :=
  entry.after = some next.before ∧ entry.result.type ≠ .pause

/-- The record of a run that has not returned, or has thrown. -/
structure Recorded {Context W : Type} (options : OnboardMachineRunnerOptions Context W)
    (transitionLimit : ℕ) (applied : List AppliedResult) : Prop where
  bounded : applied.length ≤ transitionLimit
  inPlace : ∀ entry ∈ applied, entry.InPlace options
  chained : applied.IsChain AppliedResult.LeadsTo

/-- What holds of a run under way. -/
structure Reached {Context W : Type} (options : OnboardMachineRunnerOptions Context W)
    (transitionLimit : ℕ) (progress : Progress Context) (applied : List AppliedResult) : Prop
    extends Recorded options transitionLimit applied where
  counted : applied.length = progress.transitions
  last : ∀ entry ∈ applied.getLast?, entry.after = some progress.state ∧ entry.result.type ≠ .pause

/-- The last result that was applied has paused the machine. -/
def PausedIn (session : Session) (applied : List AppliedResult) : Prop :=
  ∃ entry ∈ applied.getLast?, entry.result.type = .pause ∧
    entry.after = some session.machine.state

section Record

variable {Context W : Type} {options : OnboardMachineRunnerOptions Context W}
  {transitionLimit : ℕ} {progress : Progress Context} {applied : List AppliedResult}
  {entry : AppliedResult}

lemma recorded_nil : Recorded options transitionLimit [] where
  bounded := Nat.zero_le _
  inPlace := fun _ h => absurd h not_mem_nil
  chained := isChain_nil

lemma reached_start (transitionLimit : ℕ) (context : Context) (session : Session) :
    Reached options transitionLimit ⟨context, session, 0⟩ [] where
  toRecorded := recorded_nil
  counted := rfl
  last := by
    intro entry h; cases h

lemma Reached.record (h : Reached options transitionLimit progress applied)
    (hlimit : progress.transitions < transitionLimit) (hbefore : entry.before = progress.state)
    (hentry : entry.InPlace options) : Recorded options transitionLimit (applied ++ [entry]) where
  bounded := by
    rw [length_append, length_singleton, h.counted]; omega
  inPlace := by
    intro e he
    cases mem_append.mp he with
    | inl hold => exact h.inPlace e hold
    | inr hnew => rw [mem_singleton.mp hnew]; exact hentry
  chained := by
    refine isChain_append.mpr ⟨h.chained, isChain_singleton _, ?_⟩
    intro previous hprevious next hnext
    obtain ⟨hafter, hpause⟩ := h.last previous hprevious
    rw [← Option.some.inj hnext]; exact ⟨hafter.trans (congrArg some hbefore.symm), hpause⟩

lemma Recorded.reached {context : Context} {session : Session} {transitions : ℕ}
    (h : Recorded options transitionLimit (applied ++ [entry]))
    (hcounted : applied.length = transitions) (hafter : entry.after = some session.machine.state)
    (hpause : entry.result.type ≠ .pause) :
    Reached options transitionLimit ⟨context, session, transitions + 1⟩ (applied ++ [entry]) where
  toRecorded := h
  counted := by
    rw [length_append, length_singleton, hcounted]
  last := by
    intro e he
    rw [List.getLast?_concat] at he
    rw [← Option.some.inj he]; exact ⟨hafter, hpause⟩

end Record

section Checks

variable {Context W : Type} {options : OnboardMachineRunnerOptions Context W}
  {result : OnboardStateResult} {currentState handlerState : OnboardMachineState} {resultIndex : ℕ}

lemma assertResultSourceState_ok {requireSourceState : Bool}
    {sourceState : Option OnboardMachineState}
    (h : assertResultSourceState result currentState resultIndex requireSourceState =
      .ok sourceState) :
    (requireSourceState = false ∧ sourceState = none ∧
        (resultSourceState result = none ∨ resultSourceState result = some "")) ∨
      sourceState = some currentState ∧ resultSourceState result = some currentState.id := by
  unfold assertResultSourceState at h
  simp only at h
  split at h
  · next hnone =>
    split at h
    · cases h
    · next hrequire =>
      exact .inl ⟨Bool.eq_false_iff.mpr hrequire, (Except.ok.inj h).symm, hnone⟩
  · split at h
    · next hsource => exact .inr ⟨(Except.ok.inj h).symm, hsource⟩
    · cases h

lemma inPlace_of_assert {results : List OnboardStateResult} {after : Option OnboardMachineState}
    (hassert : assertInSequence options handlerState (1 < results.length) resultIndex result
      currentState = .ok ())
    (hlisted : results[resultIndex]? = some result)
    (hrunning : stopsAt options currentState = false) :
    AppliedResult.InPlace options
      ⟨handlerState, results, resultIndex, result, currentState, after⟩ := by
  obtain ⟨sourceState, hsource, hassert⟩ := except_bind_inv hassert
  refine ⟨hlisted, hrunning, ?_, ?_⟩
  · intro s hs
    rcases assertResultSourceState_ok hsource with ⟨_, _, hnone | hempty⟩ | ⟨_, hnamed⟩
    · rw [hnone] at hs; cases hs
    · rw [hempty] at hs; exact .inl (Option.some.inj hs).symm
    · rw [hnamed] at hs; exact .inr (Option.some.inj hs).symm
  · intro hmany
    rcases assertResultSourceState_ok hsource with ⟨hsingle, _⟩ | ⟨hstate, hnamed⟩
    · exact absurd hmany (of_decide_eq_false hsingle)
    · rw [hstate] at hassert
      simp only [decide_eq_true hmany, if_true] at hassert
      exact ⟨hnamed, require_eq_ok hassert⟩

end Checks

section Lists

variable {Context W : Type} {options : OnboardMachineRunnerOptions Context W}
  {transitionLimit : ℕ} {progress : Progress Context} {applied : List AppliedResult} {w : W}

variable {result : OnboardStateResult}

lemma exec_applyResult_ok {session : Session} {w' : W}
    (h : exec (options.runtime.applyResult result) w = (.ok session, w'))
    (handlerState : OnboardMachineState) (results : List OnboardStateResult) (resultIndex : ℕ)
    (before : OnboardMachineState) :
    exec (applyResult options handlerState results resultIndex result before) (w, applied) =
      (.ok session, (w', applied ++ [⟨handlerState, results, resultIndex, result, before,
        some session.machine.state⟩])) := by
  unfold applyResult
  rw [exec_bind_ok (exec_get _)]; simp only [h]; rfl

lemma exec_applyResult_error {e : String} {w' : W}
    (h : exec (options.runtime.applyResult result) w = (.error e, w'))
    (handlerState : OnboardMachineState) (results : List OnboardStateResult) (resultIndex : ℕ)
    (before : OnboardMachineState) :
    exec (applyResult options handlerState results resultIndex result before) (w, applied) =
      (.error e, (w', applied ++ [⟨handlerState, results, resultIndex, result, before, none⟩])) := by
  unfold applyResult
  rw [exec_bind_ok (exec_get _)]; simp only [h]; rfl

lemma ends_updatedContext_bind {β : Type} {context : Context} {state : OnboardMachineState}
    {session : Session} {f : Context → Run W β}
    {Q : Except String β → W × List AppliedResult → Prop}
    (hok : ∀ context w', Ends (f context) (w', applied) Q)
    (herror : ∀ e w', Q (.error e) (w', applied)) :
    Ends (updatedContext options context state result session >>= f) (w, applied) Q := by
  unfold updatedContext
  cases options.updateContext with
  | none => exact hok context w
  | some updateContext => exact ends_onFst_bind hok herror

/-- What holds after a list of results. -/
def AfterList (options : OnboardMachineRunnerOptions Context W) (transitionLimit : ℕ) {start : ℕ} :
    Except String (ListEnd Context start) → W × List AppliedResult → Prop
  | .ok (.paused _ session), (_, applied) =>
    Recorded options transitionLimit applied ∧ PausedIn session applied
  | .ok (.finished next _), (_, applied) => Reached options transitionLimit next applied
  | .error _, (_, applied) => Recorded options transitionLimit applied

/-- One result of a list: a throw or a pause ends the list, and otherwise it goes on as
`next` does. -/
lemma ends_result {handlerState : OnboardMachineState} {results : List OnboardStateResult}
    {start resultIndex : ℕ} {next : Context → Session → Run W (ListEnd Context start)}
    (hlisted : results[resultIndex]? = some result)
    (hrunning : stopsAt options progress.state = false)
    (hlimit : progress.transitions < transitionLimit)
    (h : Reached options transitionLimit progress applied)
    (hnext : ∀ context session w' applied', Reached options transitionLimit ⟨context, session,
      progress.transitions + 1⟩ applied' → Ends (next context session) (w', applied')
      (AfterList options transitionLimit)) :
    Ends (do
      Call.ofExcept (assertInSequence options handlerState (1 < results.length) resultIndex result
        progress.state)
      let session ← applyResult options handlerState results resultIndex result progress.state
      let context ← updatedContext options progress.context progress.state result session
      if result.type = .pause then pure (.paused context session) else next context session)
      (w, applied) (AfterList options transitionLimit) := by
  refine ends_ofExcept_bind (fun checked hassert => ?_) fun e _ => h.toRecorded
  have hinPlace : ∀ after, AppliedResult.InPlace options
      ⟨handlerState, results, resultIndex, result, progress.state, after⟩ :=
    fun _ => inPlace_of_assert hassert hlisted hrunning
  cases hexec : exec (options.runtime.applyResult result) w with
  | mk outcome w' =>
    cases outcome with
    | error e =>
      unfold Ends
      rw [exec_bind_error (exec_applyResult_error hexec ..)]
      exact h.record hlimit rfl (hinPlace none)
    | ok session =>
      have hrecord := h.record hlimit rfl (hinPlace (some session.machine.state))
      unfold Ends
      rw [exec_bind_ok (exec_applyResult_ok hexec ..)]
      refine ends_updatedContext_bind (Q := AfterList options transitionLimit)
        (fun context w'' => ?_) fun e w'' => hrecord
      split
      · next hpause =>
        have hlast : (applied ++ [⟨handlerState, results, resultIndex, result, progress.state,
            some session.machine.state⟩] : List AppliedResult).getLast? =
            some ⟨handlerState, results, resultIndex, result, progress.state,
              some session.machine.state⟩ := List.getLast?_concat
        exact ⟨hrecord, _, hlast, hpause, rfl⟩
      · next hpause => exact hnext _ _ _ _ (hrecord.reached h.counted rfl hpause)

theorem applyResults_logged {handlerState : OnboardMachineState} {results : List OnboardStateResult}
    {start : ℕ} (rest : List OnboardStateResult) {resultIndex : ℕ}
    (hresults : results.drop resultIndex = result :: rest) (hstart : start ≤ progress.transitions)
    (hrunning : stopsAt options progress.state = false)
    (h : Reached options transitionLimit progress applied) :
    Ends (applyResults options transitionLimit handlerState results start resultIndex result rest
      progress hstart) (w, applied) (AfterList options transitionLimit) := by
  have hlisted : results[resultIndex]? = some result := by
    rw [← List.head?_drop, hresults]; rfl
  induction rest generalizing resultIndex result progress applied w with
  | nil =>
    unfold applyResults
    split
    · exact h.toRecorded
    next hlimit =>
    refine ends_result hlisted hrunning (Nat.lt_of_not_le hlimit) h
      fun context session w' applied' h' => ?_
    split <;> exact h'
  | cons next rest ih =>
    unfold applyResults
    split
    · exact h.toRecorded
    next hlimit =>
    refine ends_result hlisted hrunning (Nat.lt_of_not_le hlimit) h
      fun context session w' applied' h' => ?_
    split
    · exact h'
    next hstops =>
    have hdrop : results.drop (resultIndex + 1) = next :: rest := by
      rw [← drop_drop, hresults]; rfl
    refine ih hdrop _ (Bool.eq_false_iff.mpr hstops) h' ?_
    rw [← List.head?_drop, hdrop]; rfl

end Lists

section Runs

variable {Context W : Type} {options : OnboardMachineRunnerOptions Context W}
  {transitionLimit : ℕ} {progress : Progress Context} {applied : List AppliedResult} {w : W}

/-- What holds when a run is over. -/
structure EndsInPlace (options : OnboardMachineRunnerOptions Context W) (transitionLimit : ℕ)
    (outcome : Except String (Context × Session)) (after : W × List AppliedResult) : Prop where
  recorded : Recorded options transitionLimit after.2
  returns : ∀ context session, outcome = .ok (context, session) →
    stopsAt options session.machine.state ∨ PausedIn session after.2

lemma endsInPlace_error {e : String} {after : W × List AppliedResult}
    (h : Recorded options transitionLimit after.2) :
    EndsInPlace options transitionLimit (.error e : Except String (Context × Session)) after where
  recorded := h
  returns := by
    intro context session hreturns; cases hreturns

/-- By induction on the transitions that are left: every list of results makes one. -/
lemma runFrom_endsInPlace (h : Reached options transitionLimit progress applied) :
    Ends (runFrom options transitionLimit progress) (w, applied)
      (EndsInPlace options transitionLimit) := by
  induction hleft : transitionLimit - progress.transitions using Nat.strong_induction_on
    generalizing progress applied w with
  | _ left ih =>
    rw [runFrom]
    split
    · next hstops =>
      refine ⟨h.toRecorded, ?_⟩
      intro context session hreturns
      obtain ⟨-, rfl⟩ := Prod.mk.inj (Except.ok.inj hreturns); exact .inl hstops
    · next hrunning =>
      split
      · exact endsInPlace_error h.toRecorded
      next hlimit =>
      split
      · exact endsInPlace_error h.toRecorded
      next handler hhandler =>
      refine ends_onFst_bind (fun handlerResult w' => ?_) fun e w' =>
        endsInPlace_error h.toRecorded
      split
      · exact endsInPlace_error h.toRecorded
      next result rest hresults =>
      have hdrop : handlerResult.results.drop 0 = result :: rest := hresults
      have hlist : Ends (applyResults options transitionLimit progress.state
          handlerResult.results progress.transitions 0 result rest progress le_rfl)
          (w', applied) (AfterList options transitionLimit) :=
        applyResults_logged rest hdrop le_rfl (Bool.eq_false_iff.mpr hrunning) h
      unfold Ends at hlist ⊢
      cases hexec : exec (applyResults options transitionLimit progress.state
          handlerResult.results progress.transitions 0 result rest progress le_rfl)
          (w', applied) with
      | mk outcome after =>
        rw [hexec] at hlist
        cases outcome with
        | error e => rw [exec_bind_error hexec]; exact endsInPlace_error hlist
        | ok listEnd =>
          rw [exec_bind_ok hexec]
          cases listEnd with
          | paused context session =>
            refine ⟨hlist.1, ?_⟩
            intro context' session' hreturns
            obtain ⟨-, rfl⟩ := Prod.mk.inj (Except.ok.inj hreturns)
            exact .inr hlist.2
          | finished next hnext =>
            have hless : transitionLimit - next.transitions < left := by omega
            exact ih _ hless hlist rfl

/-- A run applies no more results than its limit, each in its place, and none behind a
terminal state, a stop state or a pause; it returns only there, and throws otherwise. The
limit is the truncated number, but at least one, and the default one if the number is not
given or not finite. -/
theorem runOnboardMachine_inPlace (options : OnboardMachineRunnerOptions Context W) (w : W) :
    Ends (runOnboardMachine options) (w, []) fun outcome after =>
      EndsInPlace options (normalizeMaxTransitions options.maxTransitions) outcome after ∧
      (∀ q, options.maxTransitions = some (.finite q) →
        (after.2.length : ℤ) ≤ max 1 (mathTrunc q)) ∧
      ((∀ q, options.maxTransitions ≠ some (.finite q)) →
        after.2.length ≤ defaultMaxTransitions) := by
  have hends : Ends (runOnboardMachine options) (w, [])
      (EndsInPlace options (normalizeMaxTransitions options.maxTransitions)) := by
    refine ends_onFst_bind (fun session w' => ?_) fun e w' => ?_
    · exact runFrom_endsInPlace (reached_start _ _ _)
    · exact endsInPlace_error recorded_nil
  refine ⟨hends, fun q hfinite => ?_, fun hother => ?_⟩
  · have hbounded := hends.recorded.bounded
    have hlimit : normalizeMaxTransitions (some (.finite q)) = (max 1 (mathTrunc q)).toNat := rfl
    rw [hfinite, hlimit] at hbounded; omega
  · have hbounded := hends.recorded.bounded
    unfold normalizeMaxTransitions at hbounded
    split at hbounded
    · next q hfinite => exact absurd hfinite (hother q)
    · exact hbounded

end Runs

/-- A session in some state. -/
def sessionIn (state : OnboardMachineState) : Session :=
  { createSession plainEnv (plainAmbient "session-1") {} with
    machine := createMachineSnapshot state none 0 }

/-- A host that keeps the state only. -/
def stateRuntime : OnboardMachineRunnerRuntime OnboardMachineState where
  session := do
    let state ← get
    pure (sessionIn state)
  applyResult := fun result =>
    match result.type with
    | .transition next _ => do
      set next
      pure (sessionIn next)
    | .pause => do
      let state ← get
      pure (sessionIn state)
    | .complete => do
      set complete
      pure (sessionIn complete)
    | .failed _ _ => do
      set failed
      pure (sessionIn failed)

/-- Handlers for two states, the second of which completes. -/
def twoHandlers : OnboardMachineState → Option (Unit → Call OnboardMachineState
    OnboardStateHandlerResult)
  | init => some fun _ => pure (.one ⟨.transition preflight (some .advance), none⟩)
  | preflight => some fun _ => pure (.one ⟨.complete, none⟩)
  | _ => none

/-- The limit is negative infinity. -/
def belowEveryLimit : OnboardMachineRunnerOptions Unit OnboardMachineState where
  context := ()
  runtime := stateRuntime
  handlers := twoHandlers
  maxTransitions := some .negInfinity
  sequenceOwnership := fun _ => none
  stopStates := []
  updateContext := none

/-- The greater of one and a number below every other is one; two results are applied. -/
theorem runOnboardMachine_negInfinity :
    belowEveryLimit.maxTransitions = some .negInfinity ∧
      (exec (runOnboardMachine belowEveryLimit) (init, [])).2.2.length = 2 := by
  have hfirst : exec (runFrom belowEveryLimit 100 ⟨(), sessionIn init, 0⟩) (init, []) =
      exec (runFrom belowEveryLimit 100 ⟨(), sessionIn preflight, 1⟩) (preflight,
        [⟨init, [⟨.transition preflight (some .advance), none⟩], 0,
          ⟨.transition preflight (some .advance), none⟩, init, some preflight⟩]) := by
    rw [runFrom]; rfl
  have hsecond : ∀ applied, exec (runFrom belowEveryLimit 100 ⟨(), sessionIn preflight, 1⟩)
      (preflight, applied) = exec (runFrom belowEveryLimit 100 ⟨(), sessionIn complete, 2⟩)
        (complete, applied ++ [⟨preflight, [⟨.complete, none⟩], 0, ⟨.complete, none⟩, preflight,
          some complete⟩]) := by
    intro applied
    rw [runFrom]; rfl
  refine ⟨rfl, ?_⟩
  show (exec (runFrom belowEveryLimit 100 ⟨(), sessionIn init, 0⟩) (init, [])).2.2.length = 2
  rw [hfirst, hsecond, runFrom]; rfl

end NemoClaw.Onboard
