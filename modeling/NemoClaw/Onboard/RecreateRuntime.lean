import NemoClaw.Onboard.RecreateJournal

/- Recovery of a journaled sandbox replacement after a crash.

A run that finds a journal plans what to do with it from the registry row and one
look at the live sandbox, and then works through a runtime that looks again
before it deletes.

What is proved:
  1. `plan_acceptTarget_iff`, `plan_continueDelete_iff`, `plan_continueCreate_iff` —
     exactly when the plan is to adopt the replacement, to delete the source and
     to create without deleting; everything else is a rejection.
  2. `createSandboxRecreateRuntime_reject` — a rejected plan throws and leaves the
     session store as it was.
  3. A runtime that has not adopted the replacement lets a delete proceed only
     against the journaled source: row and live identity.

Correspondence (onboard/sandbox-recreate-transaction.ts ↔ Lean): definitions keep
the source's names. What `observe` answers is an argument of each operation that
looks. The variables the runtime closes over are `RuntimeVars`. The session store
is the `SandboxRecreateSessionStore` parameter.
-/
namespace NemoClaw.Onboard

open Js Js.Json

inductive SandboxRecreateRecoveryPlan where
  | continueDelete
  | continueCreate
  | acceptTarget
  | reject (reason : String)
  deriving DecidableEq

def rowField (registryEntry : Option SandboxEntry) (field : String) : Option Json :=
  registryEntry.bind (·.lookup field)

def sourceRegistered (api : FingerprintApi) (transaction : CheckpointSandboxRecreateTransaction)
    (registryEntry : Option SandboxEntry) : Bool :=
  registryEntry.any fun row =>
    fingerprintSandboxRegistryEntry api row = transaction.sourceRegistryFingerprint

def liveIsSource (transaction : CheckpointSandboxRecreateTransaction)
    (observation : SandboxRecreateObservation) : Bool :=
  truthy transaction.sourceLiveIdentityFingerprint &&
    observation.liveIdentityFingerprint = transaction.sourceLiveIdentityFingerprint

lemma liveIsSource_iff {transaction : CheckpointSandboxRecreateTransaction}
    {observation : SandboxRecreateObservation} :
    liveIsSource transaction observation ↔
      truthy transaction.sourceLiveIdentityFingerprint ∧
        observation.liveIdentityFingerprint = transaction.sourceLiveIdentityFingerprint := by
  simp [liveIsSource]

def planSandboxRecreateRecovery (api : FingerprintApi)
    (transaction : CheckpointSandboxRecreateTransaction)
    (observation : SandboxRecreateObservation) (registryEntry : Option SandboxEntry) :
    SandboxRecreateRecoveryPlan :=
  if readString (rowField registryEntry "lifecycleGeneration") =
      some transaction.targetGeneration then
    if truthy transaction.targetLiveIdentityFingerprint = false then
      .reject "the journal did not record the replacement live identity"
    else if readString (rowField registryEntry "lifecycleLiveIdentityFingerprint") ≠
        transaction.targetLiveIdentityFingerprint then
      .reject "the replacement registry row does not match the journaled live identity"
    else if observation.state ≠ .ready then
      .reject "the journaled replacement is registered but is not ready"
    else if observation.liveIdentityFingerprint ≠ transaction.targetLiveIdentityFingerprint then
      .reject "the ready same-name sandbox is not the journaled replacement"
    else
      .acceptTarget
  else
    match transaction.phase with
    | .completed =>
      .reject "the completed transaction no longer matches its replacement registry row"
    | .planned | .deleting =>
      if sourceRegistered api transaction registryEntry = false then
        .reject "the source registry row changed before deletion"
      else if observation.state = .missing then
        .continueCreate
      else if liveIsSource transaction observation = false then
        .reject "the live same-name sandbox no longer has the journaled source identity"
      else
        .continueDelete
    | .deleted | .creating =>
      if sourceRegistered api transaction registryEntry = false then
        .reject "the preserved source registry row changed"
      else if observation.state = .missing then
        .continueCreate
      else
        .reject "a live same-name sandbox appeared before replacement registration committed"
    | .created | .registryCommitting =>
      .reject "the replacement registration did not commit the journaled generation"

/-- The registry row, the journal and a ready live sandbox agree on the replacement. -/
def TargetProven (transaction : CheckpointSandboxRecreateTransaction)
    (observation : SandboxRecreateObservation) (registryEntry : Option SandboxEntry) : Prop :=
  truthy transaction.targetLiveIdentityFingerprint ∧
    readString (rowField registryEntry "lifecycleGeneration") =
      some transaction.targetGeneration ∧
    readString (rowField registryEntry "lifecycleLiveIdentityFingerprint") =
      transaction.targetLiveIdentityFingerprint ∧
    observation.state = .ready ∧
    observation.liveIdentityFingerprint = transaction.targetLiveIdentityFingerprint

/-- The row is not of the replacement, and is still the journaled source row. -/
def SourceHeld (api : FingerprintApi) (transaction : CheckpointSandboxRecreateTransaction)
    (registryEntry : Option SandboxEntry) : Prop :=
  readString (rowField registryEntry "lifecycleGeneration") ≠ some transaction.targetGeneration ∧
    sourceRegistered api transaction registryEntry

section Plan

variable {api : FingerprintApi} {t : CheckpointSandboxRecreateTransaction}
variable {observation : SandboxRecreateObservation} {row : Option SandboxEntry}

lemma plan_of_generation
    (h : readString (rowField row "lifecycleGeneration") = some t.targetGeneration) :
    (planSandboxRecreateRecovery api t observation row = .acceptTarget ∧
      TargetProven t observation row) ∨
    (∃ reason, planSandboxRecreateRecovery api t observation row = .reject reason) ∧
      ¬ TargetProven t observation row := by
  unfold planSandboxRecreateRecovery
  rw [if_pos h]
  split
  · next hidentity =>
    exact .inr ⟨⟨_, rfl⟩, fun hproven => by simp [hproven.1] at hidentity⟩
  next hidentity =>
  split
  · next hrow => exact .inr ⟨⟨_, rfl⟩, fun hproven => hrow hproven.2.2.1⟩
  next hrow =>
  split
  · next hready => exact .inr ⟨⟨_, rfl⟩, fun hproven => hready hproven.2.2.2.1⟩
  next hready =>
  split
  · next hlive => exact .inr ⟨⟨_, rfl⟩, fun hproven => hlive hproven.2.2.2.2⟩
  · next hlive =>
    refine .inl ⟨rfl, ?_, h, not_not.mp hrow, not_not.mp hready, not_not.mp hlive⟩
    simpa using hidentity

lemma plan_of_other_generation
    (h : readString (rowField row "lifecycleGeneration") ≠ some t.targetGeneration) :
    planSandboxRecreateRecovery api t observation row ≠ .acceptTarget := by
  unfold planSandboxRecreateRecovery
  rw [if_neg h]
  cases t.phase with
  | completed | created | registryCommitting => exact nofun
  | planned | deleting | deleted | creating =>
    intro hplan
    simp only at hplan
    split_ifs at hplan

theorem plan_acceptTarget_iff :
    planSandboxRecreateRecovery api t observation row = .acceptTarget ↔
      TargetProven t observation row := by
  by_cases h : readString (rowField row "lifecycleGeneration") = some t.targetGeneration
  · obtain ⟨hplan, hproven⟩ | ⟨⟨reason, hplan⟩, hproven⟩ :=
      @plan_of_generation api t observation row h
    · simp [hplan, hproven]
    · simp [hplan, hproven]
  · exact ⟨fun hplan => absurd hplan (plan_of_other_generation h), fun hproven =>
      absurd hproven.2.1 h⟩

theorem plan_continueDelete_iff :
    planSandboxRecreateRecovery api t observation row = .continueDelete ↔
      SourceHeld api t row ∧ (t.phase = .planned ∨ t.phase = .deleting) ∧
        observation.state ≠ .missing ∧ liveIsSource t observation := by
  by_cases h : readString (rowField row "lifecycleGeneration") = some t.targetGeneration
  · have hheld : ¬ SourceHeld api t row := fun hheld => hheld.1 h
    obtain ⟨hplan, -⟩ | ⟨⟨reason, hplan⟩, -⟩ :=
      @plan_of_generation api t observation row h <;> simp [hplan, hheld]
  · unfold planSandboxRecreateRecovery SourceHeld
    rw [if_neg h]
    cases t.phase <;> simp only [reduceCtorEq] <;> (try split_ifs) <;> simp_all

theorem plan_continueCreate_iff :
    planSandboxRecreateRecovery api t observation row = .continueCreate ↔
      SourceHeld api t row ∧
        t.phase.index < CheckpointSandboxRecreatePhase.created.index ∧
        observation.state = .missing := by
  by_cases h : readString (rowField row "lifecycleGeneration") = some t.targetGeneration
  · have hheld : ¬ SourceHeld api t row := fun hheld => hheld.1 h
    obtain ⟨hplan, -⟩ | ⟨⟨reason, hplan⟩, -⟩ :=
      @plan_of_generation api t observation row h <;> simp [hplan, hheld]
  · unfold planSandboxRecreateRecovery SourceHeld
    rw [if_neg h]
    cases t.phase <;> simp only [CheckpointSandboxRecreatePhase.index] <;> (try split_ifs) <;>
      simp_all

end Plan

/-! ## The runtime -/

/-- `SandboxCreateIntent["recreateTransaction"]`. -/
structure RecreateRequest where
  id : String
  targetGeneration : String
  targetIntentFingerprint : String

/-- The session store of a runtime: a mutator of the stored session may also assign
variables `τ` of its caller. -/
structure SandboxRecreateSessionStore (σ : Type) where
  loadSession : σ → Option Session
  updateSession : {τ α : Type} → Call (Session × τ) α → Call (σ × τ) α

/-- `session?.checkpoint?.sandboxRecreate`. -/
def storedTransaction (session : Option Session) : Option CheckpointSandboxRecreateTransaction :=
  (session.bind (·.checkpoint)).bind (·.sandboxRecreate)

def matchingSandboxRecreateTransaction (session : Option Session)
    (sandboxName gatewayName : String) (request : RecreateRequest) :
    Except String CheckpointSandboxRecreateTransaction :=
  let message := "Sandbox '" ++ sandboxName ++
    "' recreate journal does not match the requested replacement."
  match storedTransaction session with
  | none => .error message
  | some transaction => do
    require (transaction.id = request.id ∧
      transaction.sandboxName = sandboxName ∧
      transaction.gatewayName = gatewayName ∧
      transaction.targetIntentFingerprint = request.targetIntentFingerprint ∧
      transaction.targetGeneration = request.targetGeneration) message
    return transaction

structure SandboxRecreateSourceProof where
  transactionId : String
  sandboxName : String
  gatewayName : String
  gatewayPort : Nat
  sourceRegistryFingerprint : String
  sourceLiveIdentityFingerprint : Option String
  sourceConfirmedAbsent : Bool
  targetGeneration : String

def sandboxRecreateSourceProof (transaction : CheckpointSandboxRecreateTransaction) :
    SandboxRecreateSourceProof where
  transactionId := transaction.id
  sandboxName := transaction.sandboxName
  gatewayName := transaction.gatewayName
  gatewayPort := transaction.gatewayPort
  sourceRegistryFingerprint := transaction.sourceRegistryFingerprint
  sourceLiveIdentityFingerprint := transaction.sourceLiveIdentityFingerprint
  sourceConfirmedAbsent := sandboxRecreatePhaseReached transaction.phase .deleted
  targetGeneration := transaction.targetGeneration

structure SandboxRecreateSourceCheck where
  sandboxName : String
  gatewayName : String
  gatewayPort : Nat
  registryEntry : Option SandboxEntry
  observation : SandboxRecreateObservation

def assertSandboxRecreateSourceProof (api : FingerprintApi)
    (proof : Option SandboxRecreateSourceProof) (check : SandboxRecreateSourceCheck) :
    Except String SandboxRecreateSourceProof :=
  let fail (reason : String) : String :=
    "Cannot prove the source of sandbox '" ++ check.sandboxName ++ "' before recreation: " ++
      reason ++ "."
  match proof with
  | none => .error (fail "no active recreate transaction records the source sandbox")
  | some proof => do
    require (proof.sandboxName = check.sandboxName)
      (fail ("the active transaction records sandbox '" ++ proof.sandboxName ++ "'"))
    require (proof.gatewayName = check.gatewayName ∧ proof.gatewayPort = check.gatewayPort)
      (fail ("the active transaction records gateway '" ++ proof.gatewayName ++ ":" ++
        toString proof.gatewayPort ++ "'"))
    match check.registryEntry with
    | none => .error (fail "the source registry row is absent")
    | some row => do
      require (fingerprintSandboxRegistryEntry api row = proof.sourceRegistryFingerprint)
        (fail "the source registry row changed after the transaction recorded it")
      if check.observation.state = .missing then do
        require (proof.sourceConfirmedAbsent)
          (fail "the recreate journal has not confirmed source deletion")
        return proof
      else do
        require (truthy check.observation.liveIdentityFingerprint)
          (fail "the live same-name sandbox reports no OpenShell Id")
        require (check.observation.liveIdentityFingerprint = proof.sourceLiveIdentityFingerprint)
          (fail "the live same-name sandbox is not the recorded source")
        return proof

inductive SandboxRecreateSourcePresence where
  | missing
  | source
  deriving DecidableEq

/-- The variables a runtime closes over and assigns. -/
structure RuntimeVars where
  phase : CheckpointSandboxRecreatePhase
  targetLiveIdentityFingerprint : Option String

structure SandboxRecreateRuntime where
  acceptedTarget : Bool
  sandboxName : String
  transaction : Option CheckpointSandboxRecreateTransaction

def noSandboxRecreate : SandboxRecreateRuntime where
  acceptedTarget := false
  sandboxName := ""
  transaction := none

namespace SandboxRecreateRuntime

def sourceProof (runtime : SandboxRecreateRuntime) : Option SandboxRecreateSourceProof :=
  runtime.transaction.map sandboxRecreateSourceProof

section Ops

variable {σ : Type} (env : Env) (store : SandboxRecreateSessionStore σ)
variable (runtime : SandboxRecreateRuntime)

def advance (next : CheckpointSandboxRecreatePhase) (now : String) :
    Call (σ × RuntimeVars) Unit :=
  match runtime.transaction with
  | none => pure ()
  | some transaction =>
    store.updateSession do
      let advanced ← Call.onFst (advanceSandboxRecreateTransaction env transaction.id next now)
      modify fun (session, vars) => (session, { vars with phase := advanced.phase })

def beginDelete (live : SandboxRecreateObservation) (now : String) :
    Call (σ × RuntimeVars) SandboxRecreateSourcePresence :=
  match runtime.transaction with
  | none => throw ("Cannot delete a same-name sandbox: no recreate transaction proves" ++
      " ownership of the source sandbox. Open the recreate journal before deleting.")
  | some transaction => do
    Call.ofExcept (require (live.state = .missing ∨ liveIsSource transaction live)
      ("Cannot delete sandbox '" ++ runtime.sandboxName ++
        "': the live same-name sandbox is not the journaled source."))
    let (_, vars) ← get
    if sandboxRecreatePhaseReached vars.phase .deleted = false then
      runtime.advance env store .deleting now
    return if live.state = .missing then .missing else .source

def recordCreated (live : SandboxRecreateObservation) (now : String) :
    Call (σ × RuntimeVars) Unit :=
  match runtime.transaction with
  | none => pure ()
  | some transaction =>
    store.updateSession do
      let recorded ← Call.onFst (recordSandboxRecreateTargetCreated env transaction.id live now)
      modify fun (session, vars) => (session, { vars with
        targetLiveIdentityFingerprint := recorded.targetLiveIdentityFingerprint })

end Ops

end SandboxRecreateRuntime

section Create

variable {σ : Type} (env : Env) (api : FingerprintApi) (store : SandboxRecreateSessionStore σ)
variable (sandboxName gatewayName : String) (registryEntry : Option SandboxEntry)
variable (observation : SandboxRecreateObservation) (now : String)

def recoverSandboxRecreateRuntime (transaction : CheckpointSandboxRecreateTransaction) :
    Call σ (SandboxRecreateRuntime × RuntimeVars) := do
  let vars : RuntimeVars :=
    { phase := transaction.phase
      targetLiveIdentityFingerprint := transaction.targetLiveIdentityFingerprint }
  match planSandboxRecreateRecovery api transaction observation registryEntry with
  | .reject reason =>
    throw ("Cannot resume sandbox '" ++ sandboxName ++ "' recreation: " ++ reason ++ ".")
  | .acceptTarget => return (⟨true, sandboxName, some transaction⟩, vars)
  | .continueDelete => return (⟨false, sandboxName, some transaction⟩, vars)
  | .continueCreate =>
    let runtime := ⟨false, sandboxName, some transaction⟩
    if transaction.phase.index < CheckpointSandboxRecreatePhase.deleted.index then
      let stored ← get
      match (runtime.advance env store .deleted now).exec (stored, vars) with
      | (.ok _, stored', vars') => set stored'; return (runtime, vars')
      | (.error e, stored', _) => set stored'; throw e
    else
      return (runtime, vars)

def createSandboxRecreateRuntime (request : Option RecreateRequest) :
    Call σ (SandboxRecreateRuntime × RuntimeVars) := do
  match request with
  | none => return (noSandboxRecreate, ⟨.planned, none⟩)
  | some request =>
    let stored ← get
    let transaction ← Call.ofExcept (matchingSandboxRecreateTransaction
      (store.loadSession stored) sandboxName gatewayName request)
    recoverSandboxRecreateRuntime env api store sandboxName registryEntry observation now
      transaction

/-! ## Safety of the recovery -/

/-- What creating a runtime can answer: nothing journaled, or the stored transaction
under a plan that is no rejection. -/
inductive RuntimeFor (stored : σ) : SandboxRecreateRuntime → Prop where
  | unjournaled : RuntimeFor stored noSandboxRecreate
  | accepted (t : CheckpointSandboxRecreateTransaction)
    (hstored : storedTransaction (store.loadSession stored) = some t)
      (hproven : TargetProven t observation registryEntry) :
    RuntimeFor stored ⟨true, sandboxName, some t⟩
  | continued (t : CheckpointSandboxRecreateTransaction)
    (hstored : storedTransaction (store.loadSession stored) = some t)
      (hheld : SourceHeld api t registryEntry) :
    RuntimeFor stored ⟨false, sandboxName, some t⟩

variable {t : CheckpointSandboxRecreateTransaction}

lemma matchingSandboxRecreateTransaction_eq_ok {session : Option Session}
    {request : RecreateRequest}
    (h : matchingSandboxRecreateTransaction session sandboxName gatewayName request = .ok t) :
    storedTransaction session = some t := by
  unfold matchingSandboxRecreateTransaction at h
  simp only at h
  split at h
  · cases h
  next u hu =>
  obtain ⟨-, hok⟩ := require_bind_inv h
  cases hok; exact hu

lemma recoverSandboxRecreateRuntime_for {stored : σ}
    (hstored : storedTransaction (store.loadSession stored) = some t) :
    (recoverSandboxRecreateRuntime env api store sandboxName registryEntry observation now
      t).Ends stored fun outcome _ => ∀ runtime vars, outcome = .ok (runtime, vars) →
        RuntimeFor api store sandboxName registryEntry observation stored runtime := by
  unfold recoverSandboxRecreateRuntime
  simp only
  cases hplan : planSandboxRecreateRecovery api t observation registryEntry with
  | reject reason => exact Call.ends_throw fun _ _ h => by cases h
  | acceptTarget =>
    refine Call.ends_pure fun runtime vars h => ?_
    cases h; exact .accepted t hstored (plan_acceptTarget_iff.mp hplan)
  | continueDelete =>
    refine Call.ends_pure fun runtime vars h => ?_
    cases h; exact .continued t hstored (plan_continueDelete_iff.mp hplan).1
  | continueCreate =>
    have hheld := (plan_continueCreate_iff.mp hplan).1
    simp only
    split
    · refine Call.ends_get_bind ?_
      split
      · refine Call.ends_set_bind (Call.ends_pure fun runtime vars h => ?_)
        cases h; exact .continued t hstored hheld
      · exact Call.ends_set_bind (Call.ends_throw fun _ _ h => by cases h)
    · refine Call.ends_pure fun runtime vars h => ?_
      cases h; exact .continued t hstored hheld

lemma createSandboxRecreateRuntime_for (request : Option RecreateRequest) (stored : σ) :
    (createSandboxRecreateRuntime env api store sandboxName gatewayName registryEntry
      observation now request).Ends stored fun outcome _ => ∀ runtime vars,
        outcome = .ok (runtime, vars) →
          RuntimeFor api store sandboxName registryEntry observation stored runtime := by
  cases request with
  | none =>
    refine Call.ends_pure fun runtime vars h => ?_
    cases h; exact .unjournaled
  | some request =>
    refine Call.ends_get_bind ?_
    refine Call.ends_ofExcept_bind (fun t ht => ?_) fun _ _ _ _ h => by cases h
    exact recoverSandboxRecreateRuntime_for env api store sandboxName registryEntry observation
      now (matchingSandboxRecreateTransaction_eq_ok sandboxName gatewayName ht)

/-- A rejection throws before anything is stored. -/
theorem createSandboxRecreateRuntime_reject (request : RecreateRequest) (stored : σ)
    (h : ∀ t, matchingSandboxRecreateTransaction (store.loadSession stored) sandboxName
      gatewayName request = .ok t → ∃ reason,
        planSandboxRecreateRecovery api t observation registryEntry = .reject reason) :
    (createSandboxRecreateRuntime env api store sandboxName gatewayName registryEntry
      observation now (some request)).Ends stored fun outcome stored' =>
        (∃ e, outcome = .error e) ∧ stored' = stored := by
  refine Call.ends_get_bind ?_
  refine Call.ends_ofExcept_bind (fun t ht => ?_) fun e _ => ⟨⟨e, rfl⟩, rfl⟩
  obtain ⟨reason, hplan⟩ := h t ht
  unfold recoverSandboxRecreateRuntime
  simp only [hplan]; exact Call.ends_throw ⟨⟨_, rfl⟩, rfl⟩

lemma beginDelete_source (runtime : SandboxRecreateRuntime)
    (live : SandboxRecreateObservation) (s : σ × RuntimeVars)
    (h : ((runtime.beginDelete env store live now).exec s).1 = .ok .source) :
    ∃ t, runtime.transaction = some t ∧ liveIsSource t live := by
  unfold SandboxRecreateRuntime.beginDelete at h
  cases htransaction : runtime.transaction with
  | none => rw [htransaction] at h; cases h
  | some t =>
    refine ⟨t, rfl, ?_⟩
    rw [htransaction] at h
    obtain ⟨_, s1, hrequire, h⟩ := Call.exec_bind_inv h
    obtain ⟨_, s2, -, h⟩ := Call.exec_bind_inv h
    have hanswer : (if live.state = .missing then SandboxRecreateSourcePresence.missing
        else .source) = .source := by
      simp only at h
      split at h
      · obtain ⟨_, s3, -, h⟩ := Call.exec_bind_inv h; exact Except.ok.inj h
      · exact Except.ok.inj h
    have hlive := Call.ofExcept_inv hrequire
    rcases require_eq_ok hlive with hmissing | hsource
    · rw [if_pos hmissing] at hanswer; cases hanswer
    · exact hsource

lemma assertSandboxRecreateSourceProof_source {check : SandboxRecreateSourceCheck}
    {proof : SandboxRecreateSourceProof}
    (h : assertSandboxRecreateSourceProof api (some (sandboxRecreateSourceProof t)) check = .ok proof) :
    sourceRegistered api t check.registryEntry ∧
      (check.observation.state = .missing ∧
          sandboxRecreatePhaseReached t.phase .deleted ∨
        liveIsSource t check.observation) := by
  unfold assertSandboxRecreateSourceProof at h
  simp only at h; obtain ⟨-, h⟩ := require_bind_inv h
  obtain ⟨-, h⟩ := require_bind_inv h
  split at h
  · cases h
  next row hrow =>
  obtain ⟨hrowfp, h⟩ := require_bind_inv h
  have hintact : fingerprintSandboxRegistryEntry api row = t.sourceRegistryFingerprint := hrowfp
  refine ⟨by simpa [sourceRegistered, hrow] using hintact, ?_⟩
  split at h
  · next hmissing =>
    obtain ⟨habsent, -⟩ := require_bind_inv h; exact .inl ⟨hmissing, habsent⟩
  · obtain ⟨hid, h⟩ := require_bind_inv h
    obtain ⟨hlive, -⟩ := require_bind_inv h
    have hsource : check.observation.liveIdentityFingerprint =
      t.sourceLiveIdentityFingerprint := hlive
    exact .inr (liveIsSource_iff.mpr ⟨hsource ▸ hid, hsource⟩)

/-- Recovery is safe wherever the last run stopped: the plan adopts only a proven
replacement and continues only from the journaled source row, a rejection changes
nothing, and a runtime that did not adopt the replacement deletes only the source. -/
theorem sandboxRecreateRecovery_safe (request : Option RecreateRequest) (stored : σ) :
    (∀ t : CheckpointSandboxRecreateTransaction,
      (planSandboxRecreateRecovery api t observation registryEntry = .acceptTarget →
        TargetProven t observation registryEntry) ∧
      (planSandboxRecreateRecovery api t observation registryEntry = .continueDelete ∨
          planSandboxRecreateRecovery api t observation registryEntry = .continueCreate →
        sourceRegistered api t registryEntry)) ∧
    (∀ request', request = some request' →
      (∀ t, matchingSandboxRecreateTransaction (store.loadSession stored) sandboxName
        gatewayName request' = .ok t → ∃ reason,
          planSandboxRecreateRecovery api t observation registryEntry = .reject reason) →
      ∃ e, (createSandboxRecreateRuntime env api store sandboxName gatewayName registryEntry
        observation now request).exec stored = (.error e, stored)) ∧
    (∀ runtime vars, ((createSandboxRecreateRuntime env api store sandboxName gatewayName
        registryEntry observation now request).exec stored).1 = .ok (runtime, vars) →
      runtime.acceptedTarget = false → ∀ live later s,
        ((runtime.beginDelete env store live later).exec s).1 = .ok .source →
          ∃ t, storedTransaction (store.loadSession stored) = some t ∧
            truthy t.sourceLiveIdentityFingerprint ∧
            live.liveIdentityFingerprint = t.sourceLiveIdentityFingerprint ∧
            sourceRegistered api t registryEntry) := by
  refine ⟨fun t => ⟨plan_acceptTarget_iff.mp, fun hplan => ?_⟩, ?_, ?_⟩
  · rcases hplan with hplan | hplan
    · exact (plan_continueDelete_iff.mp hplan).1.2
    · exact (plan_continueCreate_iff.mp hplan).1.2
  · intro request' hrequest hreject
    obtain rfl := hrequest
    obtain ⟨⟨e, he⟩, hs⟩ := createSandboxRecreateRuntime_reject env api store sandboxName
      gatewayName registryEntry observation now request' stored hreject
    exact ⟨e, Prod.ext he hs⟩
  · intro runtime vars hcreated haccepted live later s hdelete
    obtain ⟨t, htransaction, hlive⟩ := beginDelete_source env store later runtime live s hdelete
    have hruntime := createSandboxRecreateRuntime_for env api store sandboxName gatewayName
      registryEntry observation now request stored runtime vars hcreated
    cases hruntime with
    | unjournaled => cases htransaction
    | accepted => cases haccepted
    | continued u hstored hheld =>
      obtain rfl := Option.some.inj htransaction
      obtain ⟨hidentity, hequal⟩ := liveIsSource_iff.mp hlive
      exact ⟨u, hstored, hidentity, hequal, hheld.2⟩

end Create

def memoryStore : SandboxRecreateSessionStore Session where
  loadSession := some
  updateSession := fun mutator => do
    let (session, vars) ← get
    match mutator.exec (session, vars) with
    | (.ok a, session', vars') => set (session', vars'); return a
    | (.error e, _, vars') => set (session, vars'); throw e

/-- The row of the replacement that `plainOps` records. -/
def replacementRow : SandboxEntry :=
  [("name", .str "my-assistant"), ("lifecycleGeneration", .str "g1"),
    ("lifecycleLiveIdentityFingerprint",
      .str "b0a03eeba83c3d46a37b3b1cd1cd7b5bed5aa5aad44e4ffdb3ac4a28dba0d3f7")]

/-- The library on the source row and on the replacement's row. -/
def rowsApi : FingerprintApi where
  localeLe := fun a b => decide (a ≤ b)
  stringify := fun
    | .obj [_] => "\x7b\"name\":\"my-assistant\"\x7d"
    | _ => "\x7b\"lifecycleGeneration\":\"g1\",\"lifecycleLiveIdentityFingerprint\":\"" ++
      "b0a03eeba83c3d46a37b3b1cd1cd7b5bed5aa5aad44e4ffdb3ac4a28dba0d3f7" ++
      "\",\"name\":\"my-assistant\"\x7d"
  sha256 := fun text =>
    if text = "\x7b\"name\":\"my-assistant\"\x7d" then
      "f46a3cc9a6dc99e6cc59e93ecd5ee23dd2cc136a5fd884879fbfd1f7c614b4cd"
    else "db05c64e7683855be7fa5e5bb683a6c4ea41857934bbf9020f3daffb891e2d60"

def plainRequest : RecreateRequest where
  id := "t1"
  targetGeneration := "g1"
  targetIntentFingerprint := "f46a3cc9a6dc99e6cc59e93ecd5ee23dd2cc136a5fd884879fbfd1f7c614b4cd"

/-- The source is still there, planned to be replaced. -/
def sourceSession : Session := journalRun plainEnv rowsApi [.begin plainBegin] plainSession

/-- The replacement is recorded and its row committed. -/
def replacedSession : Session := journalRun plainEnv rowsApi (plainOps.take 5) plainSession

def createThenBeginDelete (session : Session) (row : SandboxEntry)
    (observation live : SandboxRecreateObservation) :
    Except String (SandboxRecreateRuntime × SandboxRecreateSourcePresence) :=
  match (createSandboxRecreateRuntime plainEnv rowsApi memoryStore "my-assistant" "nemoclaw"
      (some row) observation newYear.val (some plainRequest)).exec session with
  | (.error e, _) => .error e
  | (.ok (runtime, vars), session') =>
    match ((runtime.beginDelete plainEnv memoryStore live newYear.val).exec
        (session', vars)).1 with
    | .error e => .error e
    | .ok presence => .ok (runtime, presence)

lemma createThenBeginDelete_inv {session : Session} {row : SandboxEntry}
    {observation live : SandboxRecreateObservation} {accepted : Bool}
    {presence : SandboxRecreateSourcePresence}
    (h : (createThenBeginDelete session row observation live).toOption.map
      (fun r => (r.1.acceptedTarget, r.2)) = some (accepted, presence)) :
    ∃ runtime vars s, ((createSandboxRecreateRuntime plainEnv rowsApi memoryStore "my-assistant"
        "nemoclaw" (some row) observation newYear.val (some plainRequest)).exec session).1 =
        .ok (runtime, vars) ∧ runtime.acceptedTarget = accepted ∧
      ((runtime.beginDelete plainEnv memoryStore live newYear.val).exec s).1 = .ok presence := by
  unfold createThenBeginDelete at h
  split at h
  · cases h
  next runtime vars session' hcreate =>
  refine ⟨runtime, vars, (session', vars), by rw [hcreate], ?_⟩
  split at h
  · cases h
  · next presence' hdelete =>
    obtain ⟨haccepted, hpresence⟩ := Prod.mk.inj (Option.some.inj h)
    exact ⟨haccepted, hpresence ▸ hdelete⟩

/-- The planned source may be deleted while it is what is live. -/
theorem sandboxRecreateRecovery_safe_source :
    ∃ t, storedTransaction (some sourceSession) = some t ∧
      truthy t.sourceLiveIdentityFingerprint ∧
      plainBegin.observation.liveIdentityFingerprint = t.sourceLiveIdentityFingerprint ∧
      sourceRegistered rowsApi t (some [("name", .str "my-assistant")]) := by
  have hrun : (createThenBeginDelete sourceSession [("name", .str "my-assistant")]
      plainBegin.observation plainBegin.observation).toOption.map
        (fun r => (r.1.acceptedTarget, r.2)) = some (false, .source) := by decide +kernel
  obtain ⟨runtime, vars, s, hcreate, haccepted, hdelete⟩ := createThenBeginDelete_inv hrun
  exact (sandboxRecreateRecovery_safe plainEnv rowsApi memoryStore "my-assistant" "nemoclaw"
    (some [("name", .str "my-assistant")]) plainBegin.observation newYear.val
    (some plainRequest) sourceSession).2.2 runtime vars hcreate haccepted _ _ s hdelete

/-- A runtime that adopted the replacement would still delete a sandbox that came back
under the source's identity, over a row that is no longer the source's. -/
theorem beginDelete_after_acceptTarget :
    ¬ ∀ (session : Session) (row : SandboxEntry) (observation live : SandboxRecreateObservation),
      (createThenBeginDelete session row observation live).toOption.map (·.2) = some .source →
        ∃ t, storedTransaction (some session) = some t ∧
          live.liveIdentityFingerprint = t.sourceLiveIdentityFingerprint ∧
          sourceRegistered rowsApi t (some row) := by
  intro h
  obtain ⟨t, hstored, -, hregistered⟩ := h replacedSession replacementRow
    ⟨.ready, some "b0a03eeba83c3d46a37b3b1cd1cd7b5bed5aa5aad44e4ffdb3ac4a28dba0d3f7"⟩
    ⟨.ready, some "34506f32c7e89dab5be5db97ab9f3ddcddb75c74ab52baaa97ef4b249b776a44"⟩
    (by decide +kernel)
  have hchanged : (storedTransaction (some replacedSession)).all
      (fun t => sourceRegistered rowsApi t (some replacementRow)) = false := by decide +kernel
  simp [hstored, hregistered] at hchanged

end NemoClaw.Onboard
