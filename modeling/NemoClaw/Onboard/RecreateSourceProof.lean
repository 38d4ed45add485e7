import NemoClaw.Onboard.RecreateRuntime

/- What the source proof of a recreate runtime is worth right after the recovery.

The runtime hands out the proof of the transaction as it was read. Recovery may have
advanced the journal in between, when the source is gone and the journal did not say so.

What is proved:
  1. `recoverSandboxRecreateRuntime_cases` — how a recovery that succeeds leaves the
     stored transaction.
  2. `assertSandboxRecreateSourceProof_iff` — what the assertion asks of a transaction.
  3. `sourceProof_follows_journal` — the proof is of the stored transaction and passes
     the assertion exactly when recovery had nothing to advance.
  4. `sourceProof_stale` — after a crash between the delete and its record it is not.
-/
namespace NemoClaw.Onboard

open Js Js.Json

structure SandboxRecreateSessionStore.Lawful {σ : Type} (store : SandboxRecreateSessionStore σ) :
    Prop where
  stores : ∀ {τ α : Type} (mutator : Call (Session × τ) α) {stored stored' : σ}
    {session : Session} {vars vars' : τ} {a : α}, store.loadSession stored = some session →
    (store.updateSession mutator).exec (stored, vars) = (.ok a, stored', vars') →
    ∃ session', mutator.exec (session, vars) = (.ok a, session', vars') ∧
      storedTransaction (store.loadSession stored') = storedTransaction (some session')

/-- The source is gone, and the journal is still before its deletion. -/
def AbsentUnconfirmed (transaction : CheckpointSandboxRecreateTransaction)
    (observation : SandboxRecreateObservation) : Prop :=
  observation.state = .missing ∧
    transaction.phase.index < CheckpointSandboxRecreatePhase.deleted.index

instance (transaction : CheckpointSandboxRecreateTransaction)
    (observation : SandboxRecreateObservation) :
    Decidable (AbsentUnconfirmed transaction observation) :=
  inferInstanceAs (Decidable (_ ∧ _))

section Assert

variable {api : FingerprintApi} {t : CheckpointSandboxRecreateTransaction}
variable {registryEntry : Option SandboxEntry} {observation : SandboxRecreateObservation}

theorem assertSandboxRecreateSourceProof_iff :
    (∃ proof, assertSandboxRecreateSourceProof api (some (sandboxRecreateSourceProof t))
      ⟨t.sandboxName, t.gatewayName, t.gatewayPort, registryEntry, observation⟩ = .ok proof) ↔
    sourceRegistered api t registryEntry ∧
      (observation.state = .missing → sandboxRecreatePhaseReached t.phase .deleted) ∧
      (observation.state ≠ .missing → liveIsSource t observation) := by
  constructor
  · rintro ⟨proof, h⟩
    obtain ⟨hregistered, hsource⟩ := assertSandboxRecreateSourceProof_source api h
    refine ⟨hregistered, fun hmissing => ?_, fun hpresent => ?_⟩
    · unfold assertSandboxRecreateSourceProof at h
      simp only at h; obtain ⟨-, h⟩ := require_bind_inv h
      obtain ⟨-, h⟩ := require_bind_inv h
      split at h
      · cases h
      obtain ⟨-, h⟩ := require_bind_inv h
      rw [if_pos hmissing] at h
      obtain ⟨habsent, -⟩ := require_bind_inv h; exact habsent
    · rcases hsource with ⟨hmissing, -⟩ | hlive
      · exact absurd hmissing hpresent
      · exact hlive
  · rintro ⟨hregistered, hmissing, hpresent⟩
    cases hrow : registryEntry with
    | none => rw [hrow] at hregistered; cases hregistered
    | some row =>
      rw [hrow] at hregistered
      have hintact : fingerprintSandboxRegistryEntry api row = t.sourceRegistryFingerprint :=
        of_decide_eq_true hregistered
      refine ⟨sandboxRecreateSourceProof t, ?_⟩
      refine require_bind_ok rfl (require_bind_ok ⟨rfl, rfl⟩ (require_bind_ok hintact ?_))
      by_cases hstate : observation.state = .missing
      · rw [if_pos hstate]; exact require_bind_ok (hmissing hstate) rfl
      · rw [if_neg hstate]
        obtain ⟨hidentity, hequal⟩ := liveIsSource_iff.mp (hpresent hstate)
        exact require_bind_ok (hequal ▸ hidentity) (require_bind_ok hequal rfl)

end Assert

section Recover

variable {σ : Type} {env : Env} {api : FingerprintApi} {store : SandboxRecreateSessionStore σ}
variable {sandboxName gatewayName : String} {registryEntry : Option SandboxEntry}
variable {observation : SandboxRecreateObservation} {now : String}
variable {t : CheckpointSandboxRecreateTransaction} {stored stored' : σ}
variable {runtime : SandboxRecreateRuntime} {vars : RuntimeVars}

lemma advance_stores_of {session session' : Session} {id : String}
    {phase : CheckpointSandboxRecreatePhase} {next : CheckpointSandboxRecreateTransaction}
    (h : (advanceSandboxRecreateTransaction env id phase now).exec session =
      (.ok next, session')) :
    next.phase = phase ∧ activeTransaction env session' = some next := by
  have hends : (advanceSandboxRecreateTransaction env id phase now).Ends session
      fun outcome s' => ∀ next, outcome = .ok next →
        next.phase = phase ∧ activeTransaction env s' = some next := by
    refine Call.ends_get_bind ?_
    refine Call.ends_ofExcept_bind (fun current hcurrent => ?_) fun _ _ _ h => by cases h
    obtain ⟨hactive, -⟩ := ownedTransaction_eq_ok hcurrent
    by_cases hphase : current.phase = phase
    · rw [if_pos hphase]
      refine Call.ends_pure fun next hnext => ?_
      cases hnext; exact ⟨hphase, hactive⟩
    · rw [if_neg hphase]
      refine Call.ends_ofExcept_bind (fun _ _ => ?_) fun _ _ _ h => by cases h
      refine Call.ends_set_bind (Call.ends_pure fun next hnext => ?_)
      cases hnext; exact ⟨rfl, activeTransaction_set env session now _⟩
  unfold Call.Ends at hends
  rw [h] at hends; exact hends next rfl

lemma storedTransaction_of_active {session : Session}
    (h : activeTransaction env session = some t) : storedTransaction (some session) = some t := by
  unfold activeTransaction baseCheckpoint at h
  unfold storedTransaction
  cases hcheckpoint : session.checkpoint with
  | none => rw [hcheckpoint] at h; cases h
  | some checkpoint =>
    rw [hcheckpoint] at h
    rw [Option.bind_some, hcheckpoint]; exact h

lemma SandboxRecreateRuntime.advance_stores (hstore : store.Lawful) {session : Session}
    (hload : store.loadSession stored = some session) (htransaction : runtime.transaction = some t)
    {phase : CheckpointSandboxRecreatePhase} {vars' : RuntimeVars} {u : Unit}
    (h : (runtime.advance env store phase now).exec (stored, vars) = (.ok u, stored', vars')) :
    ∃ next, storedTransaction (store.loadSession stored') = some next ∧ next.phase = phase := by
  unfold SandboxRecreateRuntime.advance at h
  rw [htransaction] at h
  obtain ⟨session', hmutator, hkept⟩ := hstore.stores _ hload h
  obtain ⟨next, ⟨session1, vars1⟩, hadvance, hmodify⟩ :=
    Call.exec_bind_inv (congrArg Prod.fst hmutator)
  have hsession : session1 = session' := by
    rw [Call.exec_bind_ok hadvance] at hmutator
    exact (Prod.mk.inj (Prod.mk.inj hmutator).2).1
  have hadvanced : (advanceSandboxRecreateTransaction env t.id phase now).exec session =
      (.ok next, session1) := by
    unfold Call.onFst at hadvance
    rw [Call.exec_bind_ok (Call.exec_get _)] at hadvance
    cases hrun : (advanceSandboxRecreateTransaction env t.id phase now).exec session with
    | mk outcome after =>
      simp only [hrun] at hadvance
      cases outcome with
      | ok value =>
        rw [Call.exec_bind_ok (Call.exec_set _ _), Call.exec_pure] at hadvance
        cases hadvance; rfl
      | error e =>
        rw [Call.exec_bind_ok (Call.exec_set _ _), Call.exec_throw] at hadvance
        cases hadvance
  obtain ⟨hphase, hactive⟩ := advance_stores_of hadvanced
  exact ⟨next, by rw [hkept, ← hsession, storedTransaction_of_active hactive], hphase⟩

/-- The replacement adopted or the source held, and nothing stored; or the deletion of the source
confirmed in the journal. -/
inductive Recovered (api : FingerprintApi) (store : SandboxRecreateSessionStore σ)
    (registryEntry : Option SandboxEntry) (observation : SandboxRecreateObservation)
    (t : CheckpointSandboxRecreateTransaction) (stored stored' : σ) : Prop where
  | adopted (hproven : TargetProven t observation registryEntry) (hkept : stored' = stored)
  | held (hheld : SourceHeld api t registryEntry)
    (hmissing : observation.state = .missing →
      sandboxRecreatePhaseReached t.phase .deleted)
    (hpresent : observation.state ≠ .missing → liveIsSource t observation)
    (hkept : stored' = stored)
  | confirmed (hheld : SourceHeld api t registryEntry) (habsent : AbsentUnconfirmed t observation)
    (hstored : ∃ next, storedTransaction (store.loadSession stored') = some next ∧
      next.phase = .deleted)

theorem recoverSandboxRecreateRuntime_cases (hstore : store.Lawful)
    (htransaction : storedTransaction (store.loadSession stored) = some t)
    (h : (recoverSandboxRecreateRuntime env api store sandboxName registryEntry observation now
      t).exec stored = (.ok (runtime, vars), stored')) :
    runtime.transaction = some t ∧
      Recovered api store registryEntry observation t stored stored' := by
  unfold recoverSandboxRecreateRuntime at h
  simp only at h
  cases hplan : planSandboxRecreateRecovery api t observation registryEntry with
  | reject reason => simp only [hplan] at h; cases h
  | acceptTarget =>
    simp only [hplan] at h
    cases h; exact ⟨rfl, .adopted (plan_acceptTarget_iff.mp hplan) rfl⟩
  | continueDelete =>
    simp only [hplan] at h
    cases h
    obtain ⟨hheld, -, hpresent, hlive⟩ := plan_continueDelete_iff.mp hplan
    exact ⟨rfl, .held hheld (fun hmissing => absurd hmissing hpresent) (fun _ => hlive) rfl⟩
  | continueCreate =>
    obtain ⟨hheld, -, hmissing⟩ := plan_continueCreate_iff.mp hplan
    simp only [hplan] at h
    split at h
    · next hbefore =>
      rw [Call.exec_bind_ok (Call.exec_get _)] at h
      cases hload : store.loadSession stored with
      | none => rw [hload] at htransaction; cases htransaction
      | some session =>
        cases hadvance : ((SandboxRecreateRuntime.mk false sandboxName (some t)).advance env store
            .deleted now).exec (stored, ⟨t.phase, t.targetLiveIdentityFingerprint⟩) with
        | mk outcome after =>
          obtain ⟨stored1, vars1⟩ := after
          simp only [hadvance] at h
          cases outcome with
          | ok u =>
            rw [Call.exec_bind_ok (Call.exec_set _ _), Call.exec_pure] at h
            cases h
            exact ⟨rfl, .confirmed hheld ⟨hmissing, hbefore⟩
              (SandboxRecreateRuntime.advance_stores hstore hload rfl hadvance)⟩
          | error e =>
            rw [Call.exec_bind_ok (Call.exec_set _ _), Call.exec_throw] at h; cases h
    · next hreached =>
      cases h
      refine ⟨rfl, .held hheld (fun _ => ?_) (fun hpresent => absurd hmissing hpresent) rfl⟩
      exact decide_eq_true (Nat.not_lt.mp hreached)

lemma createSandboxRecreateRuntime_recovers {request : RecreateRequest}
    (h : (createSandboxRecreateRuntime env api store sandboxName gatewayName registryEntry
      observation now (some request)).exec stored = (.ok (runtime, vars), stored')) :
    ∃ t, storedTransaction (store.loadSession stored) = some t ∧ t.sandboxName = sandboxName ∧
      t.gatewayName = gatewayName ∧
      (recoverSandboxRecreateRuntime env api store sandboxName registryEntry observation now
        t).exec stored = (.ok (runtime, vars), stored') := by
  unfold createSandboxRecreateRuntime at h
  simp only at h
  rw [Call.exec_bind_ok (Call.exec_get _)] at h
  cases hmatch : matchingSandboxRecreateTransaction (store.loadSession stored) sandboxName
      gatewayName request with
  | error e =>
    rw [hmatch, Call.exec_bind_error (Call.exec_ofExcept_error _ _)] at h; cases h
  | ok t =>
    rw [hmatch, Call.exec_bind_ok (Call.exec_ofExcept_ok _ _)] at h
    refine ⟨t, matchingSandboxRecreateTransaction_eq_ok sandboxName gatewayName hmatch, ?_⟩
    unfold matchingSandboxRecreateTransaction at hmatch
    simp only at hmatch
    split at hmatch
    · cases hmatch
    next u hu =>
    obtain ⟨⟨-, hname, hgateway, -⟩, hok⟩ := require_bind_inv hmatch
    cases hok; exact ⟨hname, hgateway, h⟩

end Recover

section Follows

variable {σ : Type} (env : Env) (api : FingerprintApi) (store : SandboxRecreateSessionStore σ)
variable (sandboxName gatewayName : String) (registryEntry : Option SandboxEntry)
variable (observation : SandboxRecreateObservation) (now : String)

/-- The proof of the runtime is that of the stored transaction, and passes the assertion. -/
def SourceProofFollows (runtime : SandboxRecreateRuntime) (stored' : σ) : Prop :=
  ∃ t, storedTransaction (store.loadSession stored') = some t ∧
    runtime.sourceProof = some (sandboxRecreateSourceProof t) ∧
    ∃ proof, assertSandboxRecreateSourceProof api runtime.sourceProof
      ⟨sandboxName, gatewayName, t.gatewayPort, registryEntry, observation⟩ = .ok proof

/-- Of a runtime that goes on from the source, the proof follows the journal exactly if
recovery did not find the source gone before the journal said so. Of one that adopts the
replacement it does if row and sandbox are, for all that, the source's too. -/
theorem sourceProof_follows_journal (hstore : store.Lawful) (request : RecreateRequest)
    (stored stored' : σ) (runtime : SandboxRecreateRuntime) (vars : RuntimeVars)
    (h : (createSandboxRecreateRuntime env api store sandboxName gatewayName registryEntry
      observation now (some request)).exec stored = (.ok (runtime, vars), stored')) :
    ∃ t, storedTransaction (store.loadSession stored) = some t ∧
      (SourceProofFollows api store sandboxName gatewayName registryEntry observation runtime
          stored' ↔
        (¬ TargetProven t observation registryEntry ∧ ¬ AbsentUnconfirmed t observation) ∨
        (TargetProven t observation registryEntry ∧
          sourceRegistered api t registryEntry ∧ liveIsSource t observation)) := by
  obtain ⟨t, hstored, hname, hgateway, hrecover⟩ := createSandboxRecreateRuntime_recovers h
  obtain ⟨htransaction, hrecovered⟩ := recoverSandboxRecreateRuntime_cases hstore hstored hrecover
  have hproof : runtime.sourceProof = some (sandboxRecreateSourceProof t) := by
    unfold SandboxRecreateRuntime.sourceProof
    rw [htransaction, Option.map_some]
  have hkept : stored' = stored → (SourceProofFollows api store sandboxName gatewayName
      registryEntry observation runtime stored' ↔ sourceRegistered api t registryEntry ∧
        (observation.state = .missing → sandboxRecreatePhaseReached t.phase .deleted) ∧
        (observation.state ≠ .missing → liveIsSource t observation)) := by
    intro heq
    rw [← assertSandboxRecreateSourceProof_iff, hname, hgateway]
    unfold SourceProofFollows
    rw [heq, hstored, hproof]
    constructor
    · intro ⟨u, hu, _, hassert⟩
      cases hu; exact hassert
    · intro hassert; exact ⟨t, rfl, rfl, hassert⟩
  refine ⟨t, hstored, ?_⟩
  cases hrecovered with
  | adopted hproven heq =>
    have hready := hproven.2.2.2.1
    rw [hkept heq, hready]; simp [hproven]
  | held hheld hmissing hpresent heq =>
    have hother : ¬ TargetProven t observation registryEntry := fun hproven =>
      hheld.1 hproven.2.1
    have hconfirmed : ¬ AbsentUnconfirmed t observation := by
      intro ⟨hstate, hbefore⟩
      have hreached := of_decide_eq_true (hmissing hstate); omega
    rw [hkept heq]
    exact ⟨fun _ => .inl ⟨hother, hconfirmed⟩, fun _ => ⟨hheld.2, hmissing, hpresent⟩⟩
  | confirmed hheld habsent hnext =>
    obtain ⟨next, hnext, hphase⟩ := hnext
    have hother : ¬ TargetProven t observation registryEntry := fun hproven =>
      hheld.1 hproven.2.1
    constructor
    · intro ⟨u, hu, heq, _⟩
      rw [hnext] at hu
      cases hu
      rw [hproof] at heq
      -- The proof was made before the advance, and says that the source is not confirmed absent.
      have hconfirmed : sandboxRecreatePhaseReached t.phase .deleted =
          sandboxRecreatePhaseReached next.phase .deleted :=
        congrArg SandboxRecreateSourceProof.sourceConfirmedAbsent (Option.some.inj heq)
      rw [hphase] at hconfirmed
      have hreached := of_decide_eq_true (hconfirmed.trans (by decide))
      have hbefore := habsent.2; omega
    · intro hcond
      rcases hcond with ⟨-, hconfirmed⟩ | ⟨hproven, -⟩
      · exact absurd habsent hconfirmed
      · exact absurd hproven hother

end Follows

lemma memoryStore_lawful : memoryStore.Lawful where
  stores := by
    intro τ α mutator stored stored' session vars vars' a hload h
    cases hload
    unfold memoryStore at h
    simp only at h
    rw [Call.exec_bind_ok (Call.exec_get _)] at h
    cases hrun : mutator.exec (stored, vars) with
    | mk outcome after =>
      obtain ⟨session', vars1⟩ := after
      simp only [hrun] at h
      cases outcome with
      | ok b =>
        rw [Call.exec_bind_ok (Call.exec_set _ _), Call.exec_pure] at h
        cases h; exact ⟨_, rfl, rfl⟩
      | error e => rw [Call.exec_bind_ok (Call.exec_set _ _), Call.exec_throw] at h; cases h

def sourceRow : SandboxEntry := [("name", .str "my-assistant")]

/-- While the source is live its proof follows the journal. -/
theorem sourceProof_follows_journal_live : ∃ runtime session',
    SourceProofFollows rowsApi memoryStore "my-assistant" "nemoclaw" (some sourceRow)
      plainBegin.observation runtime session' := by
  have hrun : ((createSandboxRecreateRuntime plainEnv rowsApi memoryStore "my-assistant"
      "nemoclaw" (some sourceRow) plainBegin.observation newYear.val
      (some plainRequest)).exec sourceSession).1.toOption.isSome := by decide +kernel
  cases hexec : (createSandboxRecreateRuntime plainEnv rowsApi memoryStore "my-assistant"
      "nemoclaw" (some sourceRow) plainBegin.observation newYear.val
      (some plainRequest)).exec sourceSession with
  | mk outcome session' =>
    rw [hexec] at hrun
    cases outcome with
    | error e => cases hrun
    | ok value =>
    obtain ⟨runtime, vars⟩ := value
    obtain ⟨t, -, hfollows⟩ := sourceProof_follows_journal plainEnv rowsApi memoryStore
      "my-assistant" "nemoclaw" (some sourceRow) plainBegin.observation newYear.val
      memoryStore_lawful plainRequest sourceSession session' runtime vars hexec
    refine ⟨runtime, session', hfollows.mpr (.inl ⟨fun hproven => ?_, fun habsent => ?_⟩)⟩
    · have hgeneration : readString (rowField (some sourceRow) "lifecycleGeneration") = none := by
        decide
      rw [hproven.2.1] at hgeneration; cases hgeneration
    · exact absurd habsent.1 (by decide)

/-- Create the runtime over a missing sandbox: the phase then stored, and what the assertion
of its proof throws. -/
def assertAfterCrash : Option CheckpointSandboxRecreatePhase × Option String :=
  let created := (createSandboxRecreateRuntime plainEnv rowsApi memoryStore "my-assistant"
    "nemoclaw" (some sourceRow) ⟨.missing, none⟩ newYear.val (some plainRequest)).exec
    sourceSession
  let asserted := created.1.toOption.map fun created =>
    assertSandboxRecreateSourceProof rowsApi created.1.sourceProof
      ⟨"my-assistant", "nemoclaw", plainBegin.gatewayPort, some sourceRow, ⟨.missing, none⟩⟩
  ((storedTransaction (some created.2)).map (·.phase),
    asserted.bind fun
      | .ok _ => none
      | .error e => some e)

/-- The delete went through and the process died before the journal said so. The next run
advances the journal to deleted, and hands out a proof that denies it. -/
theorem sourceProof_stale : assertAfterCrash = (some .deleted,
    some ("Cannot prove the source of sandbox 'my-assistant' before recreation: " ++
      "the recreate journal has not confirmed source deletion.")) := by
  decide +kernel

end NemoClaw.Onboard
