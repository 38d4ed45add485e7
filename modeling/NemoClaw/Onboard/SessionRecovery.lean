import NemoClaw.Onboard.SessionUpdate

/- Recovering a session whose machine stands in a terminal state.

A resumed session is put back to the state that its steps say it failed in, with a receipt
that stays in the machine snapshot until the machine moves on. The receipt is checked
against the snapshot whenever the session is read.

What is proved:
  1. `planSessionRecovery_total` — the state to resume in is never terminal, so a plan is
     always made.
  2. `parseMachineSnapshot_fits` — a snapshot whose receipt fits it is read back as it is,
     and `normalizeSession_fits`: every session read has such a snapshot.
  3. `applySessionRecovery_survives` — the recovered session is saved and loaded with its
     receipt, needs no recovery again, and loses the receipt with the next move.
  4. `applySessionRecovery_complete` — a session that is complete and not resumable stays
     in its terminal state.

Correspondence (onboard/session-recovery.ts, resume-machine-repair.ts,
resume-repair-policy.ts, machine/runtime.ts ↔ Lean): definitions keep the source's names.
An error is its message. That the digest of a receipt is a SHA-256 digest is the
assumption `hdigest`.
-/
namespace NemoClaw.Onboard

open Js Js.Json Option

/-! ## The plan -/

inductive KeepReason where
  | nonterminalSnapshot
  | completedNonresumableSnapshot
  deriving DecidableEq

inductive ResumeRepairPolicyDecision where
  | repair (reason : RecoveryReason)
  | keep (reason : KeepReason)

def classifyResumeMachineRepair (session : Session) : ResumeRepairPolicyDecision :=
  if session.machine.state = .failed then .repair .failedTerminalSnapshot
  else if session.machine.state ≠ .complete then .keep .nonterminalSnapshot
  else if session.status ≠ "complete" ∨ session.resumable ≠ false then
    .repair .reopenedCompleteSnapshot
  else .keep .completedNonresumableSnapshot

def activeState (session : Session) (stepName : Option String) : Option OnboardMachineState :=
  (stepName.bind StepName.ofKey).bind fun n =>
    if (session.steps n).status = .failed ∨ (session.steps n).status = .inProgress then
      some n.toMachineState
    else none

def activeStepMachineState (session : Session) : Option OnboardMachineState :=
  (activeState session (session.failure.bind (·.step))).or
    (activeState session session.lastStepStarted)

def resumeMachineState (session : Session) : OnboardMachineState :=
  ((activeStepMachineState session).or
    (nextMachineStateAfterCompletedStep session.lastCompletedStep session.agent)).getD .init

/-- The message of `UnrecoverableSessionError`. -/
def unrecoverableMessage (derivedEntry : OnboardMachineState) : String :=
  "Cannot recover onboarding session: derived resume entry '" ++ derivedEntry.id ++
    "' is not a legal non-terminal state."

def assertRecoverableEntry (entry : OnboardMachineState) : Except String OnboardMachineState :=
  if entry.isTerminal then .error (unrecoverableMessage entry) else .ok entry

inductive SessionRecoveryPlan where
  | recover (reason : RecoveryReason) (entry : OnboardMachineState)
  | keep (reason : KeepReason)
  deriving DecidableEq

def planSessionRecovery (session : Session) : Except String SessionRecoveryPlan :=
  match classifyResumeMachineRepair session with
  | .keep reason => .ok (.keep reason)
  | .repair reason => do
    let entry ← assertRecoverableEntry (resumeMachineState session)
    return .recover reason entry

def assertCanonicalRecoveryTimestamp (value : String) : Except String Unit :=
  require (isCanonicalIsoTimestamp value)
    "Session recovery requires a canonical ISO timestamp."

def recoveredSnapshot (env : Env) (session : Session) (reason : RecoveryReason)
    (entry : OnboardMachineState) (appliedAt : String) : OnboardMachineSnapshot :=
  let revision := session.machine.revision + 1
  { state := entry
    stateEnteredAt := some appliedAt
    revision
    recoveryReceipt := some
      { id := env.createSessionRecoveryReceiptId session.sessionId revision reason entry
        reason, entry, appliedAt, revision } }

def recoveredSession (env : Env) (session : Session) (reason : RecoveryReason)
    (entry : OnboardMachineState) (appliedAt : String) : Session :=
  { session with machine := recoveredSnapshot env session reason entry appliedAt }

def applySessionRecovery (env : Env) (session : Session) (stateEnteredAt : String) :
    Except String (SessionRecoveryPlan × Session) := do
  let plan ← planSessionRecovery session
  match plan with
  | .keep _ => return (plan, session)
  | .recover reason entry => do
    assertCanonicalRecoveryTimestamp stateEnteredAt
    return (plan, recoveredSession env session reason entry stateEnteredAt)

lemma activeState_nonterminal {session : Session} {stepName : Option String}
    {state : OnboardMachineState} (h : activeState session stepName = some state) :
    state.isTerminal = false := by
  obtain ⟨n, -, h⟩ := bind_eq_some_iff.mp h
  split at h
  · rw [← some.inj h]
    cases n <;> rfl
  · cases h

lemma next_nonterminal {stepName agent : Option String} {state : OnboardMachineState}
    (h : nextMachineStateAfterCompletedStep stepName agent = some state) :
    state.isTerminal = false := by
  unfold nextMachineStateAfterCompletedStep at h
  split at h
  case h_5 =>
    split at h
    all_goals
      rw [← some.inj h]; rfl
  case h_9 => cases h
  all_goals
    rw [← some.inj h]; rfl

lemma resumeMachineState_nonterminal (session : Session) :
    (resumeMachineState session).isTerminal = false := by
  unfold resumeMachineState activeStepMachineState
  cases hfailed : activeState session (session.failure.bind (·.step)) with
  | some state => exact activeState_nonterminal hfailed
  | none =>
  cases hstarted : activeState session session.lastStepStarted with
  | some state => exact activeState_nonterminal hstarted
  | none =>
  cases hnext : nextMachineStateAfterCompletedStep session.lastCompletedStep
      session.agent with
  | some state => exact next_nonterminal hnext
  | none => rfl

theorem planSessionRecovery_total (session : Session) :
    planSessionRecovery session =
      match classifyResumeMachineRepair session with
      | .keep reason => .ok (.keep reason)
      | .repair reason => .ok (.recover reason (resumeMachineState session)) := by
  unfold planSessionRecovery assertRecoverableEntry
  rw [resumeMachineState_nonterminal]; rfl

lemma planSessionRecovery_nonterminal {session : Session}
    (h : session.machine.state.isTerminal = false) :
    planSessionRecovery session = .ok (.keep .nonterminalSnapshot) := by
  have hfailed : session.machine.state ≠ .failed := by
    intro hstate
    rw [hstate] at h; cases h
  have hcomplete : session.machine.state ≠ .complete := by
    intro hstate
    rw [hstate] at h; cases h
  rw [planSessionRecovery_total]
  unfold classifyResumeMachineRepair
  rw [if_neg hfailed, if_pos hcomplete]

structure ReceiptFits (env : Env) (sessionId : String) (m : OnboardMachineSnapshot)
    (r : SessionRecoveryReceipt) : Prop where
  digest : isSha256 r.id
  nonterminal : r.entry.isTerminal = false
  canonical : isCanonicalIsoTimestamp r.appliedAt
  entry : r.entry = m.state
  appliedAt : some r.appliedAt = m.stateEnteredAt
  revision : r.revision = m.revision
  id : r.id = env.createSessionRecoveryReceiptId sessionId r.revision r.reason r.entry

def SnapshotFits (env : Env) (sessionId : String) (m : OnboardMachineSnapshot) : Prop :=
  ∀ r, m.recoveryReceipt = some r → ReceiptFits env sessionId m r

section Fits

variable {env : Env} {sessionId : String} {m : OnboardMachineSnapshot}

lemma parseSessionRecoveryReceipt_fits {r : SessionRecoveryReceipt}
    (h : ReceiptFits env sessionId m r) :
    parseSessionRecoveryReceipt env (some r.toJson) m.state m.stateEnteredAt m.revision
      sessionId = some r := by
  have hreason : readEnum RecoveryReason.id
      [.failedTerminalSnapshot, .reopenedCompleteSnapshot] (some (.str r.reason.id)) =
      some r.reason := by
    cases r.reason <;> rfl
  refine parse_bind rfl (parse_bind rfl (parse_guard h.digest (parse_bind hreason ?_)))
  refine parse_bind (readMachineState_id r.entry) (parse_guard h.nonterminal ?_)
  refine parse_bind (readCanonicalIsoTimestamp_str h.canonical) ?_
  refine parse_bind (readNat_ofNat r.revision) (parse_guard h.entry ?_)
  exact parse_guard h.appliedAt (parse_guard h.revision (parse_guard h.id rfl))

lemma receiptFits_of_parse {value : Option Json} {r : SessionRecoveryReceipt}
    (h : parseSessionRecoveryReceipt env value m.state m.stateEnteredAt m.revision sessionId =
      some r) : ReceiptFits env sessionId m r := by
  obtain ⟨fields, -, h⟩ := parse_bind_inv h
  obtain ⟨id, -, h⟩ := parse_bind_inv h
  obtain ⟨hdigest, h⟩ := parse_guard_inv h
  obtain ⟨reason, -, h⟩ := parse_bind_inv h
  obtain ⟨entry, -, h⟩ := parse_bind_inv h
  obtain ⟨hnonterminal, h⟩ := parse_guard_inv h
  obtain ⟨appliedAt, hcanonical, h⟩ := parse_bind_inv h
  obtain ⟨revision, -, h⟩ := parse_bind_inv h
  obtain ⟨hentry, h⟩ := parse_guard_inv h
  obtain ⟨happliedAt, h⟩ := parse_guard_inv h
  obtain ⟨hrevision, h⟩ := parse_guard_inv h
  obtain ⟨hid, h⟩ := parse_guard_inv h
  rw [← some.inj h]
  exact ⟨hdigest, hnonterminal, readCanonicalIsoTimestamp_eq_some hcanonical, hentry, happliedAt,
    hrevision, hid⟩

theorem parseMachineSnapshot_fits (h : SnapshotFits env sessionId m) :
    parseMachineSnapshot env (some m.toJson) sessionId = some m := by
  have hrevision : (readNat (some (ofNat m.revision))).getD 0 = m.revision := by simp
  have hentered : readString (some (ofString? m.stateEnteredAt)) = m.stateEnteredAt :=
    readString_ofString? m.stateEnteredAt
  have hreceipt : parseSessionRecoveryReceipt env (m.toJson.get? "recoveryReceipt") m.state
      m.stateEnteredAt m.revision sessionId = m.recoveryReceipt := by
    unfold OnboardMachineSnapshot.toJson
    cases hr : m.recoveryReceipt with
    | none => rfl
    | some r => exact parseSessionRecoveryReceipt_fits (h r hr)
  refine parse_bind rfl (parse_guard (readNat_ofNat 1) (parse_bind (readMachineState_id m.state) ?_))
  show some (OnboardMachineSnapshot.mk m.state (readString (some (ofString? m.stateEnteredAt)))
    ((readNat (some (ofNat m.revision))).getD 0) (parseSessionRecoveryReceipt env
      (m.toJson.get? "recoveryReceipt") m.state (readString (some (ofString? m.stateEnteredAt)))
      ((readNat (some (ofNat m.revision))).getD 0) sessionId)) = some m
  rw [hentered, hrevision, hreceipt]

lemma snapshotFits_of_parse {value : Option Json}
    (h : parseMachineSnapshot env value sessionId = some m) : SnapshotFits env sessionId m := by
  obtain ⟨fields, -, h⟩ := parse_bind_inv h
  obtain ⟨-, h⟩ := parse_guard_inv h
  obtain ⟨state, -, h⟩ := parse_bind_inv h
  cases h
  intro r hr; exact receiptFits_of_parse hr

theorem normalizeSession_fits {amb : Ambient} {v : Option Json} {s : Session}
    (h : normalizeSession env amb v = some s) : SnapshotFits env s.sessionId s.machine := by
  obtain ⟨data, provenance, effort, intent, retirement, rfl⟩ := normalizeSession_draft h
  unfold withMachine
  simp only
  cases hparse : parseMachineSnapshot env (data.get? "machine")
      (draftSession env amb data provenance effort intent retirement).sessionId with
  | some m => exact snapshotFits_of_parse hparse
  | none =>
    -- An inferred snapshot has no receipt.
    intro r hr; cases hr

end Fits

section Saved

variable {env : Env} {s : Session}

lemma normalizeSession_machine (amb : Ambient) (h : s.core.Admissible)
    (hfits : SnapshotFits env s.sessionId s.machine) :
    ∃ s', normalizeSession env amb (some s.toJson) = some s' ∧ s'.core = s.core ∧
      s'.machine = s.machine := by
  obtain ⟨s', hs', hcore, -⟩ := normalizeSession_toJson env amb h
  refine ⟨s', hs', hcore, ?_⟩
  have hsame := redraft_same env amb (fun i hi => (h.intent i hi).wellFormed)
    fun g hg => (h.retirement g hg).wellFormed
  rw [normalizeSession_redraft env amb h,
    withMachine_toJson hsame.sessionId (parseMachineSnapshot_fits hfits)] at hs'
  rw [← some.inj hs']

lemma loadSession_machine (a b : Ambient) (store : SessionStore) (h : s.core.Admissible)
    (hfits : SnapshotFits env s.sessionId s.machine) :
    ∃ loaded, loadSession env b (store.write env (sessionToSave env a s)) = some loaded ∧
      loaded.core = s.core ∧ loaded.machine = s.machine := by
  obtain ⟨normalized, hnormalized, hcore, hmachine⟩ :=
    normalizeSession_machine (a.part 0) h hfits
  have hsaved : sessionToSave env a s =
      { normalized with updatedAt := ((a.part 2).clock 0).val } := by
    unfold sessionToSave
    rw [hnormalized]; rfl
  have hid : normalized.sessionId = s.sessionId := congrArg SessionCore.sessionId hcore
  have hadmissible : (sessionToSave env a s).core.Admissible := by
    rw [hsaved]
    show normalized.core.Admissible
    rw [hcore]; exact h
  have hsavedFits : SnapshotFits env (sessionToSave env a s).sessionId
      (sessionToSave env a s).machine := by
    rw [hsaved]
    rw [hid, hmachine]; exact hfits
  obtain ⟨loaded, hloaded, hcore', hmachine'⟩ := normalizeSession_machine
    (s := (sessionToSave env a s).compacted env) b hadmissible hsavedFits
  refine ⟨loaded, hloaded, hcore'.trans ?_, hmachine'.trans ?_⟩
  · rw [hsaved]; exact hcore
  · rw [hsaved]; exact hmachine

end Saved

/-- The mutation of the runtime's `transition`. -/
def enterMachineState (target : OnboardMachineState) (enteredAt : String) (session : Session) :
    Session :=
  let session := { session with
    machine := createMachineSnapshot target (some enteredAt) (session.machine.revision + 1) }
  match target with
  | .failed => { session with status := "failed" }
  | .complete => { session with status := "complete", resumable := false, failure := none }
  | _ => if session.status ≠ "failed" then { session with status := "in_progress" } else session

inductive MachineMove (session : Session) : Session → Prop where
  | runtime (target : OnboardMachineState) (enteredAt : String)
    (hedge : IsEdge session.machine.state target) :
    MachineMove session (enterMachineState target enteredAt session)
  | step (state : OnboardMachineState) (now : IsoTimestamp)
    (hother : state ≠ session.machine.state) :
    MachineMove session (transitionMachineSnapshot session state now)

lemma enterMachineState_machine (target : OnboardMachineState) (enteredAt : String)
    (session : Session) : (enterMachineState target enteredAt session).machine =
      createMachineSnapshot target (some enteredAt) (session.machine.revision + 1) := by
  unfold enterMachineState
  simp only
  split
  · rfl
  · rfl
  · split <;> rfl

lemma MachineMove.receipt {session moved : Session} (h : MachineMove session moved) :
    moved.machine.recoveryReceipt = none := by
  cases h with
  | runtime target enteredAt hedge => rw [enterMachineState_machine]; rfl
  | step state now hother =>
    unfold transitionMachineSnapshot
    rw [if_neg (Ne.symm hother)]; rfl

structure Survives (env : Env) (session : Session) (stateEnteredAt : String)
    (plan : SessionRecoveryPlan) (recovered : Session) : Prop where
  resumable : recovered.machine.state.isTerminal = false ∨
    recovered.machine.state = .complete ∧ recovered.status = "complete" ∧
      recovered.resumable = false ∧ recovered = session
  receipt : ∀ reason entry, plan = .recover reason entry →
    recovered.machine = recoveredSnapshot env session reason entry stateEnteredAt
  loaded : ∀ (a b : Ambient) (store : SessionStore), ∃ loaded,
    loadSession env b (store.write env (sessionToSave env a recovered)) = some loaded ∧
    loaded.machine = recovered.machine ∧
    (∃ reason, planSessionRecovery loaded = .ok (.keep reason)) ∧
    ∀ moved, MachineMove loaded moved → moved.machine.recoveryReceipt = none

section Recovered

variable {env : Env} {amb : Ambient} {v : Option Json} {s : Session} {t : String}

lemma recoveredSnapshot_fits
    (hdigest : ∀ sessionId revision reason entry,
      isSha256 (env.createSessionRecoveryReceiptId sessionId revision reason entry))
    {reason : RecoveryReason} {entry : OnboardMachineState} (hentry : entry.isTerminal = false)
    (ht : isCanonicalIsoTimestamp t) :
    SnapshotFits env s.sessionId (recoveredSnapshot env s reason entry t) := by
  intro r hr
  rw [← some.inj hr]; exact ⟨hdigest _ _ _ _, hentry, ht, rfl, rfl, rfl, rfl⟩

lemma loaded_kept {recovered : Session} (h : recovered.core.Admissible)
    (hfits : SnapshotFits env recovered.sessionId recovered.machine)
    (hkeep : recovered.machine.state.isTerminal = false ∨ recovered.machine.state = .complete ∧
      recovered.status = "complete" ∧ recovered.resumable = false)
    (a b : Ambient) (store : SessionStore) : ∃ loaded,
      loadSession env b (store.write env (sessionToSave env a recovered)) = some loaded ∧
      loaded.machine = recovered.machine ∧
      (∃ reason, planSessionRecovery loaded = .ok (.keep reason)) ∧
      ∀ moved, MachineMove loaded moved → moved.machine.recoveryReceipt = none := by
  obtain ⟨loaded, hloaded, hcore, hmachine⟩ := loadSession_machine a b store h hfits
  refine ⟨loaded, hloaded, hmachine, ?_, fun moved hmove => hmove.receipt⟩
  rcases hkeep with hstate | ⟨hstate, hstatus, hresumable⟩
  · rw [← hmachine] at hstate; exact ⟨_, planSessionRecovery_nonterminal hstate⟩
  have hstatus' : loaded.status = "complete" :=
    (congrArg SessionCore.status hcore).trans hstatus
  have hresumable' : loaded.resumable = false :=
    (congrArg SessionCore.resumable hcore).trans hresumable
  refine ⟨.completedNonresumableSnapshot, ?_⟩
  rw [planSessionRecovery_total]
  unfold classifyResumeMachineRepair
  rw [hmachine, hstate, hstatus', hresumable']; rfl

/-- A plan is made for every session that was read. Applied at a canonical time it leaves the
machine in a state it can move on from, unless the session is complete and not resumable;
saved and loaded, the snapshot is the same, its receipt included, needs no recovery, and
loses the receipt when the machine moves. -/
theorem applySessionRecovery_survives
    (hdigest : ∀ sessionId revision reason entry,
      isSha256 (env.createSessionRecoveryReceiptId sessionId revision reason entry))
    (h : normalizeSession env amb v = some s) (ht : isCanonicalIsoTimestamp t) :
    ∃ plan recovered, applySessionRecovery env s t = .ok (plan, recovered) ∧
      Survives env s t plan recovered := by
  have hadmissible := normalizeSession_admissible h
  have hfits := normalizeSession_fits h
  unfold applySessionRecovery
  rw [planSessionRecovery_total]
  cases hclass : classifyResumeMachineRepair s with
  | keep reason =>
    have hkeep : s.machine.state.isTerminal = false ∨ s.machine.state = .complete ∧
        s.status = "complete" ∧ s.resumable = false := by
      unfold classifyResumeMachineRepair at hclass
      split at hclass
      · cases hclass
      next hfailed =>
      split at hclass
      · next hcomplete =>
        refine .inl ?_
        cases hstate : s.machine.state with
        | failed => exact absurd hstate hfailed
        | complete => exact absurd hstate hcomplete
        | _ => rfl
      · next hcomplete =>
        split at hclass
        · cases hclass
        · next hdone =>
          rw [not_or, not_not, not_not] at hdone
          exact .inr ⟨not_not.mp hcomplete, hdone.1, hdone.2⟩
    refine ⟨_, s, rfl, ?_, ?_, loaded_kept hadmissible hfits hkeep⟩
    · rcases hkeep with hstate | ⟨hstate, hstatus, hresumable⟩
      · exact .inl hstate
      · exact .inr ⟨hstate, hstatus, hresumable, rfl⟩
    · intro reason' entry hplan; cases hplan
  | repair reason =>
    have hentry := resumeMachineState_nonterminal s
    have hfits' : SnapshotFits env s.sessionId
        (recoveredSnapshot env s reason (resumeMachineState s) t) :=
      recoveredSnapshot_fits hdigest hentry ht
    have hadmissible' :
        (recoveredSession env s reason (resumeMachineState s) t).core.Admissible :=
      ⟨fun i hi => ⟨(hadmissible.intent i hi).wellFormed, (hadmissible.intent i hi).resumable,
          (hadmissible.intent i hi).mode, (hadmissible.intent i hi).status,
          (hadmissible.intent i hi).bound⟩,
        fun g hg => ⟨(hadmissible.retirement g hg).wellFormed,
          (hadmissible.retirement g hg).status, (hadmissible.retirement g hg).resumable,
          (hadmissible.retirement g hg).noIntent⟩⟩
    refine ⟨_, _, require_bind_ok ht rfl, ?_⟩
    refine ⟨.inl hentry, ?_, loaded_kept hadmissible' hfits' (.inl hentry)⟩
    intro reason' entry hplan
    cases hplan; rfl

end Recovered

/-- The digest of `["session-1",4,"failed_terminal_snapshot","gateway"]`. -/
def gatewayReceiptId : String := "84fb86a157ca57579e2d3653f1fc6de345f7b837e3af62dafbc0b25c12346872"

def finishedFile (status : String) (state : OnboardMachineState) (gateway : StepStatus) : Json :=
  .obj [("version", ofNat 1), ("sessionId", .str "session-1"), ("resumable", .bool false),
    ("status", .str status), ("lastStepStarted", .str "gateway"),
    ("machine", .obj [("version", ofNat 1), ("state", .str state.id),
      ("stateEnteredAt", .str "2026-01-01T00:00:00.000Z"), ("revision", ofNat 3)]),
    ("steps", .obj [("gateway", .obj [("status", .str gateway.id)])])]

/-- An environment with the digest that belongs to the failed session. -/
def recoveryEnv : Env :=
  { plainEnv with createSessionRecoveryReceiptId := fun _ _ _ _ => gatewayReceiptId }

theorem applySessionRecovery_survives_failed :
    ∃ s plan recovered,
      normalizeSession recoveryEnv (plainAmbient "s")
        (some (finishedFile "failed" .failed .failed)) = some s ∧
      applySessionRecovery recoveryEnv s newYear.val = .ok (plan, recovered) ∧
      plan = .recover .failedTerminalSnapshot .gateway ∧
      Survives recoveryEnv s newYear.val plan recovered := by
  cases h : normalizeSession recoveryEnv (plainAmbient "s")
      (some (finishedFile "failed" .failed .failed)) with
  | none =>
    have hsome : (normalizeSession recoveryEnv (plainAmbient "s")
        (some (finishedFile "failed" .failed .failed))).isSome := by decide +kernel
    rw [h] at hsome; cases hsome
  | some s =>
    have hdigest : ∀ sessionId revision reason entry,
        isSha256 (recoveryEnv.createSessionRecoveryReceiptId sessionId revision reason entry) =
          true := by
      intro sessionId revision reason entry
      show isSha256 gatewayReceiptId; decide +kernel
    obtain ⟨plan, recovered, happly, hsurvives⟩ :=
      applySessionRecovery_survives (t := newYear.val) hdigest h newYear.property
    have hplan : (normalizeSession recoveryEnv (plainAmbient "s")
        (some (finishedFile "failed" .failed .failed))).map
          (fun s => (applySessionRecovery recoveryEnv s newYear.val).toOption.map Prod.fst) =
        some (some (.recover .failedTerminalSnapshot .gateway)) := by decide +kernel
    rw [h, map_some, happly] at hplan
    exact ⟨s, plan, recovered, rfl, happly, some.inj (some.inj hplan), hsurvives⟩

/-- A session that is complete and not resumable stays in its terminal state. -/
theorem applySessionRecovery_complete :
    ∃ s recovered,
      normalizeSession plainEnv (plainAmbient "s")
        (some (finishedFile "complete" .complete .complete)) = some s ∧
      applySessionRecovery plainEnv s newYear.val =
        .ok (.keep .completedNonresumableSnapshot, recovered) ∧
      recovered.machine.state.isTerminal :=
  ⟨_, _, rfl, rfl, rfl⟩

end NemoClaw.Onboard
