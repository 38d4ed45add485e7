import NemoClaw.Onboard.CheckpointRecord
import NemoClaw.Registry.Entry

/- The journal of a same-name sandbox replacement, kept in the session's
checkpoint, and the five operations on it.

What is proved:
  1. `JournalOp.perform_step` — everything one operation can do to the journal:
     leave it, open it, move one transaction forward by one revision, or close
     it.
  2. `JournalStep.law` — so, across one operation, phases never go back, the
     revision counts the changes, source and target never change, and an
     identity once recorded stays.
  3. `Identified` — a transaction past creation has recorded the live identity
     of its target — is kept by every operation except an advance that skips
     the recording.

Correspondence (onboard/sandbox-recreate-transaction.ts ↔ Lean): definitions
keep the source's names. The hash, `JSON.stringify` and `localeCompare` are the
`FingerprintApi` parameter; the identifiers and times that default to fresh ones are
arguments.
-/
namespace NemoClaw.Onboard

open Js Js.Json

/-- Library functions that fingerprints are made with. -/
structure FingerprintApi where
  /-- `left.localeCompare(right) <= 0` -/
  localeLe : String → String → Bool
  stringify : Json → String
  /-- the hex digest -/
  sha256 : String → String

mutual

/-- Objects with their keys sorted, at every depth. -/
def canonicalJsonValue (api : FingerprintApi) : Json → Json
  | .arr xs => .arr (canonicalJsonValues api xs)
  | .obj fields =>
    .obj ((canonicalJsonFields api fields).insertionSort fun a b => api.localeLe a.1 b.1)
  | .null => .null
  | .bool b => .bool b
  | .num q => .num q
  | .str s => .str s

def canonicalJsonValues (api : FingerprintApi) : List Json → List Json
  | [] => []
  | x :: xs => canonicalJsonValue api x :: canonicalJsonValues api xs

def canonicalJsonFields (api : FingerprintApi) : List (String × Json) → List (String × Json)
  | [] => []
  | (k, v) :: rest => (k, canonicalJsonValue api v) :: canonicalJsonFields api rest

end

def fingerprintSandboxRecreateValue (api : FingerprintApi) : Json → String
  | .str s => api.sha256 s
  | v => api.sha256 (api.stringify (canonicalJsonValue api v))

def routeReservationFields : List String :=
  ["pendingRouteReservation", "reservationSessionId", "provider", "model", "endpointUrl",
    "endpointSource", "credentialEnv", "preferredInferenceApi", "gatewayName", "gatewayPort"]

/-- The fingerprint of the row without its route reservation. -/
def fingerprintSandboxRegistryEntry (api : FingerprintApi) (entry : SandboxEntry) : String :=
  fingerprintSandboxRecreateValue api
    (.obj (entry.filter fun kv => kv.1 ∉ routeReservationFields))

inductive SandboxLiveState where
  | missing
  | notReady
  | ready
  deriving DecidableEq

structure SandboxRecreateObservation where
  state : SandboxLiveState
  liveIdentityFingerprint : Option String
  deriving DecidableEq

/-- A nullable string that is neither `null` nor empty. -/
def truthy (o : Option String) : Bool := o.any (· ≠ "")

def checkpointSourceWorkload (source : SandboxEntry) :
    Option CheckpointSandboxRecreateSourceWorkload := do
  let imageTag ← readNonEmpty (source.lookup "imageTag")
  let workload := do
    let w ← readObject (source.lookup "workload")
    guard (readString (w.get? "kind") = some "legacy-dockerfile")
    return { reference := readString (w.get? "reference"), shared := isTrue (w.get? "shared") }
  return { openshellDriver := readString (source.lookup "openshellDriver"), imageTag, workload }

/-- The input of a begin, with its fresh identifiers and time. -/
structure BeginSandboxRecreateTransactionInput where
  sandboxName : String
  gatewayName : String
  gatewayPort : Nat
  sourceEntry : Option SandboxEntry
  observation : SandboxRecreateObservation
  targetIntentFingerprint : String
  now : String
  id : String
  targetGeneration : String

def activeTransaction (env : Env) (session : Session) :
    Option CheckpointSandboxRecreateTransaction :=
  (baseCheckpoint env session).sandboxRecreate

/-- Assign the journal, with the stamp of a recorder. -/
def setSandboxRecreate (env : Env) (session : Session) (now : String)
    (journal : Option CheckpointSandboxRecreateTransaction) : Session :=
  { session with
    checkpoint := some { baseCheckpoint env session with
      machineState := session.machine.state, updatedAt := now, sandboxRecreate := journal } }

def assertSameTransaction (transaction : CheckpointSandboxRecreateTransaction)
    (input : BeginSandboxRecreateTransactionInput) : Except String Unit :=
  require (transaction.sandboxName = input.sandboxName ∧
      transaction.gatewayName = input.gatewayName ∧
      transaction.gatewayPort = input.gatewayPort ∧
      transaction.targetIntentFingerprint = input.targetIntentFingerprint)
    ("Sandbox '" ++ input.sandboxName ++
      "' has a different recreate transaction in progress; resume or repair that transaction" ++
      " before changing its target.")

def newTransaction (api : FingerprintApi) (input : BeginSandboxRecreateTransactionInput)
    (sourceEntry : SandboxEntry) : CheckpointSandboxRecreateTransaction :=
  { id := input.id
    revision := 0
    sandboxName := input.sandboxName
    gatewayName := input.gatewayName
    gatewayPort := input.gatewayPort
    sourceRegistryFingerprint := fingerprintSandboxRegistryEntry api sourceEntry
    sourceLiveIdentityFingerprint := input.observation.liveIdentityFingerprint
    sourceWorkload := checkpointSourceWorkload sourceEntry
    targetIntentFingerprint := input.targetIntentFingerprint
    targetGeneration := input.targetGeneration
    targetLiveIdentityFingerprint := none
    phase := if input.observation.state = .missing then .deleted else .planned
    startedAt := input.now
    updatedAt := input.now }

def beginSandboxRecreateTransaction (env : Env) (api : FingerprintApi)
    (input : BeginSandboxRecreateTransactionInput) :
    Call Session CheckpointSandboxRecreateTransaction := do
  let session ← get
  match activeTransaction env session with
  | some existing =>
    Call.ofExcept (assertSameTransaction existing input)
    return existing
  | none =>
    Call.ofExcept (require (input.observation.state = .missing ∨
        truthy input.observation.liveIdentityFingerprint)
      ("Cannot recreate sandbox '" ++ input.sandboxName ++
        "': OpenShell did not report a stable sandbox Id."))
    match input.sourceEntry with
    | none => throw ("Cannot start sandbox '" ++ input.sandboxName ++
        "' recreate transaction without its source registry row.")
    | some sourceEntry =>
      let transaction := newTransaction api input sourceEntry
      set (setSandboxRecreate env session input.now (some transaction))
      return transaction

def sandboxRecreatePhaseReached (phase target : CheckpointSandboxRecreatePhase) : Bool :=
  target.index ≤ phase.index

/-- The active transaction, if it is the one named. -/
def ownedTransaction (env : Env) (session : Session) (id message : String) :
    Except String CheckpointSandboxRecreateTransaction :=
  match activeTransaction env session with
  | some current => if current.id = id then .ok current else .error message
  | none => .error message

def advanceSandboxRecreateTransaction (env : Env) (id : String)
    (phase : CheckpointSandboxRecreatePhase) (now : String) :
    Call Session CheckpointSandboxRecreateTransaction := do
  let session ← get
  let current ← Call.ofExcept (ownedTransaction env session id
    "Sandbox recreate transaction ownership changed while applying a lifecycle phase.")
  if current.phase = phase then return current
  Call.ofExcept (require (current.phase.index ≤ phase.index)
    ("Sandbox recreate transaction cannot move backward from '" ++ current.phase.id ++
      "' to '" ++ phase.id ++ "'."))
  let next := { current with revision := current.revision + 1, phase, updatedAt := now }
  set (setSandboxRecreate env session now (some next))
  return next

def recordSandboxRecreateTargetCreated (env : Env) (id : String)
    (observation : SandboxRecreateObservation) (now : String) :
    Call Session CheckpointSandboxRecreateTransaction := do
  Call.ofExcept (require (observation.state = .ready ∧
      truthy observation.liveIdentityFingerprint)
    "The journaled replacement must be ready with a stable OpenShell Id.")
  let session ← get
  let current ← Call.ofExcept (ownedTransaction env session id
    ("Sandbox recreate transaction ownership changed while recording the replacement" ++
      " identity."))
  Call.ofExcept (require (truthy current.targetLiveIdentityFingerprint = false ∨
      current.targetLiveIdentityFingerprint = observation.liveIdentityFingerprint)
    "Sandbox recreate transaction already identifies a different replacement.")
  if current.phase = .created ∧
      current.targetLiveIdentityFingerprint = observation.liveIdentityFingerprint then
    return current
  Call.ofExcept (require (current.phase = .creating)
    ("Sandbox recreate transaction cannot record its replacement from phase '" ++
      current.phase.id ++ "'."))
  let next := { current with
    revision := current.revision + 1, phase := .created, updatedAt := now
    targetLiveIdentityFingerprint := observation.liveIdentityFingerprint }
  set (setSandboxRecreate env session now (some next))
  return next

def abandonSandboxRecreateTransaction (env : Env) (id : String) (now : String) :
    Call Session Unit := do
  let session ← get
  let current ← Call.ofExcept (ownedTransaction env session id
    "Sandbox recreate transaction ownership changed and cannot be abandoned.")
  Call.ofExcept (require (current.revision = 0 ∧
      truthy current.targetLiveIdentityFingerprint = false)
    ("Sandbox '" ++ current.sandboxName ++
      "' recreate transaction already recorded a lifecycle effect and cannot be abandoned."))
  set (setSandboxRecreate env session now none)

def clearCompletedSandboxRecreateTransaction (env : Env) (id : String) (now : String) :
    Call Session Unit := do
  let session ← get
  let current ← Call.ofExcept (ownedTransaction env session id
    "Sandbox recreate transaction is not complete and cannot be cleared.")
  Call.ofExcept (require (current.phase = .completed)
    "Sandbox recreate transaction is not complete and cannot be cleared.")
  set (setSandboxRecreate env session now none)

/-- An operation on the journal, with its arguments. -/
inductive JournalOp where
  | begin (input : BeginSandboxRecreateTransactionInput)
  | advance (id : String) (phase : CheckpointSandboxRecreatePhase) (now : String)
  | recordCreated (id : String) (observation : SandboxRecreateObservation) (now : String)
  | abandon (id now : String)
  | clearCompleted (id now : String)

def JournalOp.perform (env : Env) (api : FingerprintApi) : JournalOp → Call Session Unit
  | begin input => do
    let _ ← beginSandboxRecreateTransaction env api input
  | advance id phase now => do
    let _ ← advanceSandboxRecreateTransaction env id phase now
  | recordCreated id observation now => do
    let _ ← recordSandboxRecreateTargetCreated env id observation now
  | abandon id now => abandonSandboxRecreateTransaction env id now
  | clearCompleted id now => clearCompletedSandboxRecreateTransaction env id now

/-- The changes an operation can make to the journal. -/
inductive JournalStep : JournalOp → Option CheckpointSandboxRecreateTransaction →
    Option CheckpointSandboxRecreateTransaction → Prop where
  | same (op : JournalOp) (t : Option CheckpointSandboxRecreateTransaction) :
    JournalStep op t t
  | opened (input : BeginSandboxRecreateTransactionInput)
    (u : CheckpointSandboxRecreateTransaction) (hrevision : u.revision = 0)
    (hidentity : u.targetLiveIdentityFingerprint = none) (hphase : u.phase.index < 4) :
    JournalStep (.begin input) none (some u)
  | advanced (id now : String) (phase : CheckpointSandboxRecreatePhase)
    (u : CheckpointSandboxRecreateTransaction) (hphase : u.phase.index < phase.index) :
    JournalStep (.advance id phase now) (some u)
      (some { u with revision := u.revision + 1, phase, updatedAt := now })
  | identified (id now identity : String) (observation : SandboxRecreateObservation)
    (u : CheckpointSandboxRecreateTransaction) (hphase : u.phase = .creating)
    (hnonempty : identity ≠ "")
    (hsame : truthy u.targetLiveIdentityFingerprint = false ∨
      u.targetLiveIdentityFingerprint = some identity) :
    JournalStep (.recordCreated id observation now) (some u)
      (some { u with
        revision := u.revision + 1, phase := .created, updatedAt := now
        targetLiveIdentityFingerprint := some identity })
  | abandoned (id now : String) (u : CheckpointSandboxRecreateTransaction)
    (hrevision : u.revision = 0) : JournalStep (.abandon id now) (some u) none
  | cleared (id now : String) (u : CheckpointSandboxRecreateTransaction)
    (hphase : u.phase = .completed) : JournalStep (.clearCompleted id now) (some u) none

lemma activeTransaction_set (env : Env) (session : Session) (now : String)
    (journal : Option CheckpointSandboxRecreateTransaction) :
    activeTransaction env (setSandboxRecreate env session now journal) = journal := rfl

lemma ownedTransaction_eq_ok {env : Env} {session : Session} {id message : String}
    {t : CheckpointSandboxRecreateTransaction}
    (h : ownedTransaction env session id message = .ok t) :
    activeTransaction env session = some t ∧ t.id = id := by
  unfold ownedTransaction at h
  split at h
  · next current hcurrent =>
    split at h
    · next hid =>
      cases h; exact ⟨hcurrent, hid⟩
    · cases h
  · cases h

lemma truthy_iff {o : Option String} : truthy o ↔ ∃ s, o = some s ∧ s ≠ "" := by
  cases o <;> simp [truthy]

lemma CheckpointSandboxRecreatePhase.index_injective :
    Function.Injective CheckpointSandboxRecreatePhase.index := by
  intro a b h
  cases a <;> cases b <;> first | rfl | (simp [index] at h)

section Step

variable (env : Env) (api : FingerprintApi)

/-- The postcondition of an operation that started in `s`. -/
def StepsFrom (op : JournalOp) (s : Session) {α : Type} (_ : Except String α) (s' : Session) :
    Prop :=
  JournalStep op (activeTransaction env s) (activeTransaction env s')

lemma begin_step (input : BeginSandboxRecreateTransactionInput) (s : Session) :
    (beginSandboxRecreateTransaction env api input).Ends s (StepsFrom env (.begin input) s) := by
  refine Call.ends_get_bind ?_
  cases hactive : activeTransaction env s with
  | some existing =>
    refine Call.ends_ofExcept_bind (fun _ _ => ?_) fun _ _ => .same _ _
    exact Call.ends_pure (.same _ _)
  | none =>
    refine Call.ends_ofExcept_bind (fun _ _ => ?_) fun _ _ => .same _ _
    cases input.sourceEntry with
    | none => exact Call.ends_throw (.same _ _)
    | some sourceEntry =>
    refine Call.ends_set_bind (Call.ends_pure ?_)
    show JournalStep _ (activeTransaction env s) (activeTransaction env _)
    rw [hactive, activeTransaction_set]
    refine .opened input _ rfl rfl ?_
    show (if input.observation.state = .missing then
      CheckpointSandboxRecreatePhase.deleted else .planned).index < 4
    split <;> decide

lemma advance_step (id : String) (phase : CheckpointSandboxRecreatePhase) (now : String)
    (s : Session) : (advanceSandboxRecreateTransaction env id phase now).Ends s
      (StepsFrom env (.advance id phase now) s) := by
  refine Call.ends_get_bind ?_
  refine Call.ends_ofExcept_bind (fun current hcurrent => ?_) fun _ _ => .same _ _
  obtain ⟨hactive, -⟩ := ownedTransaction_eq_ok hcurrent
  by_cases hphase : current.phase = phase
  · rw [if_pos hphase]; exact Call.ends_pure (.same _ _)
  rw [if_neg hphase]
  refine Call.ends_ofExcept_bind (fun _ hle => ?_) fun _ _ => .same _ _
  have hle := require_eq_ok hle
  have hne : current.phase.index ≠ phase.index :=
    fun h => hphase (CheckpointSandboxRecreatePhase.index_injective h)
  refine Call.ends_set_bind (Call.ends_pure ?_)
  show JournalStep _ (activeTransaction env s) (activeTransaction env _)
  rw [hactive, activeTransaction_set]; exact .advanced id now phase current (by omega)

lemma recordCreated_step (id : String) (observation : SandboxRecreateObservation)
    (now : String) (s : Session) :
    (recordSandboxRecreateTargetCreated env id observation now).Ends s
      (StepsFrom env (.recordCreated id observation now) s) := by
  refine Call.ends_ofExcept_bind (fun _ hready => ?_) fun _ _ => .same _ _
  obtain ⟨identity, hidentity, hnonempty⟩ := truthy_iff.mp (require_eq_ok hready).2
  refine Call.ends_get_bind ?_
  refine Call.ends_ofExcept_bind (fun current hcurrent => ?_) fun _ _ => .same _ _
  obtain ⟨hactive, -⟩ := ownedTransaction_eq_ok hcurrent
  refine Call.ends_ofExcept_bind (fun _ hsame => ?_) fun _ _ => .same _ _
  have hsame := require_eq_ok hsame
  by_cases hdone : current.phase = .created ∧
      current.targetLiveIdentityFingerprint = observation.liveIdentityFingerprint
  · rw [if_pos hdone]; exact Call.ends_pure (.same _ _)
  · rw [if_neg hdone]
    refine Call.ends_ofExcept_bind (fun _ hcreating => ?_) fun _ _ => .same _ _
    refine Call.ends_set_bind (Call.ends_pure ?_)
    show JournalStep _ (activeTransaction env s) (activeTransaction env _)
    rw [hactive, activeTransaction_set, hidentity]
    rw [hidentity] at hsame
    exact .identified id now identity observation current (require_eq_ok hcreating) hnonempty
      hsame

lemma abandon_step (id now : String) (s : Session) :
    (abandonSandboxRecreateTransaction env id now).Ends s
      (StepsFrom env (.abandon id now) s) := by
  refine Call.ends_get_bind ?_
  refine Call.ends_ofExcept_bind (fun current hcurrent => ?_) fun _ _ => .same _ _
  obtain ⟨hactive, -⟩ := ownedTransaction_eq_ok hcurrent
  refine Call.ends_ofExcept_bind (fun _ hfresh => ?_) fun _ _ => .same _ _
  refine Call.ends_set ?_
  show JournalStep _ (activeTransaction env s) (activeTransaction env _)
  rw [hactive, activeTransaction_set]
  exact .abandoned id now current (require_eq_ok hfresh).1

lemma clearCompleted_step (id now : String) (s : Session) :
    (clearCompletedSandboxRecreateTransaction env id now).Ends s
      (StepsFrom env (.clearCompleted id now) s) := by
  refine Call.ends_get_bind ?_
  refine Call.ends_ofExcept_bind (fun current hcurrent => ?_) fun _ _ => .same _ _
  obtain ⟨hactive, -⟩ := ownedTransaction_eq_ok hcurrent
  refine Call.ends_ofExcept_bind (fun _ hcompleted => ?_) fun _ _ => .same _ _
  refine Call.ends_set ?_
  show JournalStep _ (activeTransaction env s) (activeTransaction env _)
  rw [hactive, activeTransaction_set]
  exact .cleared id now current (require_eq_ok hcompleted)

/-- An operation changes the journal in one of the ways listed, or not at all. -/
theorem JournalOp.perform_step (op : JournalOp) (s : Session) :
    JournalStep op (activeTransaction env s)
      (activeTransaction env ((op.perform env api).exec s).2) := by
  cases op with
  | begin input => exact Call.ends_discard (begin_step env api input s)
  | advance id phase now => exact Call.ends_discard (advance_step env id phase now s)
  | recordCreated id observation now =>
    exact Call.ends_discard (recordCreated_step env id observation now s)
  | abandon id now => exact abandon_step env id now s
  | clearCompleted id now => exact clearCompleted_step env id now s

lemma abandon_ok (id now : String) (s : Session) :
    (abandonSandboxRecreateTransaction env id now).Ends s fun outcome _ =>
      outcome = .ok () → ∃ u, activeTransaction env s = some u ∧ u.revision = 0 := by
  refine Call.ends_get_bind ?_
  refine Call.ends_ofExcept_bind (fun current hcurrent => ?_) fun _ _ h => by cases h
  obtain ⟨hactive, -⟩ := ownedTransaction_eq_ok hcurrent
  refine Call.ends_ofExcept_bind (fun _ hfresh => ?_) fun _ _ h => by cases h
  exact Call.ends_set fun _ => ⟨current, hactive, (require_eq_ok hfresh).1⟩

end Step

/-- `u'` is `u` at the same or a later moment of one transaction. -/
structure Continues (u u' : CheckpointSandboxRecreateTransaction) : Prop where
  phase : u.phase.index ≤ u'.phase.index
  revision : u' = u ∨ u'.revision = u.revision + 1
  /-- what the transaction replaces, and with what -/
  subject : u'.id = u.id ∧ u'.sandboxName = u.sandboxName ∧ u'.gatewayName = u.gatewayName ∧
    u'.gatewayPort = u.gatewayPort
  source : u'.sourceRegistryFingerprint = u.sourceRegistryFingerprint ∧
    u'.sourceLiveIdentityFingerprint = u.sourceLiveIdentityFingerprint ∧
    u'.sourceWorkload = u.sourceWorkload
  target : u'.targetIntentFingerprint = u.targetIntentFingerprint ∧
    u'.targetGeneration = u.targetGeneration
  /-- the live identity of the target is written once, and never with an empty one -/
  identity : u'.targetLiveIdentityFingerprint = u.targetLiveIdentityFingerprint ∨
    truthy u.targetLiveIdentityFingerprint = false ∧
      truthy u'.targetLiveIdentityFingerprint

lemma Continues.refl (u : CheckpointSandboxRecreateTransaction) : Continues u u :=
  ⟨le_refl _, .inl rfl, ⟨rfl, rfl, rfl, rfl⟩, ⟨rfl, rfl, rfl⟩, ⟨rfl, rfl⟩, .inl rfl⟩

/-- What may change in the journal across one operation. -/
structure JournalLaw (op : JournalOp) (t t' : Option CheckpointSandboxRecreateTransaction) :
    Prop where
  continues : ∀ u u', t = some u → t' = some u' → Continues u u'
  opens : ∀ u', t = none → t' = some u' →
    u'.revision = 0 ∧ u'.targetLiveIdentityFingerprint = none
  closes : ∀ u, t = some u → t' = none →
    (∃ id now, op = .abandon id now) ∧ u.revision = 0 ∨
      (∃ id now, op = .clearCompleted id now) ∧ u.phase = .completed

theorem JournalStep.law {op : JournalOp} {t t' : Option CheckpointSandboxRecreateTransaction}
    (h : JournalStep op t t') : JournalLaw op t t' := by
  cases h with
  | same =>
    refine ⟨fun u u' hu hu' => ?_, fun u' hu hu' => ?_, fun u hu hu' => ?_⟩
    · cases hu.symm.trans hu'; exact .refl u
    · cases hu.symm.trans hu'
    · cases hu.symm.trans hu'
  | opened input u hrevision hidentity =>
    refine ⟨fun v v' hv => (by cases hv), fun v' _ hv' => ?_,
      fun v hv => by cases hv⟩
    cases hv'; exact ⟨hrevision, hidentity⟩
  | advanced id now phase u hphase =>
    refine ⟨fun v v' hv hv' => ?_, fun v' hv => (by cases hv), fun v _ hv' => by cases hv'⟩
    cases hv
    cases hv'
    exact ⟨hphase.le, .inr rfl, ⟨rfl, rfl, rfl, rfl⟩, ⟨rfl, rfl, rfl⟩, ⟨rfl, rfl⟩, .inl rfl⟩
  | identified id now identity observation u hphase hnonempty hsame =>
    refine ⟨fun v v' hv hv' => ?_, fun v' hv => (by cases hv), fun v _ hv' => by cases hv'⟩
    cases hv
    cases hv'
    refine ⟨?_, .inr rfl, ⟨rfl, rfl, rfl, rfl⟩, ⟨rfl, rfl, rfl⟩, ⟨rfl, rfl⟩, ?_⟩
    · show u.phase.index ≤ 4
      rw [hphase]; decide
    · rcases hsame with habsent | hequal
      · exact .inr ⟨habsent, truthy_iff.mpr ⟨identity, rfl, hnonempty⟩⟩
      · exact .inl hequal.symm
  | abandoned id now u hrevision =>
    refine ⟨fun v v' _ hv' => (by cases hv'), fun v' hv => (by cases hv), fun v hv _ => ?_⟩
    cases hv; exact .inl ⟨⟨id, now, rfl⟩, hrevision⟩
  | cleared id now u hphase =>
    refine ⟨fun v v' _ hv' => (by cases hv'), fun v' hv => (by cases hv), fun v hv _ => ?_⟩
    cases hv; exact .inr ⟨⟨id, now, rfl⟩, hphase⟩

/-- A transaction past the creation of its target has recorded the target's identity. -/
def Identified (t : Option CheckpointSandboxRecreateTransaction) : Prop :=
  ∀ u, t = some u → CheckpointSandboxRecreatePhase.created.index ≤ u.phase.index →
    truthy u.targetLiveIdentityFingerprint

/-- The operation is no advance over the recording of the identity. -/
def JournalOp.AfterRecording (env : Env) (op : JournalOp) (s : Session) : Prop :=
  ∀ id phase now u, op = .advance id phase now → activeTransaction env s = some u →
    CheckpointSandboxRecreatePhase.created.index ≤ phase.index →
      truthy u.targetLiveIdentityFingerprint

lemma JournalStep.identified_of {env : Env} {op : JournalOp} {s : Session}
    {t' : Option CheckpointSandboxRecreateTransaction}
    (h : JournalStep op (activeTransaction env s) t') (hop : op.AfterRecording env s)
    (hs : Identified (activeTransaction env s)) : Identified t' := by
  generalize hactive : activeTransaction env s = t at h hs
  cases h with
  | same => exact hs
  | opened input u hrevision hidentity hphase =>
    intro v hv hcreated
    cases hv
    have hindex : CheckpointSandboxRecreatePhase.created.index = 4 := rfl; omega
  | advanced id now phase u hphase =>
    intro v hv hcreated
    cases hv; exact hop id phase now u rfl hactive hcreated
  | identified id now identity observation u hphase hnonempty hsame =>
    intro v hv _
    cases hv; exact truthy_iff.mpr ⟨identity, rfl, hnonempty⟩
  | abandoned | cleared =>
    intro v hv
    cases hv

section Run

variable (env : Env) (api : FingerprintApi)

/-- The session after a sequence of operations, each error caught. -/
def journalRun (ops : List JournalOp) (s : Session) : Session :=
  Call.runCalls (ops.map (JournalOp.perform env api)) s

/-- After any operations, the next one keeps the law of the journal, an abandon among
them succeeds only at revision 0, and as long as no advance skipped the recording the
transaction past creation is identified. -/
theorem journalRun_law (ops : List JournalOp) (op : JournalOp) (s : Session) :
    JournalLaw op (activeTransaction env (journalRun env api ops s))
      (activeTransaction env (journalRun env api (ops ++ [op]) s)) ∧
    (∀ id now, ((JournalOp.abandon id now).perform env api |>.exec
        (journalRun env api ops s)).1 = .ok () →
      ∃ u, activeTransaction env (journalRun env api ops s) = some u ∧ u.revision = 0) ∧
    (Identified (activeTransaction env s) →
      Call.Meets (JournalOp.perform env api) (JournalOp.AfterRecording env) ops s →
        Identified (activeTransaction env (journalRun env api ops s))) := by
  refine ⟨?_, fun id now => abandon_ok env id now _, fun hs hops => ?_⟩
  · unfold journalRun
    rw [List.map_append, Call.runCalls_append]; exact (op.perform_step env api _).law
  · refine hops.invariant (I := fun s => Identified (activeTransaction env s))
      (fun op s hop hs => ?_) hs
    exact (op.perform_step env api s).identified_of hop hs

end Run

def plainSession : Session := createSession plainEnv (plainAmbient "s") {}

/-- The library on the one registry row of the runs below. -/
def plainApi : FingerprintApi where
  localeLe := fun a b => decide (a ≤ b)
  stringify := fun _ => "\x7b\"name\":\"my-assistant\"\x7d"
  sha256 := fun _ => "f46a3cc9a6dc99e6cc59e93ecd5ee23dd2cc136a5fd884879fbfd1f7c614b4cd"

def plainBegin : BeginSandboxRecreateTransactionInput where
  sandboxName := "my-assistant"
  gatewayName := "nemoclaw"
  gatewayPort := 8080
  sourceEntry := some [("name", .str "my-assistant")]
  observation :=
    ⟨.ready, some "34506f32c7e89dab5be5db97ab9f3ddcddb75c74ab52baaa97ef4b249b776a44"⟩
  targetIntentFingerprint := "f46a3cc9a6dc99e6cc59e93ecd5ee23dd2cc136a5fd884879fbfd1f7c614b4cd"
  now := newYear.val
  id := "t1"
  targetGeneration := "g1"

/-- Every phase in its place. -/
def plainOps : List JournalOp :=
  [.begin plainBegin, .advance "t1" .deleting newYear.val, .advance "t1" .deleted newYear.val,
    .advance "t1" .creating newYear.val,
    .recordCreated "t1"
      ⟨.ready, some "b0a03eeba83c3d46a37b3b1cd1cd7b5bed5aa5aad44e4ffdb3ac4a28dba0d3f7"⟩
      newYear.val,
    .advance "t1" .completed newYear.val]

theorem journalRun_law_plainOps :
    Identified (activeTransaction plainEnv (journalRun plainEnv plainApi plainOps plainSession))
      ∧ (activeTransaction plainEnv (journalRun plainEnv plainApi plainOps plainSession)).map
        (fun u => (u.revision, u.phase)) = some (5, .completed) := by
  refine ⟨(journalRun_law plainEnv plainApi plainOps (.abandon "t1" newYear.val)
    plainSession).2.2 ?_ ?_, by decide +kernel⟩
  · intro u hu; cases hu
  · refine ⟨?_, ?_, ?_, ?_, ?_, ?_, trivial⟩
    · intro id phase now u hop; cases hop
    · intro id phase now u hop _ hphase
      cases hop; exact absurd hphase (by decide)
    · intro id phase now u hop _ hphase
      cases hop; exact absurd hphase (by decide)
    · intro id phase now u hop _ hphase
      cases hop; exact absurd hphase (by decide)
    · intro id phase now u hop; cases hop
    · intro id phase now u _ hu _
      have hrecorded : (activeTransaction plainEnv (journalRun plainEnv plainApi
          (plainOps.take 5) plainSession)).all
            (fun u => truthy u.targetLiveIdentityFingerprint) := by decide +kernel
      exact (Option.all_eq_true _ _).mp hrecorded u hu

/-- An advance may skip the recording: the transaction completes unidentified. -/
theorem journalRun_unidentified :
    ¬ ∀ (ops : List JournalOp) (u : CheckpointSandboxRecreateTransaction),
      activeTransaction plainEnv (journalRun plainEnv plainApi ops plainSession) = some u →
        CheckpointSandboxRecreatePhase.created.index ≤ u.phase.index →
          u.targetLiveIdentityFingerprint ≠ none := by
  intro h
  exact h [.begin plainBegin, .advance "t1" .completed newYear.val] _ rfl (by decide) rfl

end NemoClaw.Onboard
