import NemoClaw.Js.Call
import NemoClaw.Onboard.Session

/- The operations that record progress in a session's checkpoint.

Each reads the session's checkpoint, or derives one where there is none, and
assigns a changed copy. The two provider recorders keep a ledger: which
credential providers are registered, which effect group owns each of them, and
which environment variables they use.

What holds of the ledger over whole runs is in `ProviderLedger`.

Correspondence (onboard/checkpoint-record.ts, onboard-checkpoint-migrate.ts ↔
Lean): definitions keep the source's names. A `now` argument is the reading of
`new Date().toISOString()`.
-/
namespace NemoClaw.Onboard

open Js

/-- `decisionFromLegacyNullable` with a parser that never refuses. -/
def decisionFromLegacyNullable {α β : Type} (completed : Bool) (raw : Option α) (f : α → β) :
    CheckpointDecision β :=
  if completed then
    match raw with
    | none => .declined
    | some a => .selected (f a)
  else .unset

def identityDecision (session : Session) : CheckpointDecision CheckpointSandboxIdentity :=
  match session.sandboxName, session.agent with
  | some name, some agent =>
    if session.sandboxPromptProgress.sandboxName ∧ name ≠ "" ∧ agent ≠ "" then
      .selected { name, agent }
    else .unset
  | _, _ => .unset

def messagingSelection (env : Env) (plan : Json) : CheckpointMessagingSelection :=
  { selectedChannels := env.getActiveChannelIdsFromPlan plan
    disabledChannels := env.getDisabledChannelIdsFromPlan plan }

def deriveCheckpointFromSession (env : Env) (session : Session) : OnboardCheckpoint :=
  { sessionId := session.sessionId
    machineState := session.machine.state
    updatedAt := session.updatedAt
    sandboxIdentity := identityDecision session
    webSearch := decisionFromLegacyNullable session.sandboxPromptProgress.webSearch
      session.webSearchConfig id
    messaging := decisionFromLegacyNullable session.sandboxPromptProgress.messaging
      session.messagingPlan (messagingSelection env)
    resourceProfile := decisionFromLegacyNullable
      session.sandboxPromptProgress.resourceProfile session.resourceProfile id
    gatewayAuthority := .unset
    effectGroups := fun _ => none
    bindings := { credentialEnvs := [], registeredProviders := [] }
    sandboxRecreate := none }

def baseCheckpoint (env : Env) (session : Session) : OnboardCheckpoint :=
  session.checkpoint.getD (deriveCheckpointFromSession env session)

/-- The stamp every recorder leaves: the session's machine state and the time. -/
def stampCheckpoint (session : Session) (now : IsoTimestamp) (c : OnboardCheckpoint) :
    OnboardCheckpoint :=
  { c with machineState := session.machine.state, updatedAt := now.val }

def recordCheckpointSandboxIdentity (env : Env) (session : Session) (name agent : String)
    (now : IsoTimestamp) : Session :=
  let base := baseCheckpoint env session
  { session with
    checkpoint := some { stampCheckpoint session now base with
      sandboxIdentity := .selected { name, agent } } }

def recordCheckpointEffectGroup (env : Env) (session : Session)
    (group : CheckpointEffectGroupName) (fingerprint : String) (now : IsoTimestamp) : Session :=
  let base := baseCheckpoint env session
  { session with
    checkpoint := some { stampCheckpoint session now base with
      effectGroups := Function.update base.effectGroups group
        (some { completedAt := now.val, fingerprint }) } }

def recordCheckpointWebSearch (env : Env) (session : Session)
    (webSearchConfig : Option WebSearchConfig) (now : IsoTimestamp) : Session :=
  let base := baseCheckpoint env session
  { session with
    checkpoint := some { stampCheckpoint session now base with
      webSearch := match webSearchConfig with
        | some config => .selected config
        | none => .declined } }

def recordCheckpointMessaging (env : Env) (session : Session) (messagingPlan : Option Json)
    (now : IsoTimestamp) : Session :=
  let base := baseCheckpoint env session
  { session with
    checkpoint := some { stampCheckpoint session now base with
      messaging := match messagingPlan with
        | some plan => .selected (messagingSelection env plan)
        | none => .declined } }

def recordCheckpointResourceProfile (env : Env) (session : Session)
    (resourceProfile : Option CheckpointResourceProfile) (now : IsoTimestamp) : Session :=
  let base := baseCheckpoint env session
  { session with
    checkpoint := some { stampCheckpoint session now base with
      resourceProfile := match resourceProfile with
        | some profile => .selected profile
        | none => .declined } }

/-! ## Provider effect groups -/

inductive ProviderEffectGroupName where
  | webSearchProvider
  | messagingProviders
  deriving DecidableEq

namespace ProviderEffectGroupName

def toEffectGroup : ProviderEffectGroupName → CheckpointEffectGroupName
  | webSearchProvider => .webSearchProvider
  | messagingProviders => .messagingProviders

def other : ProviderEffectGroupName → ProviderEffectGroupName
  | webSearchProvider => messagingProviders
  | messagingProviders => webSearchProvider

end ProviderEffectGroupName

/-- A name, type or variable that is not empty and has no outer white space. -/
def isCleanText (s : String) : Bool := s != "" && isTrimmed s

lemma isCleanText_ne_empty {s : String} (h : isCleanText s) : s ≠ "" := by
  simp only [isCleanText, Bool.and_eq_true, bne_iff_ne] at h; exact h.1

/-- Clean bindings with distinct names. -/
def ValidProviderBindings (bindings : List CheckpointProviderBinding) : Prop :=
  (∀ b ∈ bindings, isCleanText b.name ∧ isCleanText b.type ∧
    isCleanText b.credentialEnv) ∧ (bindings.map (·.name)).Nodup

instance (bindings : List CheckpointProviderBinding) :
    Decidable (ValidProviderBindings bindings) := inferInstanceAs (Decidable (_ ∧ _))

def assertValidProviderBindings (bindings : List CheckpointProviderBinding) :
    Except String Unit :=
  require (ValidProviderBindings bindings)
    "provider effect groups contain invalid or duplicate credential bindings"

lemma assertValidProviderBindings_bind_inv {β : Type} {bs : List CheckpointProviderBinding}
    {f : Unit → Except String β} {b : β}
    (h : (assertValidProviderBindings bs >>= f) = .ok b) :
    ValidProviderBindings bs ∧ f () = .ok b :=
  require_bind_inv h

def checkpointProviderEffectGroupNames (checkpoint : OnboardCheckpoint)
    (group : ProviderEffectGroupName) : Except String (List String) :=
  match checkpoint.effectGroups group.toEffectGroup with
  | none => .ok []
  | some receipt => do
    let names := splitComma receipt.fingerprint
    require (receipt.fingerprint ≠ "" ∧ (∀ name ∈ names, isCleanText name) ∧
        joinComma names = receipt.fingerprint ∧ names.Nodup)
      "provider effect group receipt contains invalid or duplicate provider names"
    return names

def providerReceipt (providers : List CheckpointProviderBinding) (now : IsoTimestamp) :
    Option CheckpointEffectGroupRecord :=
  if providers = [] then none
  else some { completedAt := now.val, fingerprint := joinComma (providers.map (·.name)) }

def withProviderEffectGroups (base : OnboardCheckpoint)
    (webSearch messaging : List CheckpointProviderBinding) (now : IsoTimestamp) :
    Except String OnboardCheckpoint := do
  let nextRegisteredProviders := webSearch ++ messaging
  assertValidProviderBindings nextRegisteredProviders
  return { base with
    effectGroups := fun
      | .webSearchProvider => providerReceipt webSearch now
      | .messagingProviders => providerReceipt messaging now
      | other => base.effectGroups other
    bindings :=
      { credentialEnvs := uniq (nextRegisteredProviders.map (·.credentialEnv))
        registeredProviders := nextRegisteredProviders } }

/-- The checkpoint after one group is recorded: its earlier members and any
unowned provider it adopts are replaced, the other group's stay. -/
def withProviderEffectGroup (base : OnboardCheckpoint) (group : ProviderEffectGroupName)
    (registeredProviders : List CheckpointProviderBinding) (now : IsoTimestamp) :
    Except String OnboardCheckpoint := do
  assertValidProviderBindings registeredProviders
  assertValidProviderBindings base.bindings.registeredProviders
  let previousGroupNames ← checkpointProviderEffectGroupNames base group
  let otherGroupNames ← checkpointProviderEffectGroupNames base group.other
  require ((previousGroupNames ++ otherGroupNames).Nodup)
    "provider effect group receipts contain conflicting provider ownership"
  require (∀ name ∈ previousGroupNames ++ otherGroupNames,
      name ∈ base.bindings.registeredProviders.map (·.name))
    "provider effect group receipt does not match registered credential bindings"
  require (∀ b ∈ registeredProviders, b.name ∉ otherGroupNames)
    "provider effect group conflicts with another group's provider ownership"
  let previousGroupBindings := base.bindings.registeredProviders.filter fun b =>
    b.name ∈ previousGroupNames
  let adoptedProviderBindings := base.bindings.registeredProviders.filter fun b =>
    b.name ∉ previousGroupNames ∧ b.name ∉ otherGroupNames ∧
      b.name ∈ registeredProviders.map (·.name)
  let remainingProviderBindings := base.bindings.registeredProviders.filter fun b =>
    b.name ∉ previousGroupNames ∧ b.name ∉ adoptedProviderBindings.map (·.name)
  let nextRegisteredProviders := remainingProviderBindings ++ registeredProviders
  assertValidProviderBindings nextRegisteredProviders
  let replacedCredentialEnvs :=
    (previousGroupBindings ++ adoptedProviderBindings).map (·.credentialEnv)
  return { base with
    effectGroups := Function.update base.effectGroups group.toEffectGroup
      (providerReceipt registeredProviders now)
    bindings :=
      { credentialEnvs := uniq
          (base.bindings.credentialEnvs.filter (fun env => env ∉ replacedCredentialEnvs) ++
            nextRegisteredProviders.map (·.credentialEnv))
        registeredProviders := nextRegisteredProviders } }

/-- Assign the checkpoint that `update` computes, unless it throws. -/
def recordWith (env : Env) (now : IsoTimestamp)
    (update : OnboardCheckpoint → Except String OnboardCheckpoint) : Call Session Unit := do
  let session ← get
  let next ← Call.ofExcept (update (baseCheckpoint env session))
  set { session with checkpoint := some (stampCheckpoint session now next) }

def recordCheckpointProviderEffectGroups (env : Env)
    (webSearch messaging : List CheckpointProviderBinding) (now : IsoTimestamp) :
    Call Session Unit :=
  recordWith env now fun base => withProviderEffectGroups base webSearch messaging now

def recordCheckpointProviderEffectGroup (env : Env) (group : ProviderEffectGroupName)
    (registeredProviders : List CheckpointProviderBinding) (now : IsoTimestamp) :
    Call Session Unit :=
  recordWith env now fun base => withProviderEffectGroup base group registeredProviders now

lemma recordWith_atomic (env : Env) (now : IsoTimestamp)
    (update : OnboardCheckpoint → Except String OnboardCheckpoint) :
    (recordWith env now update).Atomic := by
  refine Call.Silent.bind Call.silent_get fun session => ?_
  refine Call.Silent.bind (Call.silent_ofExcept _) fun next => ?_
  exact Call.atomic_set _

lemma recordWith_preserves {env : Env} {now : IsoTimestamp}
    {update : OnboardCheckpoint → Except String OnboardCheckpoint} {I : OnboardCheckpoint → Prop}
    (hstamp : ∀ session c, I c → I (stampCheckpoint session now c))
    (hupdate : ∀ c c', I c → update c = .ok c' → I c') (s : Session)
    (hs : I (baseCheckpoint env s)) :
    I (baseCheckpoint env ((recordWith env now update).exec s).2) := by
  cases hrun : update (baseCheckpoint env s) with
  | ok next =>
    have hexec : (recordWith env now update).exec s =
        (.ok (), { s with checkpoint := some (stampCheckpoint s now next) }) := by
      rw [recordWith, Call.exec_bind_ok (Call.exec_get s), hrun,
        Call.exec_bind_ok (Call.exec_ofExcept_ok next s)]
      rfl
    rw [hexec]; exact hstamp s next (hupdate _ _ hs hrun)
  | error e =>
    have hexec : (recordWith env now update).exec s = (.error e, s) := by
      rw [recordWith, Call.exec_bind_ok (Call.exec_get s), hrun,
        Call.exec_bind_error (Call.exec_ofExcept_error e s)]
    rw [hexec]; exact hs

end NemoClaw.Onboard
