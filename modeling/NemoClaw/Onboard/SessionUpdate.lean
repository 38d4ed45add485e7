import NemoClaw.Js.Call
import NemoClaw.Onboard.SessionFormat

/- Saving the session and updating it on disk.

Every durable change of a session is a load, a mutation in memory and a save. The
save applies the normaliser first, and writes a new session where it refuses.

What is proved:
  1. `sessionToSave_admissible` — an admissible session is saved with its core,
     and with the checkpoint that its own reads back as.
  2. `loadSession_write` — what was saved loads again, under any clock, with
     that core and checkpoint.
-/
namespace NemoClaw.Onboard

open Js Js.Json

def saveSession (env : Env) (amb : Ambient) (session : Session) : Call SessionStore Session := do
  let saved := sessionToSave env amb session
  modify fun store => store.write env saved
  return saved

/-- A mutation of the stored session, or of a new one, that is saved. What it throws is thrown, and
then nothing is saved. -/
def updateSession {α : Type} (env : Env) (amb : Ambient) (mutator : Call Session α) :
    Call SessionStore Session := do
  let store ← get
  let current := (loadSession env (amb.part 3) store).getD (createSession env (amb.part 4) {})
  match mutator.exec current with
  | (.ok _, next) => saveSession env amb next
  | (.error e, _) => throw e

/-- The checkpoint that a save or a load makes of a checkpoint in memory. -/
def rereadCheckpoint (env : Env) (checkpoint : Option OnboardCheckpoint) :
    Option OnboardCheckpoint :=
  parseStoredCheckpoint env.urls (some (ofOption serializeCheckpoint checkpoint))

lemma rereadCheckpoint_wellFormed {env : Env} {c : OnboardCheckpoint}
    (h : c.WellFormed env.urls) :
    rereadCheckpoint env (some c) = some c.canonical ∧ c.canonical.WellFormed env.urls := by
  have hparse : rereadCheckpoint env (some c) = some c.canonical :=
    parseStoredCheckpoint_serialize h
  exact ⟨hparse, parseStoredCheckpoint_wellFormed hparse⟩

theorem sessionToSave_admissible (env : Env) (amb : Ambient) {s : Session}
    (h : s.core.Admissible) :
    (sessionToSave env amb s).core = s.core ∧
      (sessionToSave env amb s).checkpoint = rereadCheckpoint env s.checkpoint := by
  obtain ⟨s', hs', hcore, hcheckpoint⟩ := normalizeSession_toJson env (amb.part 0) h
  unfold sessionToSave
  rw [hs']; exact ⟨hcore, hcheckpoint⟩

theorem loadSession_write (env : Env) (amb : Ambient) (store : SessionStore) {s : Session}
    (h : s.core.Admissible) :
    ∃ s', loadSession env amb (store.write env s) = some s' ∧ s'.core = s.core ∧
      s'.checkpoint = rereadCheckpoint env s.checkpoint :=
  normalizeSession_toJson env amb (s := { s with
    messagingPlan := s.messagingPlan.map env.compactSandboxMessagingPlanForPersistence }) h

lemma exec_updateSession {α : Type} {env : Env} {amb : Ambient} {mutator : Call Session α}
    {store : SessionStore} {s : Session} (h : loadSession env (amb.part 3) store = some s) :
    ((updateSession env amb mutator).exec store).2 =
      match mutator.exec s with
      | (.ok _, next) => store.write env (sessionToSave env amb next)
      | (.error _, _) => store := by
  unfold updateSession
  rw [Call.exec_bind_ok (Call.exec_get store), h]
  simp only [Option.getD_some]
  cases mutator.exec s with
  | mk r next => cases r <;> rfl

end NemoClaw.Onboard
