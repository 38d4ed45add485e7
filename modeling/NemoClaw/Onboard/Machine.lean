import NemoClaw.Js.Json

/- The onboarding machine: its states and the legal transition graph.

Correspondence (machine/definition.ts, machine/transitions.ts, onboard-step-state.ts,
machine/events.ts ↔ Lean): definitions keep the source's names.
-/
namespace NemoClaw.Onboard

open Js

inductive OnboardMachineState where
  | init
  | preflight
  | gateway
  | providerSelection
  | inference
  | sandbox
  | agentSetup
  | openclaw
  | policies
  | finalizing
  | postVerify
  | complete
  | failed
  deriving DecidableEq

namespace OnboardMachineState

/-- `ONBOARD_MACHINE_STATE_IDS`, in the order of the definitions. -/
def all : List OnboardMachineState :=
  [init, preflight, gateway, providerSelection, inference, sandbox, agentSetup, openclaw,
    policies, finalizing, postVerify, complete, failed]

/-- The state's identifier in session files. -/
def id : OnboardMachineState → String
  | init => "init"
  | preflight => "preflight"
  | gateway => "gateway"
  | providerSelection => "provider_selection"
  | inference => "inference"
  | sandbox => "sandbox"
  | agentSetup => "agent_setup"
  | openclaw => "openclaw"
  | policies => "policies"
  | finalizing => "finalizing"
  | postVerify => "post_verify"
  | complete => "complete"
  | failed => "failed"

/-- `isTerminalOnboardMachineState`. -/
def isTerminal : OnboardMachineState → Bool
  | complete => true
  | failed => true
  | _ => false

end OnboardMachineState

open OnboardMachineState

/-- `isOnboardMachineState`, returning the state it recognises. -/
def readMachineState (v : Option Json) : Option OnboardMachineState :=
  (readString v).bind fun s => OnboardMachineState.all.find? (fun state => state.id == s)

variable (s : OnboardMachineState)

@[simp] lemma readMachineState_id : readMachineState (some (.str s.id)) = some s := by
  cases s <;> decide

/-! ## The transition graph -/

/-- `OnboardMachineTransitionKind`. -/
inductive TransitionKind where
  | advance
  | retry
  | branch
  | failure
  deriving DecidableEq

/-- `OnboardMachineTransition`. -/
structure Transition where
  source : OnboardMachineState
  target : OnboardMachineState
  kind : TransitionKind
  deriving DecidableEq

/-- `ONBOARD_MACHINE_DIRECT_TRANSITIONS`. -/
def directTransitions : List Transition :=
  [⟨init, preflight, .advance⟩,
   ⟨preflight, gateway, .advance⟩,
   ⟨gateway, providerSelection, .advance⟩,
   ⟨providerSelection, inference, .advance⟩,
   ⟨inference, providerSelection, .retry⟩,
   ⟨inference, sandbox, .advance⟩,
   ⟨sandbox, openclaw, .branch⟩,
   ⟨sandbox, agentSetup, .branch⟩,
   ⟨openclaw, policies, .advance⟩,
   ⟨agentSetup, policies, .advance⟩,
   ⟨policies, finalizing, .advance⟩,
   ⟨finalizing, postVerify, .advance⟩,
   ⟨postVerify, complete, .advance⟩]

/-- `ONBOARD_MACHINE_FAILURE_TRANSITIONS`. -/
def failureTransitions : List Transition :=
  (OnboardMachineState.all.filter fun s => !s.isTerminal).map fun s => ⟨s, failed, .failure⟩

/-- `ONBOARD_MACHINE_TRANSITIONS`. -/
def machineTransitions : List Transition := directTransitions ++ failureTransitions

/-- An edge of the graph, of either family. -/
def IsEdge (source target : OnboardMachineState) : Prop :=
  ∃ t ∈ machineTransitions, t.source = source ∧ t.target = target

instance (source target : OnboardMachineState) : Decidable (IsEdge source target) :=
  inferInstanceAs (Decidable (∃ t ∈ machineTransitions, _))

/-- The step names of a session, the keys of `defaultSteps`. -/
inductive StepName where
  | preflight
  | gateway
  | sandbox
  | providerSelection
  | inference
  | openclaw
  | agentSetup
  | policies
  deriving DecidableEq

namespace StepName

/-- In the order of `defaultSteps`. -/
def all : List StepName :=
  [preflight, gateway, sandbox, providerSelection, inference, openclaw, agentSetup, policies]

def key : StepName → String
  | preflight => "preflight"
  | gateway => "gateway"
  | sandbox => "sandbox"
  | providerSelection => "provider_selection"
  | inference => "inference"
  | openclaw => "openclaw"
  | agentSetup => "agent_setup"
  | policies => "policies"

def ofKey (s : String) : Option StepName := all.find? fun n => n.key == s

/-- `ONBOARD_SESSION_STEP_TO_MACHINE_STATE`. -/
def toMachineState : StepName → OnboardMachineState
  | preflight => .preflight
  | gateway => .gateway
  | sandbox => .sandbox
  | providerSelection => .providerSelection
  | inference => .inference
  | openclaw => .openclaw
  | agentSetup => .agentSetup
  | policies => .policies

end StepName

/-- `null` for an empty or unknown step name. -/
def machineStateFromOnboardSessionStep (stepName : Option String) :
    Option OnboardMachineState :=
  (stepName.bind StepName.ofKey).map StepName.toMachineState

/-- The state that follows a completed step; `agent` is the session's. -/
def nextMachineStateAfterCompletedStep (stepName : Option String) (agent : Option String) :
    Option OnboardMachineState :=
  match stepName.bind StepName.ofKey with
  | some .preflight => some .gateway
  | some .gateway => some .providerSelection
  | some .providerSelection => some .inference
  | some .inference => some .sandbox
  | some .sandbox =>
    -- an empty agent name is falsy
    if agent.any (· ≠ "") then some .agentSetup else some .openclaw
  | some .openclaw => some .policies
  | some .agentSetup => some .policies
  | some .policies => some .finalizing
  | none => none

end NemoClaw.Onboard
