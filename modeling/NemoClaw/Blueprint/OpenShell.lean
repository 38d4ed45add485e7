import NemoClaw.Js.Text
import NemoClaw.Lib.CallTree

/- The commands that a blueprint run gives to OpenShell.

The world holds sandboxes and providers by name, and which provider is attached to which
sandbox; each of them has an origin, the run that created it if one did. What a command
comes to is an outcome: what it answers, and whether it took effect. A run is given its
outcomes as a list, and every list stands for one course of events.

Correspondence (nemoclaw/src/blueprint/runner.ts and runtime-identity.ts ↔ Lean): the
patterns of missing resources keep their names. A provider of an inference profile and
one of a runtime identity share the names of providers, as in OpenShell.
-/
namespace NemoClaw.Runner

open Js CallTree Function

/-! ## The world -/

/-- The ID of a run is made of the time and random digits; runs are numbered here. -/
abbrev RunId := ℕ

/-- Who created a resource. -/
inductive Origin where
  | other
  | run (id : RunId)
  deriving DecidableEq

/-- What the gateway keeps by name. -/
inductive Resource where
  | sandbox (name : String)
  | provider (name : String)
  deriving DecidableEq

/-- What there is. An attachment does not outlive its ends. -/
structure World where
  origin : Resource → Option Origin
  attached : String → String → Option Origin
  ends : ∀ s p, attached s p ≠ none →
    origin (.sandbox s) ≠ none ∧ origin (.provider p) ≠ none

namespace World

/-- A resource is created, unless its name is taken. -/
def create (w : World) (x : Resource) (o : Origin) : World :=
  if w.origin x = none then
    { origin := Function.update w.origin x (some o)
      attached := w.attached
      ends := by
        intro s p h
        have hkeep : ∀ y, w.origin y ≠ none → Function.update w.origin x (some o) y ≠ none := by
          intro y hy
          by_cases heq : y = x
          · rw [heq, update_self]
            exact Option.some_ne_none o
          · rwa [update_of_ne heq]
        exact ⟨hkeep _ (w.ends s p h).1, hkeep _ (w.ends s p h).2⟩ }
  else w

/-- A resource is removed with what is attached to it. -/
def remove (w : World) (x : Resource) : World where
  origin := Function.update w.origin x none
  attached s p := if x = .sandbox s ∨ x = .provider p then none else w.attached s p
  ends := by
    intro s p h
    by_cases heq : x = .sandbox s ∨ x = .provider p
    · rw [if_pos heq] at h
      exact absurd rfl h
    · rw [if_neg heq] at h
      obtain ⟨hs, hp⟩ := not_or.mp heq
      rw [update_of_ne (Ne.symm hs), update_of_ne (Ne.symm hp)]
      exact w.ends s p h

/-- A provider is attached to a sandbox, if both are there. -/
def attach (w : World) (s p : String) (o : Origin) : World :=
  if h : w.origin (.sandbox s) ≠ none ∧ w.origin (.provider p) ≠ none ∧ w.attached s p = none then
    { origin := w.origin
      attached := fun s' p' => if s' = s ∧ p' = p then some o else w.attached s' p'
      ends := by
        intro s' p' h'
        by_cases heq : s' = s ∧ p' = p
        · obtain ⟨rfl, rfl⟩ := heq
          exact ⟨h.1, h.2.1⟩
        · rw [if_neg heq] at h'
          exact w.ends s' p' h' }
  else w

/-- A provider is no longer attached to a sandbox. -/
def detach (w : World) (s p : String) : World where
  origin := w.origin
  attached s' p' := if s' = s ∧ p' = p then none else w.attached s' p'
  ends := by
    intro s' p' h
    by_cases heq : s' = s ∧ p' = p
    · rw [if_pos heq] at h
      exact absurd rfl h
    · rw [if_neg heq] at h
      exact w.ends s' p' h

lemma create_origin (w : World) (x : Resource) (o : Origin) (y : Resource) :
    (w.create x o).origin y = if y = x ∧ w.origin x = none then some o else w.origin y := by
  unfold create
  by_cases habsent : w.origin x = none
  · rw [if_pos habsent]
    by_cases heq : y = x
    · rw [if_pos ⟨heq, habsent⟩, heq]; exact update_self ..
    · rw [if_neg fun h => heq h.1]; exact update_of_ne heq ..
  · rw [if_neg habsent, if_neg fun h => habsent h.2]

@[simp] lemma create_attached (w : World) (x : Resource) (o : Origin) :
    (w.create x o).attached = w.attached := by
  unfold create
  split <;> rfl

variable {w : World} {s p : String}

/-- What is there stays as it is. -/
lemma create_origin_some {x y : Resource} {o c : Origin} (h : w.origin y = some c) :
    (w.create x o).origin y = some c := by
  rw [create_origin, if_neg]
  · exact h
  · rintro ⟨rfl, habsent⟩
    rw [h] at habsent; cases habsent

@[simp] lemma remove_origin_self (w : World) (x : Resource) : (w.remove x).origin x = none :=
  update_self ..

lemma remove_origin_of_ne {x y : Resource} (h : y ≠ x) :
    (w.remove x).origin y = w.origin y := update_of_ne h ..

lemma remove_attached {x : Resource} (hs : x ≠ .sandbox s) (hp : x ≠ .provider p) :
    (w.remove x).attached s p = w.attached s p :=
  if_neg (not_or.mpr ⟨hs, hp⟩)

lemma attached_of_remove {x : Resource} {c : Origin} (h : (w.remove x).attached s p = some c) :
    w.attached s p = some c := by
  by_cases heq : x = .sandbox s ∨ x = .provider p
  · have hnone : (w.remove x).attached s p = none := if_pos heq
    rw [hnone] at h; cases h
  · rw [← h]; exact (if_neg heq).symm

@[simp] lemma attach_origin (w : World) (s p : String) (o : Origin) :
    (w.attach s p o).origin = w.origin := by
  unfold attach
  split <;> rfl

lemma attach_attached_self {o : Origin} (hs : w.origin (.sandbox s) ≠ none)
    (hp : w.origin (.provider p) ≠ none) (h : w.attached s p = none) :
    (w.attach s p o).attached s p = some o := by
  unfold attach
  rw [dif_pos ⟨hs, hp, h⟩]; exact if_pos ⟨rfl, rfl⟩

lemma attach_attached_of_ne {s' p' : String} {o : Origin} (h : ¬(s' = s ∧ p' = p)) :
    (w.attach s p o).attached s' p' = w.attached s' p' := by
  unfold attach
  split
  · exact if_neg h
  · rfl

@[simp] lemma detach_attached_self (w : World) (s p : String) :
    (w.detach s p).attached s p = none := if_pos ⟨rfl, rfl⟩

lemma detach_attached_of_ne {s' p' : String} (h : ¬(s' = s ∧ p' = p)) :
    (w.detach s p).attached s' p' = w.attached s' p' := if_neg h

lemma attached_of_absent (h : w.origin (.sandbox s) = none ∨ w.origin (.provider p) = none) :
    w.attached s p = none := by
  by_contra hattached
  obtain ⟨hs, hp⟩ := w.ends s p hattached
  rcases h with h | h
  · exact hs h
  · exact hp h

end World

/-- The commands that a run gives to the gateway. -/
inductive Command where
  | sandboxGet (name : String)
  | sandboxCreate (image name : String) (forwardPorts : List ℕ)
  | sandboxStop (name : String)
  | sandboxRemove (name : String)
  | providerGet (name : String)
  | providerCreate (name type : String) (options : List String)
  | providerDelete (name : String)
  | inferenceGet
  | inferenceSet (provider model : String) (timeoutSecs : Option ℕ)
  | settingsGet
  | profileImport
  | profileExport (type : String)
  | refreshConfigure (provider credentialKey : String)
  | refreshRotate (provider credentialKey : String)
  | attach (sandbox provider : String)
  | detach (sandbox provider : String)
  | policyGet (sandbox : String)
  | policySet (sandbox : String)
  deriving DecidableEq

/-- What a command does when it takes effect. -/
def Command.effect (r : RunId) (w : World) : Command → World
  | sandboxCreate _ name _ => w.create (.sandbox name) (.run r)
  | sandboxRemove name => w.remove (.sandbox name)
  | providerCreate name _ _ => w.create (.provider name) (.run r)
  | providerDelete name => w.remove (.provider name)
  | attach sandbox provider => w.attach sandbox provider (.run r)
  | detach sandbox provider => w.detach sandbox provider
  | _ => w

/-- The resource that is gone once the command has taken effect. -/
def Command.removes : Command → Option Resource
  | sandboxRemove name => some (.sandbox name)
  | providerDelete name => some (.provider name)
  | _ => none

/-- A name that is to be created is there, or what is to be attached is attached or has an end
missing. -/
def Command.refused (w : World) : Command → Bool
  | sandboxCreate _ name _ => (w.origin (.sandbox name)).isSome
  | providerCreate name _ _ => (w.origin (.provider name)).isSome
  | attach sandbox provider =>
    (w.attached sandbox provider).isSome || (w.origin (.sandbox sandbox)).isNone ||
      (w.origin (.provider provider)).isNone
  | _ => false

/-- What the command names is not there. Nothing reads the output of the other commands for
that, so they may say anything. -/
def Command.absent (w : World) : Command → Bool
  | sandboxGet name | sandboxStop name | sandboxRemove name => (w.origin (.sandbox name)).isNone
  | providerGet name | providerDelete name => (w.origin (.provider name)).isNone
  | detach sandbox provider => (w.attached sandbox provider).isNone
  | _ => true

/-- What a command prints, and how it exits. -/
structure Result where
  exitCode : ℕ
  stdout : String
  stderr : String
  deriving DecidableEq

/-- A result, and whether the command took effect. -/
structure Outcome extends Result where
  effective : Bool

/-! ## Missing resources -/

/-- What a word boundary separates from the rest. -/
def isWordChar (c : Char) : Bool := c.isAlphanum || c == '_'

/-- The phrase stands here as whole words. -/
def startsPhrase (phrase : List Char) (before : Option Char) (text : List Char) : Bool :=
  text.take phrase.length == phrase && !before.any isWordChar &&
    !(text.drop phrase.length).head?.any isWordChar

/-- What follows a phrase, for each place where it stands as whole words. -/
def restsOfPhrase (phrase : List Char) : Option Char → List Char → List (Option Char × List Char)
  | _, [] => []
  | before, c :: rest =>
    (if startsPhrase phrase before (c :: rest) then
      [(phrase.getLast?, (c :: rest).drop phrase.length)] else []) ++
      restsOfPhrase phrase (some c) rest

/-- One of the phrases stands in the text. -/
def hasPhrase (phrases : List String) (before : Option Char) (text : List Char) : Bool :=
  phrases.any fun phrase => !(restsOfPhrase phrase.toList before text).isEmpty

/-- How a resource is said to be missing. -/
def missingPhrases : List String := ["not found", "does not exist"]

/-- The text without regard to case. -/
def lowered (text : String) : List Char := text.toList.map Char.toLower

/-- The text says that something is missing. -/
def missingSandboxPattern (text : String) : Bool := hasPhrase missingPhrases none (lowered text)

/-- A line names the word, and something that is missing. -/
def missingOnLine (word : String) (text : String) : Bool :=
  ((lowered text).splitOnP fun c => c == '\n' || c == '\r').any fun line =>
    (restsOfPhrase word.toList none line).any (fun rest => hasPhrase missingPhrases rest.1 rest.2) ||
      missingPhrases.any fun phrase =>
        (restsOfPhrase phrase.toList none line).any fun rest => hasPhrase [word] rest.1 rest.2

/-- A line says that a sandbox is missing. -/
def missingSandboxInspectionPattern (text : String) : Bool := missingOnLine "sandbox" text

/-- A line says that a provider is missing or unknown. -/
def missingProviderInspectionPattern (text : String) : Bool :=
  missingOnLine "provider" text || hasPhrase ["unknown provider"] none (lowered text)

/-- The text says that a resource is missing. -/
def missingResourcePattern (text : String) : Bool :=
  hasPhrase (missingPhrases ++ ["unknown provider"]) none (lowered text)

/-- The text has the part. -/
def containsText (part : String) (text : List Char) : Bool :=
  text.tails.any fun rest => rest.take part.length == part.toList

/-- `/already attached/i`. -/
def alreadyAttachedPattern (text : String) : Bool := containsText "already attached" (lowered text)

/-- `/not attached/i`. -/
def notAttachedPattern (text : String) : Bool := containsText "not attached" (lowered text)

/-- `/already exists/i`. -/
def alreadyExistsPattern (text : String) : Bool := containsText "already exists" (lowered text)

/-- What the commands of an identity are judged by. -/
def Result.commandOutput (result : Result) : String := result.stdout ++ "\n" ++ result.stderr

/-- What an inspection is judged by. -/
def Result.inspectionOutput (result : Result) : String := result.stderr ++ "\n" ++ result.stdout

/-- The command failed on a missing resource. -/
def Result.isMissingResource (result : Result) : Bool :=
  result.exitCode ≠ 0 && missingResourcePattern result.commandOutput

/-- One of the patterns reads the result as a missing resource. -/
def Result.saysMissing (result : Result) : Bool :=
  missingResourcePattern result.commandOutput || notAttachedPattern result.commandOutput ||
    missingSandboxPattern result.stderr ||
    missingSandboxInspectionPattern result.inspectionOutput ||
    missingProviderInspectionPattern result.inspectionOutput ||
    missingProviderInspectionPattern result.stderr

example : missingProviderInspectionPattern "Error: provider 'default' does not exist" := by
  decide +kernel

/-! ## Programs -/

/-- The identity that a run has created. -/
structure RuntimeIdentityReceipt where
  providerType : String
  providerName : String
  credentialKey : String
  providerCreated : Bool
  attachmentCreated : Bool
  deriving DecidableEq

/-- What a rollback reads of `plan.json`. -/
structure Plan where
  sandboxName : String
  sandboxCreatedByApply : Bool
  inferenceProviderCreatedByApply : Bool
  inferenceProviderName : Option String
  identity : Option RuntimeIdentityReceipt
  deriving DecidableEq

/-- The variables of an apply that its parts share. -/
structure Vars where
  runtimeIdentityReceipt : Option RuntimeIdentityReceipt
  sandboxCreatedByApply : Bool
  inferenceProviderCreatedByApply : Bool

/-- The world, the files of the runs, the variables of the apply that is running, the outcomes
still to come, and what each run has removed. -/
structure State where
  world : World
  plans : RunId → Option Plan
  rolledBack : RunId → Bool
  vars : Vars
  outcomes : List Outcome
  removed : List (RunId × Resource)

/-- What a run asks of its host. -/
inductive Call where
  | run (r : RunId) (c : Command)
  | getVars
  | setVars (v : Vars)
  | writePlan (r : RunId) (p : Plan)
  | readPlan (r : RunId)
  | writeRolledBack (r : RunId)

/-- What the host answers to each call. -/
def Call.Answer : Call → Type
  | run .. => Result
  | getVars => Vars
  | setVars _ => Unit
  | writePlan .. => Unit
  | readPlan _ => Option Plan
  | writeRolledBack _ => Unit

namespace State

/-- What comes of the next command; without a plan it fails. -/
def next (s : State) : Outcome := s.outcomes.headD ⟨⟨1, "", ""⟩, false⟩

/-- What the next command takes away. -/
def takes (s : State) (c : Command) : Option Resource :=
  if s.next.effective then c.removes.filter fun x => (s.world.origin x).isSome else none

/-- The host answers a call. -/
def exec (s : State) : (q : Call) → State × q.Answer
  | .run r c =>
    ({ s with
        world := if s.next.effective then c.effect r s.world else s.world
        outcomes := s.outcomes.tail
        removed := ((s.takes c).map fun x => (r, x)).toList ++ s.removed }, s.next.toResult)
  | .getVars => (s, s.vars)
  | .setVars v => ({ s with vars := v }, ())
  | .writePlan r p => ({ s with plans := Function.update s.plans r (some p) }, ())
  | .readPlan r => (s, s.plans r)
  | .writeRolledBack r => ({ s with rolledBack := Function.update s.rolledBack r true }, ())

/-- A command that succeeds took effect and was not to be refused. Where `strict`, one that fails
has no effect, and says that something is missing only if it is. -/
def Honest (strict : Bool) (s : State) : Call → Prop
  | .run _ c =>
    (s.next.exitCode = 0 → s.next.effective ∧ c.refused s.world = false) ∧
      (strict → s.next.exitCode ≠ 0 →
        s.next.effective = false ∧ (s.next.saysMissing → c.absent s.world))
  | _ => True

end State

/-- A function of the runner as a tree of calls. -/
abbrev Prog (α : Type) := Tree Call Call.Answer String α

/-- A command is run. -/
def runCmd (r : RunId) (c : Command) : Prog Result := Tree.ask (Call.run r c)

/-- The variables of the run. -/
def getVars : Prog Vars := Tree.ask Call.getVars

/-- They are set. -/
def setVars (v : Vars) : Prog Unit := Tree.ask (Call.setVars v)

/-- The plan of a run is written. -/
def writePlan (r : RunId) (p : Plan) : Prog Unit := Tree.ask (Call.writePlan r p)

/-- The plan of a run, if it has one. -/
def readPlan (r : RunId) : Prog (Option Plan) := Tree.ask (Call.readPlan r)

/-- A run is marked as rolled back. -/
def writeRolledBack (r : RunId) : Prog Unit := Tree.ask (Call.writeRolledBack r)

end NemoClaw.Runner
