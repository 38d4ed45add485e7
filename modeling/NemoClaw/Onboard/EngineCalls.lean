import NemoClaw.Onboard.EngineExecution

/- What the calls of the lifecycle programs leave alone.

Most of them only add: a file that is there stays there with what is in it. `Quiet`
says so of a call, and each program that makes such calls only has its lemma here.
`unlink` is not one of them, nor is a command for the engine.
-/
namespace NemoClaw.EngineLifecycle

open Js CallTree PrivateFiles

namespace Store

variable {env : Environment} {s : Store}

/-- Files that are there stay, with what is in them, and nothing is asked of the engine. -/
structure Grows (s s' : Store) : Prop where
  contents : ∀ x c, s.contents x = some c → s'.contents x = some c
  alive : s'.alive = s.alive
  issued : s'.issued = s.issued

end Store

/-- The call takes no file away and is no command. -/
def Request.Quiet : Request → Prop
  | .file (.rename _ _ _) | .file (.unlink _) | .capture _ => False
  | _ => True

lemma Store.exec_grows {env : Environment} {s : Store} {q : Request} (hq : q.Quiet) :
    s.Grows (s.exec env q).1 := by
  have hsame : ∀ s' : Store, s'.files.files = s.files.files → s'.alive = s.alive →
      s'.issued = s.issued → s.Grows s' := by
    intro s' hfiles halive hissued
    refine ⟨fun x c hc => ?_, halive, hissued⟩
    unfold Store.contents Files.contents
    rw [hfiles]; exact hc
  cases q with
  | file q =>
    have hadds : q.Adds := by
      cases q with
      | rename x n c => exact hq
      | unlink x => exact hq
      | _ => trivial
    exact ⟨fun x c hc => Files.exec_contents hadds hc, rfl, rfl⟩
  | capture command => exact hq.elim
  | _ => exact hsame _ rfl rfl rfl

/-! ## Quiet programs -/

abbrev QuietProgram {α : Type} (t : Program α) : Prop := t.Calls Request.Quiet

namespace QuietProgram

variable {α β : Type} {t : Program α}

lemma lift {r : Except Failure α} : QuietProgram (Tree.lift r) := trivial

lemma pure {a : α} : QuietProgram (Pure.pure a) := trivial

lemma fail {message : String} : QuietProgram (EngineLifecycle.fail message : Program α) :=
  trivial

lemma throwNew {message : String} :
    QuietProgram (EngineLifecycle.throwNew message : Program α) := trivial

lemma seq {f : α → Program β} (h : QuietProgram t) (hf : ∀ a, QuietProgram (f a)) :
    QuietProgram (t >>= f) := Tree.Calls.bind h hf

lemma ask {q : Request} (h : q.Quiet) : QuietProgram (Tree.ask q) := Tree.Calls.ask h

lemma ite {p : Prop} [Decidable p] {t' : Program α} (h : QuietProgram t)
    (h' : QuietProgram t') : QuietProgram (if p then t else t') :=
  Tree.Calls.ite (fun _ => h) fun _ => h'

end QuietProgram

open QuietProgram

lemma quiet_readPrivateFile (x : Name) : QuietProgram (readPrivateFile x) := by
  refine .seq (ask trivial) fun file => ?_
  cases file with
  | none => exact .pure
  | some f => exact .ite .fail (.seq (ask trivial) fun _ => .ite .fail .pure)

lemma quiet_cleanup {α : Type} (x : Name) (n : ℕ) (r : Except Failure α) :
    QuietProgram (cleanup x n r) := .seq (ask trivial) fun _ => .lift

lemma quiet_publishExclusive (x : Name) (c : Content) : QuietProgram (publishExclusive x c) :=
  .seq (ask trivial) fun _ => .seq (ask trivial) fun _ => .seq (ask trivial) fun _ => .ite
    (.seq (ask trivial) fun _ => .ite (quiet_cleanup _ _ _) (quiet_cleanup _ _ _))
    (quiet_cleanup _ _ _)

lemma quiet_loadLeaseFile (t : String) (slot : Slot) : QuietProgram (loadLeaseFile t slot) :=
  .seq (quiet_readPrivateFile _) fun _ => .lift

lemma quiet_requireExactExecutionLease (t : String) (expected : Lease) :
    QuietProgram (requireExactExecutionLease t expected) :=
  .seq (quiet_loadLeaseFile t .lease) fun _ => .lift

lemma quiet_loadPhase (t : String) (phase : Phase) : QuietProgram (loadPhase t phase) :=
  .seq (quiet_readPrivateFile _) fun _ => .lift

lemma quiet_loadTransaction (t : String) : QuietProgram (loadTransaction t) :=
  .seq .lift fun _ => .seq (ask trivial) fun _ => .ite
    (.seq (quiet_loadPhase t .prepared) fun _ => .seq .lift fun _ =>
      .seq (quiet_loadPhase t .mutationAuthorized) fun _ =>
        .seq (quiet_loadPhase t .completed) fun _ => .lift)
    .pure

lemma quiet_existingPhase (record : Record) (c : Content) :
    QuietProgram (existingPhase record c) := by
  refine .seq (quiet_loadPhase _ _) fun existing => ?_
  cases existing with
  | none => exact .fail
  | some existing => exact .seq .lift fun _ => .ite .pure .fail

lemma quiet_publishPhase (record : Record) : QuietProgram (publishPhase record) :=
  .seq .lift fun _ => .seq (ask trivial) fun _ => .seq .lift fun _ =>
    .seq (quiet_publishExclusive _ _) fun _ => .ite .pure (quiet_existingPhase record _)

lemma quiet_authorizeMutation (t : String) : QuietProgram (authorizeMutation t) := by
  refine .seq (quiet_loadTransaction t) fun current => ?_
  cases current with
  | none => exact .fail
  | some current =>
  cases hphase : current.phase with
  | prepared => simp only [hphase]; exact .seq .lift fun _ => quiet_publishPhase _
  | mutationAuthorized => simp only [hphase]; exact .pure
  | completed => simp only [hphase]; exact .fail

lemma quiet_assertMutationExecution (lease : Lease) :
    QuietProgram (assertMutationExecution lease) :=
  .seq .lift fun _ => .seq (quiet_loadTransaction _) fun _ =>
    .ite .fail (quiet_requireExactExecutionLease _ _)

lemma quiet_expectedRecord (input : Input) : QuietProgram (expectedRecord input) :=
  .seq (ask trivial) fun _ => .seq .lift fun _ => .lift

lemma quiet_requireCurrentEngineAuthority (expected : EngineAuthority) (input : Input) :
    QuietProgram (requireCurrentEngineAuthority expected input) :=
  .ite .throwNew (.seq (ask trivial) fun _ => .seq .lift fun _ => .lift)

lemma quiet_requireExpectedLifecycle (input : Input) :
    QuietProgram (requireExpectedLifecycle input) := by
  refine .seq (quiet_expectedRecord input) fun _ => .seq (quiet_loadTransaction _) fun current => ?_
  cases current with
  | none => exact .throwNew
  | some current =>
    exact .seq .lift fun _ => .seq (quiet_requireCurrentEngineAuthority _ input) fun _ => .pure

lemma quiet_guardScope (input : Input) (lease : Lease) : QuietProgram (guardScope input lease) :=
  .seq (quiet_requireExpectedLifecycle input) fun _ =>
    .ite .throwNew (quiet_assertMutationExecution lease)

end NemoClaw.EngineLifecycle
