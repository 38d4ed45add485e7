import NemoClaw.Lib.Runs
import NemoClaw.Blueprint.Rollback

/- Whether a rollback removes only what its own run created.

Runs share what they create by name only, and the plan of a run is never revised by its
rollback; the marker that a rollback writes is read by nobody. So a second rollback of a
run finds whatever has the recorded names by then.

What is proved:
  1. `System.Owned` — what the plan of a run records is its own, or the run has removed it
     already; every apply keeps to this, and every rollback that meets `Untouched`.
  2. `actionRollback_onlyOwn` — in every run of applies and rollbacks whose rollbacks find
     nothing anew that they have removed before, a rollback removes only its own.
  3. `actionRollback_recreated` — a second rollback that does removes the sandbox of
     another run.
-/
namespace NemoClaw.Runner

open Js CallTree Runs List

/-! ## The system -/

inductive Action where
  | apply (r : RunId) (b : Blueprint) (outcomes : List Outcome)
  | rollback (r : RunId) (outcomes : List Outcome)

structure System where
  state : State
  used : List RunId

instance {strict : Bool} (s : State) : (q : Call) → Decidable (s.Honest strict q)
  | .run _ c =>
    inferInstanceAs (Decidable ((s.next.exitCode = 0 →
      s.next.effective ∧ c.refused s.world = false) ∧
      (strict → s.next.exitCode ≠ 0 →
        s.next.effective = false ∧ (s.next.saysMissing → c.absent s.world))))
  | .getVars | .setVars _ | .writePlan .. | .readPlan _ | .writeRolledBack _ => isTrue trivial

namespace System

def start (t : System) (outcomes : List Outcome) : State := { t.state with outcomes }

/-- An apply takes a run ID of its own. -/
def step (rd : Readers) (t : System) : Action → Option System
  | .apply r b outcomes =>
    if r ∈ t.used then none
    else some ⟨((actionApply rd r b).finish State.exec (t.start outcomes)).1, r :: t.used⟩
  | .rollback r outcomes =>
    some ⟨((actionRollback rd r).finish State.exec (t.start outcomes)).1, t.used⟩

/-- Nothing that a command of the run has removed, and that its plan records, is there anew. -/
def Untouched (t : System) (r : RunId) : Prop :=
  ∀ p, t.state.plans r = some p → ∀ x, p.Records x → (r, x) ∈ t.state.removed →
    t.state.world.origin x = none

/-- OpenShell is honest about the commands of the action. -/
def Honest (rd : Readers) (t : System) : Action → Prop
  | .apply r b outcomes =>
    (actionApply rd r b).Meets State.exec (State.Honest false) (t.start outcomes)
  | .rollback r outcomes =>
    (actionRollback rd r).Meets State.exec (State.Honest false) (t.start outcomes)

instance (rd : Readers) (t : System) : (a : Action) → Decidable (t.Honest rd a)
  | .apply r b outcomes =>
    inferInstanceAs (Decidable
      ((actionApply rd r b).Meets State.exec (State.Honest false) (t.start outcomes)))
  | .rollback r outcomes =>
    inferInstanceAs (Decidable
      ((actionRollback rd r).Meets State.exec (State.Honest false) (t.start outcomes)))

def Allows (t : System) : Action → Prop
  | .apply .. => True
  | .rollback r _ => t.Untouched r

structure Owned (t : System) : Prop where
  recorded : ∀ r p, t.state.plans r = some p → ∀ x, p.Records x →
    t.state.world.origin x = some (.run r) ∨ (r, x) ∈ t.state.removed
  usedOrigin : ∀ x r, t.state.world.origin x = some (.run r) → r ∈ t.used
  usedPlan : ∀ r p, t.state.plans r = some p → r ∈ t.used

/-- Nobody has applied anything yet. -/
structure Initial (t : System) : Prop where
  origin : ∀ x r, t.state.world.origin x ≠ some (.run r)
  plans : ∀ r, t.state.plans r = none

lemma Initial.owned {t : System} (h : t.Initial) : t.Owned where
  recorded r p hp := by
    rw [h.plans r] at hp; cases hp
  usedOrigin x r hx := absurd hx (h.origin x r)
  usedPlan r p hp := by
    rw [h.plans r] at hp; cases hp

end System

def OnlyOwn (r : RunId) (w w' : World) : Prop :=
  ∀ x, w'.origin x = w.origin x ∨ w.origin x = some (.run r)

section

variable {rd : Readers} {r : RunId} {b : Blueprint} {t : System} {outcomes : List Outcome}

section

variable (h : t.Owned)
include h

section

variable (huntouched : t.Untouched r)
include huntouched

lemma System.Owned.own {p : Plan} (hp : t.state.plans r = some p) {x : Resource}
    (hx : p.Records x) (hthere : t.state.world.origin x ≠ none) :
    t.state.world.origin x = some (.run r) := by
  rcases h.recorded r p hp x hx with hown | hremoved
  · exact hown
  · exact absurd (huntouched p hp x hx hremoved) hthere

lemma System.Owned.rollback_takes :
    Takes r (fun x => ∀ c, t.state.world.origin x = some c → c = .run r) t.state
      ((actionRollback rd r).finish State.exec (t.start outcomes)).1 := by
  have hdoes : Does (fun _ _ => True)
      (fun s' _ => Takes r (fun x => ∀ c, t.state.world.origin x = some c → c = .run r)
        (t.start outcomes) s')
      (actionRollback rd r) (t.start outcomes) := by
    refine actionRollback_takes fun p hp x hx c hc => ?_
    have hown := h.own huntouched hp hx (by simp [hc])
    rw [hc] at hown; exact Option.some.inj hown
  have htakes := Safe.finish hdoes
  exact ⟨htakes.plans, htakes.origin, htakes.removed, htakes.listed⟩

lemma System.Owned.rollback_onlyOwn :
    OnlyOwn r t.state.world
      ((actionRollback rd r).finish State.exec (t.start outcomes)).1.world := by
  intro x
  have htakes := @System.Owned.rollback_takes rd r t outcomes h huntouched
  rcases htakes.origin x with heq | ⟨hown, hgone⟩
  · exact .inl heq
  cases hx : t.state.world.origin x with
  | none => exact .inl hgone
  | some c => rw [hown c hx]; exact .inr rfl

lemma System.Owned.rollback :
    Owned ⟨((actionRollback rd r).finish State.exec (t.start outcomes)).1, t.used⟩ := by
  have htakes := @System.Owned.rollback_takes rd r t outcomes h huntouched
  refine ⟨fun r' p hp x hx => ?_, fun x r' hx => ?_, fun r' p hp => ?_⟩
  · rw [htakes.plans] at hp
    rcases h.recorded r' p hp x hx with hown | hremoved
    · rcases htakes.origin x with heq | ⟨hmay, hgone⟩
      · exact .inl (heq.trans hown)
      · -- what is taken is that of the run that is rolled back
        have hrun := hmay _ hown
        cases hrun; exact .inr (htakes.listed x (by simp [hown]) hgone)
    · exact .inr (htakes.removed _ hremoved)
  · rcases htakes.origin x with heq | ⟨-, hgone⟩
    · exact h.usedOrigin x r' (heq ▸ hx)
    · rw [hgone] at hx; cases hx
  · exact h.usedPlan r' p (htakes.plans ▸ hp)

end

lemma System.Owned.apply (hfresh : r ∉ t.used)
    (hmeets : (actionApply rd r b).Meets State.exec (State.Honest false) (t.start outcomes)) :
    Owned ⟨((actionApply rd r b).finish State.exec (t.start outcomes)).1, r :: t.used⟩ := by
  have htoCome : ToCome false r (t.start outcomes) := by
    refine ⟨⟨fun x hx => hfresh (h.usedOrigin x r hx), nofun⟩, ?_⟩
    by_contra hplan
    obtain ⟨p, hp⟩ := Option.ne_none_iff_exists'.mp hplan
    exact hfresh (h.usedPlan r p hp)
  have hdoes : Does (State.Honest false)
      (fun s' result => (s' = t.start outcomes ∧ result ≠ .ok ()) ∨
        resolveRunConfig rd b = .ok () ∧ Going false r b (t.start outcomes) s')
      (actionApply rd r b) (t.start outcomes) := actionApply_does htoCome
  rcases Safe.finish_of_meets hdoes hmeets with ⟨hsame, -⟩ | ⟨-, hgoing⟩
  · rw [hsame]
    exact ⟨h.recorded, fun x r' hx => mem_cons_of_mem r (h.usedOrigin x r' hx),
      fun r' p hp => mem_cons_of_mem r (h.usedPlan r' p hp)⟩
  refine ⟨fun r' p hp x hx => ?_, fun x r' hx => ?_, fun r' p hp => ?_⟩
  · by_cases heq : r' = r
    · subst heq
      rcases hgoing.plan with hplan | ⟨hplan, -⟩
      · rw [hplan] at hp
        cases hp; exact (hgoing.kept.flagged x (flagged_of_records hx)).imp_right And.right
      · rw [hplan] at hp; cases hp
    · rw [hgoing.others r' heq] at hp
      exact (h.recorded r' p hp x hx).imp (hgoing.kept.kept x _) (hgoing.kept.removedKept _)
  · rcases hgoing.kept.only x _ hx with heq | hbefore
    · cases heq; exact mem_cons_self
    · exact mem_cons_of_mem r (h.usedOrigin x r' hbefore)
  · by_cases heq : r' = r
    · rw [heq]; exact mem_cons_self
    · exact mem_cons_of_mem r (h.usedPlan r' p (hgoing.others r' heq ▸ hp))

lemma System.Owned.step {a : Action} {t' : System} (hhonest : t.Honest rd a)
    (hallows : t.Allows a) (hstep : t.step rd a = some t') : t'.Owned := by
  cases a with
  | apply r b outcomes =>
    simp only [System.step] at hstep
    split at hstep
    · cases hstep
    · next hfresh =>
      cases hstep; exact h.apply hfresh hhonest
  | rollback r outcomes => cases hstep; exact h.rollback hallows

end

end

/-- In a run whose rollbacks find nothing anew that they have removed before, a rollback
changes only what its own run created. -/
theorem actionRollback_onlyOwn (rd : Readers) (start t t' : System) (actions : List Action)
    (r : RunId) (outcomes : List Outcome) (hinitial : start.Initial)
    (hhonest : Along (System.step rd) (System.Honest rd) start
      (actions ++ [.rollback r outcomes]))
    (hallows : Along (System.step rd) System.Allows start (actions ++ [.rollback r outcomes]))
    (hrun : run (System.step rd) start actions = some t)
    (hrollback : t.step rd (.rollback r outcomes) = some t') :
    OnlyOwn r t.state.world t'.state.world := by
  obtain ⟨hhonest, -⟩ := hhonest.append hrun
  obtain ⟨hallows, huntouched⟩ := hallows.append hrun
  have howned : t.Owned := (hhonest.and hallows).invariant hrun
    (fun s a s' hstep hmeets howned => howned.step hmeets.1 hmeets.2 hstep) hinitial.owned
  cases hrollback; exact howned.rollback_onlyOwn huntouched

/-- Readers for blueprints without an identity, whose outputs nobody reads. -/
def plainReaders : Readers where
  sandboxReusable _ _ := true
  providerReusable _ _ _ _ _ := true
  routeBinding _ := none
  routeUnconfigured _ := true
  providersV2Enabled _ := true
  providerMatches _ _ _ _ := true
  profileMatches _ := true
  policyMerges _ := .ok ()
  boundedCommandError output := output
  diagnosticPreview value := value

def plainBlueprint (providerName : Option String) : Blueprint where
  resolved := .ok ()
  inference :=
    { providerName := providerName, providerType := none, endpoint := none, model := none,
      credential := "", timeoutSecs := none }
  sandbox := { name := none, image := none, forwardPorts := none }
  identity := none
  hasPolicyAdditions := false

def emptyWorld : World where
  origin _ := none
  attached _ _ := none
  ends _ _ h := absurd rfl h

/-- Before the first command, nothing is there. -/
def atStart (outcomes : List Outcome) : State where
  world := emptyWorld
  plans _ := none
  rolledBack _ := false
  vars := ⟨none, false, false⟩
  outcomes := outcomes
  removed := []

def emptySystem : System := ⟨atStart [], []⟩

def succeeds : Outcome := ⟨⟨0, "", ""⟩, true⟩

/-- Every command succeeds. -/
def applies (r : RunId) : Action :=
  .apply r (plainBlueprint (some "inference")) [succeeds, succeeds, succeeds]

def rollsBack (r : RunId) : Action := .rollback r [succeeds, succeeds, succeeds]

/-- The first rollback of a run. -/
theorem actionRollback_onlyOwn_once :
    ∃ t t', run (System.step plainReaders) emptySystem [applies 1] = some t ∧
      t.step plainReaders (rollsBack 1) = some t' ∧
      t.state.world.origin (.sandbox "openclaw") = some (.run 1) ∧
      t'.state.world.origin (.sandbox "openclaw") = none ∧
      OnlyOwn 1 t.state.world t'.state.world := by
  refine ⟨_, _, rfl, rfl, ?_, ?_, ?_⟩
  · decide +kernel
  · decide +kernel
  refine actionRollback_onlyOwn plainReaders emptySystem _ _ [applies 1] 1
    [succeeds, succeeds, succeeds] ⟨nofun, fun _ => rfl⟩ ?_ ?_ rfl rfl
  · decide +kernel
  refine ⟨trivial, fun s' hs' => ⟨?_, fun _ _ => trivial⟩⟩
  cases hs'
  rintro p - x - (hremoved : _ ∈ ([] : List (RunId × Resource))); cases hremoved

/-- A second rollback of a run removes the sandbox that another run has created since. -/
theorem actionRollback_recreated :
    ∃ t t', run (System.step plainReaders) emptySystem [applies 1, rollsBack 1, applies 2] = some t ∧
      Along (System.step plainReaders) (System.Honest plainReaders) emptySystem
        [applies 1, rollsBack 1, applies 2, rollsBack 1] ∧
      t.step plainReaders (rollsBack 1) = some t' ∧
      t.state.world.origin (.sandbox "openclaw") = some (.run 2) ∧
      t'.state.world.origin (.sandbox "openclaw") = none ∧
      ¬OnlyOwn 1 t.state.world t'.state.world := by
  refine ⟨_, _, rfl, ?_, rfl, ?_, ?_, ?_⟩
  · decide +kernel
  · decide +kernel
  · decide +kernel
  · intro h
    have hsandbox := h (.sandbox "openclaw")
    revert hsandbox; decide +kernel

end NemoClaw.Runner
