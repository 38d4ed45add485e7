import NemoClaw.Blueprint.RollbackOwned

/- What an apply that fails leaves behind.

The plan records the inference provider under the name that the profile gives it. Where
the profile gives none, the apply creates a provider under the default name, the plan
records that it was created but not its name, and no rollback can read that plan.

What is proved:
  1. `Going.nothingUnrecorded` — an apply whose plan names what it has created leaves
     nothing unrecorded, and its rollback removes exactly what is recorded.
  2. `unnamed_recorded` — outcomes under which an apply of a profile without a provider
     name leaves a plan that no rollback can read.
  3. `actionApply_nothingUnrecorded` — so the condition is exact.
-/
namespace NemoClaw.Runner

open Js CallTree List Option

def State.Records (s : State) (r : RunId) (x : Resource) : Prop :=
  ∃ p, s.plans r = some p ∧ p.Records x

def State.RecordsAttachment (s : State) (r : RunId) (p q : String) : Prop :=
  ∃ plan, s.plans r = some plan ∧ plan.RecordsAttachment p q

/-- What the apply has created is gone or recorded, what there was is there, and a rollback
whose commands all succeed removes exactly what is recorded. -/
structure NothingUnrecorded (rd : Readers) (r : RunId) (s s' : State) : Prop where
  recorded : ∀ x, s'.world.origin x = some (.run r) → s'.Records r x
  recordedAttachment : ∀ p q, s'.world.attached p q = some (.run r) → s'.RecordsAttachment r p q
  kept : ∀ x c, s.world.origin x = some c → s'.world.origin x = some c
  keptAttachment : ∀ p q c, s.world.attached p q = some c → s'.world.attached p q = some c
  rolledBack : ∀ outcomes : List Outcome,
    (actionRollback rd r).Meets State.exec (Smooth rd) { s' with outcomes } →
      Clears (s'.Records r) (s'.RecordsAttachment r) s'
        ((actionRollback rd r).finish State.exec { s' with outcomes }).1

section

variable {rd : Readers} {r : RunId} {b : Blueprint} {s s' : State}

lemma clears_of_noPlan (hplan : s.plans r = none) (outcomes : List Outcome) :
    Clears (s.Records r) (s.RecordsAttachment r) s
      ((actionRollback rd r).finish State.exec { s with outcomes }).1 := by
  have hdoes : Does (fun _ _ => True) (fun s' _ => s' = { s with outcomes })
      (actionRollback rd r) { s with outcomes } := by
    refine .seq <| .readPlan ?_
    show Does _ _ _ { s with outcomes }
    dsimp only
    split
    · exact .throw rfl
    · next hsome =>
      rw [hsome] at hplan; cases hplan
  rw [Safe.finish hdoes]
  refine .of_absent rfl rfl ?_ ?_
  · rintro x ⟨p, hp, -⟩
    rw [hplan] at hp; cases hp
  · rintro q q' ⟨p, hp, -⟩
    rw [hplan] at hp; cases hp

theorem Going.nothingUnrecorded (h : Going true r b s s')
    (hresolved : resolveRunConfig rd b = .ok ())
    (hnamed : s'.vars.inferenceProviderCreatedByApply → b.inference.providerName ≠ none) :
    NothingUnrecorded rd r s s' := by
  rcases h.plan with hplan | ⟨hplan, hvars⟩
  · refine ⟨fun x hx => ?_, fun p q hpq => ?_, h.kept.kept, h.kept.keptAttachment rfl, ?_⟩
    · exact ⟨_, hplan, records_of_flagged hnamed (h.kept.known rfl x hx)⟩
    · exact ⟨_, hplan, recordsAttachment_of_flagged (h.kept.knownAttachment rfl p q hpq)⟩
    · intro outcomes hmeets
      obtain ⟨providerName, hread⟩ := readRollbackPlan_built hresolved hnamed h.kept.receipt
      have hdoes := actionRollback_clears (s := { s' with outcomes }) hplan hread
      obtain ⟨-, hclears⟩ := Safe.finish_of_meets hdoes hmeets
      refine hclears.outcomes.congr (fun x => ?_) fun q q' => ?_
      · simp [State.Records, hplan]
      · simp [State.RecordsAttachment, hplan]
  · have hnone : ∀ x, ¬Flagged b s'.vars x := by
      rw [hvars]
      rintro x (h | h | ⟨receipt, hreceipt, h⟩) <;> contradiction
    have hnoneAttached : ∀ p q, ¬FlaggedAttachment b s'.vars p q := by
      rw [hvars]
      rintro p q ⟨receipt, hreceipt, h⟩; contradiction
    refine ⟨fun x hx => ?_, fun p q hpq => ?_, h.kept.kept, h.kept.keptAttachment rfl,
      fun outcomes _ => clears_of_noPlan hplan outcomes⟩
    · exact absurd (h.kept.known rfl x hx) (hnone x)
    · exact absurd (h.kept.knownAttachment rfl p q hpq) (hnoneAttached p q)

/-- An apply that throws before its first command leaves everything as it is. -/
theorem ToCome.nothingUnrecorded (h : ToCome true r s) : NothingUnrecorded rd r s s where
  recorded x hx := absurd hx (h.fresh.1 x)
  recordedAttachment p q hpq := absurd hpq (h.fresh.2 rfl p q)
  kept _ _ hx := hx
  keptAttachment _ _ _ hpq := hpq
  rolledBack outcomes _ := clears_of_noPlan h.noPlan outcomes

end

/-! ## A profile without a provider name -/

/-- The part ends where `post` holds under the outcomes of the state, and OpenShell is strict
about them. -/
def Goes {α : Type} (post : State → Except String α → Prop) (t : Prog α) (s : State) : Prop :=
  Reaches State.exec (State.Honest true) post t s

def GoesOn {α β : Type} (post : State → Except String β → Prop) (f : α → Prog β) :
    State → Except String α → Prop
  | s, .ok a => Goes post (f a) s
  | s, .error e => post s (.error e)

def GoesElse {α : Type} (post : State → Except String α → Prop) (g : String → Prog α) :
    State → Except String α → Prop
  | s, .ok a => post s (.ok a)
  | s, .error e => Goes post (g e) s

namespace Goes

variable {α β : Type} {post post' : State → Except String α → Prop} {t : Prog α} {s : State}
  {r : RunId}

lemma mono (h : Goes post t s) (himp : ∀ s r, post s r → post' s r) : Goes post' t s :=
  Reaches.mono h himp

lemma seq {post : State → Except String β → Prop} {f : α → Prog β}
    (h : Goes (GoesOn post f) t s) : Goes post (t >>= f) s :=
  Reaches.bind h (fun _ _ hok => hok) (fun _ _ herror => herror)

lemma handle {g : String → Prog α} (h : Goes (GoesElse post g) t s) :
    Goes post (tryCatch t g) s :=
  Reaches.handle h (fun _ _ hok => hok) (fun _ _ herror => herror)

lemma pure {a : α} (h : post s (.ok a)) : Goes post (Pure.pure a) s := ⟨trivial, h⟩

lemma throw {e : String} (h : post s (.error e)) : Goes post (MonadExcept.throw e) s :=
  ⟨trivial, h⟩

lemma lift {result : Except String α} (h : post s result) : Goes post (Tree.lift result) s :=
  ⟨trivial, h⟩

lemma pos {p : Prop} [Decidable p] {t' : Prog α} (hp : p) (h : Goes post t s) :
    Goes post (if p then t else t') s := by
  rw [if_pos hp]; exact h

lemma neg {p : Prop} [Decidable p] {t' : Prog α} (hp : ¬p) (h : Goes post t' s) :
    Goes post (if p then t else t') s := by
  rw [if_neg hp]; exact h

lemma getVars {post : State → Except String Vars → Prop} (h : post s (.ok s.vars)) :
    Goes post Runner.getVars s := ⟨⟨trivial, trivial⟩, h⟩

lemma setVars {v : Vars} {post : State → Except String Unit → Prop}
    (h : post { s with vars := v } (.ok ())) : Goes post (Runner.setVars v) s :=
  ⟨⟨trivial, trivial⟩, h⟩

lemma persistRunPlan {b : Blueprint} {post : State → Except String Unit → Prop}
    (h : post { s with plans := Function.update s.plans r (some (buildPersistedRunPlan b s.vars)) }
      (.ok ())) : Goes post (Runner.persistRunPlan r b) s :=
  seq <| getVars ⟨⟨trivial, trivial⟩, h⟩

lemma succeed {c : Command} {output : String} {o : List Outcome}
    {post : State → Except String Result → Prop}
    (ho : s.outcomes = ⟨⟨0, output, ""⟩, true⟩ :: o) (haccepted : c.refused s.world = false)
    (h : post { s with
      world := c.effect r s.world
      outcomes := o
      removed := ((c.removes.filter fun x => (s.world.origin x).isSome).map fun x =>
        (r, x)).toList ++ s.removed } (.ok ⟨0, output, ""⟩)) :
    Goes post (runCmd r c) s := by
  have hnext : s.next = ⟨⟨0, output, ""⟩, true⟩ := by rw [State.next, ho, headD_cons]
  refine ⟨⟨⟨fun _ => ⟨by rw [hnext], haccepted⟩, fun _ hexit => absurd (by rw [hnext]) hexit⟩,
    trivial⟩, ?_⟩
  show post (s.exec (.run r c)).1 (.ok s.next.toResult)
  have hexec : (s.exec (.run r c)).1 = { s with
      world := c.effect r s.world
      outcomes := o
      removed := ((c.removes.filter fun x => (s.world.origin x).isSome).map fun x =>
        (r, x)).toList ++ s.removed } := by
    simp only [State.exec, State.takes, hnext, ho, if_true, tail_cons]
  rw [hexec, hnext]; exact h

lemma fail {c : Command} {error : String} {o : List Outcome}
    {post : State → Except String Result → Prop}
    (ho : s.outcomes = ⟨⟨1, "", error⟩, false⟩ :: o)
    (habsent : Result.saysMissing ⟨1, "", error⟩ → c.absent s.world)
    (h : post { s with outcomes := o } (.ok ⟨1, "", error⟩)) : Goes post (runCmd r c) s := by
  have hnext : s.next = ⟨⟨1, "", error⟩, false⟩ := by rw [State.next, ho, headD_cons]
  refine ⟨⟨⟨fun hexit => ?_, fun _ _ => ⟨by rw [hnext], fun hsays => habsent ?_⟩⟩, trivial⟩, ?_⟩
  · rw [hnext] at hexit; cases hexit
  · rwa [hnext] at hsays
  · show post (s.exec (.run r c)).1 (.ok s.next.toResult)
    have hexec : (s.exec (.run r c)).1 = { s with outcomes := o } := by
      simp [State.exec, State.takes, hnext, ho]
    rw [hexec, hnext]; exact h

lemma failRest {c : Command} {post : State → Except String Result → Prop}
    (ho : s.outcomes = []) (h : post s (.ok ⟨1, "", ""⟩)) : Goes post (runCmd r c) s := by
  have hnext : s.next = ⟨⟨1, "", ""⟩, false⟩ := by rw [State.next, ho, headD_nil]
  refine ⟨⟨⟨fun hexit => ?_, fun _ _ => ⟨by rw [hnext], fun hsays => ?_⟩⟩, trivial⟩, ?_⟩
  · rw [hnext] at hexit; cases hexit
  · rw [hnext] at hsays; exact absurd hsays (by decide)
  · show post (s.exec (.run r c)).1 (.ok s.next.toResult)
    have hexec : (s.exec (.run r c)).1 = { s with outcomes := s.outcomes.tail } := by
      simp [State.exec, State.takes, hnext]
    have hrest : { s with outcomes := s.outcomes.tail } = s := by
      rw [ho, tail_nil, ← ho]
    rw [hexec, hrest, hnext]; exact h

end Goes

section

variable {rd : Readers} {r : RunId} {b : Blueprint} {s : State} {o : List Outcome}

lemma applyCleanup_goes (ho : s.outcomes = []) (hcreated : s.vars.sandboxCreatedByApply)
    (hreceipt : ∀ receipt, s.vars.runtimeIdentityReceipt = some receipt →
      receipt.providerCreated ∧ receipt.attachmentCreated = false) (message : String) :
    Goes (fun s' result => s' = s ∧ result ≠ .ok ()) (applyCleanup rd r b message) s := by
  have hidentity : Goes (fun s' result => s' = s ∧ ∃ l, result = .ok l)
      (cleanupIdentity rd r b) s := by
    refine .seq <| .getVars ?_
    show Goes _ _ s
    dsimp only
    split
    · exact .pure ⟨rfl, _, rfl⟩
    next receipt hsome =>
    obtain ⟨hprovider, hattachment⟩ := hreceipt receipt hsome
    have hdelete : Goes (fun s' result => s' = s ∧ ∃ e, result = .error e)
        (removeRuntimeIdentity rd r receipt b.sandboxName) s := by
      refine .neg (by simp [hattachment]) <| .pos hprovider <| .seq <| .seq <| .failRest ho ?_
      exact .neg (by decide) <| .pos (by decide) <| .throw ⟨rfl, _, rfl⟩
    refine .handle <| .seq <| hdelete.mono ?_
    rintro s' _ ⟨rfl, e, rfl⟩
    show Goes (fun s result => s = s' ∧ ∃ l, result = .ok l) (pure [e]) s'
    exact .pure ⟨rfl, _, rfl⟩
  have hsandbox : Goes (fun s' result => s' = s ∧ ∃ l, result = .ok l)
      (cleanupSandbox rd r b) s := by
    refine .seq <| .getVars <| .pos hcreated <| .seq <| .failRest ho ?_
    refine .seq <| .failRest ho <| .neg ?_ <| .pure ⟨rfl, _, rfl⟩
    decide
  have hprovider : Goes (fun s' result => s' = s ∧ ∃ l, result = .ok l)
      (cleanupInferenceProvider rd r b) s := by
    refine .seq <| .getVars <| .neg ?_ <| .pure ⟨rfl, _, rfl⟩
    simp [hcreated]
  refine .seq <| hidentity.mono ?_
  rintro s' _ ⟨rfl, failures, rfl⟩
  refine .seq <| hsandbox.mono ?_
  rintro s' _ ⟨rfl, failures', rfl⟩
  refine .seq <| hprovider.mono ?_
  rintro s' _ ⟨rfl, failures'', rfl⟩
  show Goes _ (if _ then _ else _) s'
  split <;> exact .throw ⟨rfl, nofun⟩

lemma createSandbox_goes (ho : s.outcomes = succeeds :: o)
    (habsent : s.world.origin (.sandbox b.sandboxName) = none) :
    Goes (fun s' result => result = .ok () ∧ s'.outcomes = o ∧
        s'.world = s.world.create (.sandbox b.sandboxName) (.run r) ∧
        s'.vars = { s.vars with sandboxCreatedByApply := true })
      (createSandbox rd r b) s := by
  refine .seq <| .succeed ho (by simp [Command.refused, habsent]) <| .pos rfl ?_
  exact .seq <| .getVars <| .seq <| .setVars <| .persistRunPlan ⟨rfl, rfl, rfl, rfl⟩

lemma createInferenceProvider_goes (ho : s.outcomes = succeeds :: o)
    (habsent : s.world.origin (.provider b.providerName) = none) :
    Goes (fun s' result => result = .ok () ∧ s'.outcomes = o ∧
        s'.world = s.world.create (.provider b.providerName) (.run r) ∧
        s'.vars = { s.vars with inferenceProviderCreatedByApply := true })
      (createInferenceProvider rd r b) s := by
  refine .seq <| .succeed ho (by simp [Command.refused, habsent]) <| .neg (by decide) ?_
  exact .seq <| .getVars <| .seq <| .setVars <| .persistRunPlan ⟨rfl, rfl, rfl, rfl⟩

structure Identified (b : Blueprint) (s : State) : Prop where
  outcomes : s.outcomes = [succeeds, succeeds]
  sandbox : s.world.origin (.sandbox b.sandboxName) = none
  provider : s.world.origin (.provider b.providerName) = none
  receipt : ∀ receipt, s.vars.runtimeIdentityReceipt = some receipt →
    receipt.providerCreated ∧ receipt.attachmentCreated = false

lemma applySteps_goes
    (h : Goes (fun s' result => result = .ok ⟨false, false, false⟩ ∧ Identified b s')
      (configureIdentity rd r b) s) :
    Goes (fun s' result => (∃ e, result = .error e) ∧ s'.outcomes = [] ∧
        s'.vars.sandboxCreatedByApply ∧ s'.vars.inferenceProviderCreatedByApply ∧
        s'.world.origin (.sandbox b.sandboxName) ≠ none ∧
        ∀ receipt, s'.vars.runtimeIdentityReceipt = some receipt →
          receipt.providerCreated ∧ receipt.attachmentCreated = false)
      (applySteps rd r b) s := by
  refine .seq <| h.mono ?_
  rintro s1 _ ⟨rfl, hidentified⟩
  refine .neg (by decide) <| .seq <| (createSandbox_goes hidentified.outcomes
    hidentified.sandbox).mono ?_
  rintro s2 _ ⟨rfl, ho2, hworld2, hvars2⟩
  have habsent : s2.world.origin (.provider b.providerName) = none := by
    rw [hworld2, World.create_origin, if_neg (by simp)]; exact hidentified.provider
  refine .neg (by decide) <| .seq <| (createInferenceProvider_goes ho2 habsent).mono ?_
  rintro s3 _ ⟨rfl, ho3, hworld3, hvars3⟩
  refine .neg (by decide) <| .seq <| .seq <| .failRest ho3 <| .pos (by decide) <| .throw ?_
  refine ⟨⟨_, rfl⟩, ho3, by rw [hvars3, hvars2], by rw [hvars3], ?_, ?_⟩
  · have hsandbox : s2.world.origin (.sandbox b.sandboxName) = some (.run r) := by
      rw [hworld2, World.create_origin, if_pos ⟨rfl, hidentified.sandbox⟩]
    rw [hworld3, World.create_origin_some hsandbox]; exact some_ne_none _
  · rw [hvars3, hvars2]; exact hidentified.receipt

lemma configureIdentity_goes_none (hidentity : b.identity = none)
    (hidentified : Identified b s) :
    Goes (fun s' result => result = .ok ⟨false, false, false⟩ ∧ Identified b s')
      (configureIdentity rd r b) s := by
  unfold configureIdentity
  rw [hidentity]; exact .pure ⟨rfl, hidentified⟩

def missing (what : String) : Outcome := ⟨⟨1, "", what⟩, false⟩

/-- Outcomes up to the creation of sandbox and inference provider; the commands after these fail.
-/
def identityOutcomes (settings : String) : List Outcome :=
  [missing "sandbox not found", missing "provider not found", ⟨⟨0, settings, ""⟩, true⟩,
    missing "provider not found", succeeds, succeeds, succeeds, succeeds, succeeds, succeeds]

lemma prepareRuntimeIdentity_goes {config : RuntimeIdentityConfig} {settings : String}
    (hsettings : rd.providersV2Enabled settings)
    (hexact : isIdentity config.providerType config.providerName config.credentialKey)
    (hprepared : config.prepared = .ok ()) (hvars : s.vars = ⟨none, false, false⟩)
    (habsent : s.world.origin (.provider config.providerName) = none)
    (ho : s.outcomes = ⟨⟨0, settings, ""⟩, true⟩ :: missing "provider not found" :: succeeds ::
      succeeds :: succeeds :: succeeds :: o) :
    Goes (fun s' result => result = .ok config.receipt ∧ s'.outcomes = o ∧
        s'.world = s.world.create (.provider config.providerName) (.run r) ∧
        s'.vars = ⟨some config.receipt, false, false⟩)
      (prepareRuntimeIdentity rd r b config) s := by
  refine .neg (by simp [hexact]) <| .seq <| .lift ?_
  rw [hprepared]
  refine .seq <| .seq <| .succeed ho rfl <| .neg (fun h => h rfl) <| .pos hsettings <| .pure ?_
  refine .seq <| .seq <| .fail rfl (fun _ => ?_) <| .pos (by decide +kernel) <| .pure ?_
  · exact isNone_iff_eq_none.mpr habsent
  refine .neg (by decide) <| .seq <| .seq <| .succeed rfl rfl <| .pos rfl <| .pure ?_
  refine .seq <| .seq <| .succeed rfl ?_ <| .neg (by decide) <| .handle ?_
  · exact isSome_eq_false_iff.mpr (isNone_iff_eq_none.mpr habsent)
  refine .seq <| .seq <| .getVars <| .seq <| .setVars <| .persistRunPlan ?_
  refine .seq <| .succeed rfl rfl <| .neg (by decide) ?_
  refine .seq <| .succeed rfl rfl <| .neg (by decide) <| .pure ?_
  rw [GoesElse, GoesOn]
  refine .pure ⟨rfl, rfl, rfl, ?_⟩
  rw [hvars]

lemma configureIdentity_goes_some {config : RuntimeIdentityConfig} {settings : String}
    (hsettings : rd.providersV2Enabled settings) (hidentity : b.identity = some config)
    (hcreatable : Creatable b) (hvars : s.vars = ⟨none, false, false⟩)
    (hworld : s.world = emptyWorld) (ho : s.outcomes = identityOutcomes settings) :
    Goes (fun s' result => result = .ok ⟨false, false, false⟩ ∧ Identified b s')
      (configureIdentity rd r b) s := by
  obtain ⟨hexact, hprepared, hne⟩ := hcreatable config hidentity
  unfold configureIdentity
  rw [hidentity]
  have habsent : ∀ x, s.world.origin x = none := by
    rw [hworld]; exact fun _ => rfl
  refine .seq <| .seq <| .fail ho (fun _ => ?_) <| .neg (by decide) <| .pos (by decide +kernel) <|
    .pure ?_
  · exact isNone_iff_eq_none.mpr (habsent _)
  refine .seq <| .seq <| .fail rfl (fun _ => ?_) <| .neg (by decide) <| .pos (by decide +kernel) <|
    .pure ?_
  · exact isNone_iff_eq_none.mpr (habsent _)
  refine .neg (by decide) <| .seq <| .pure <| .seq <| .persistRunPlan ?_
  refine .seq <| .mono (prepareRuntimeIdentity_goes hsettings hexact hprepared ?_ ?_ rfl) ?_
  · exact hvars
  · exact habsent _
  rintro s' _ ⟨rfl, ho', hworld', hvars'⟩
  refine .seq <| .getVars <| .seq <| .setVars <| .seq <| .persistRunPlan <| .pure ⟨rfl, ?_⟩
  refine ⟨ho', ?_, ?_, ?_⟩
  · rw [hworld', World.create_origin, if_neg (by simp)]; exact habsent _
  · rw [hworld', World.create_origin, if_neg fun heq => hne (by simpa using heq.1.symm)]
    exact habsent _
  · rintro _ ⟨⟩; exact ⟨rfl, rfl⟩

lemma atStart_toCome (outcomes : List Outcome) : ToCome true r (atStart outcomes) :=
  ⟨⟨nofun, fun _ => nofun⟩, rfl⟩

lemma unnamed_goes {settings : String} (hsettings : rd.providersV2Enabled settings)
    (hresolved : resolveRunConfig rd b = .ok ()) (hcreatable : Creatable b) :
    ∃ outcomes, Goes (fun s' result => result ≠ .ok () ∧
        s'.vars.sandboxCreatedByApply ∧ s'.vars.inferenceProviderCreatedByApply ∧
        s'.world.origin (.sandbox b.sandboxName) ≠ none)
      (actionApply rd r b) (atStart outcomes) := by
  have hconfigure : ∃ outcomes,
      Goes (fun s' result => result = .ok ⟨false, false, false⟩ ∧ Identified b s')
        (configureIdentity rd r b) (atStart outcomes) := by
    cases hidentity : b.identity with
    | none => exact ⟨[succeeds, succeeds], configureIdentity_goes_none hidentity ⟨rfl, rfl, rfl, nofun⟩⟩
    | some config =>
      exact ⟨identityOutcomes settings,
        configureIdentity_goes_some hsettings hidentity hcreatable rfl rfl rfl⟩
  obtain ⟨outcomes, hconfigure⟩ := hconfigure
  refine ⟨outcomes, .seq <| .lift ?_⟩
  rw [hresolved]
  refine .seq <| .setVars <| .handle <| (applySteps_goes hconfigure).mono ?_
  rintro s1 _ ⟨⟨e, rfl⟩, ho, hsandbox, hprovider, hthere, hreceipt⟩
  refine (applyCleanup_goes ho hsandbox hreceipt e).mono ?_
  rintro s' result ⟨rfl, hresult⟩; exact ⟨hresult, hsandbox, hprovider, hthere⟩

lemma actionRollback_unreadable {p : Plan} {e : String} (hp : s.plans r = some p)
    (hread : readRollbackPlan rd p = .error e) :
    Reaches State.exec (Smooth rd) (fun s' _ => s' = s) (actionRollback rd r) s := by
  have hplan : Reaches State.exec (Smooth rd) (fun s' result => s' = s ∧ result = .ok (some p))
      (readPlan r) s := ⟨⟨trivial, trivial⟩, rfl, by rw [← hp]; rfl⟩
  refine Reaches.bind hplan ?_ nofun
  rintro s' _ ⟨rfl, ⟨⟩⟩
  dsimp only
  rw [hread]; exact ⟨trivial, rfl⟩

/-- What such an apply leaves behind is recorded, and no rollback removes it. -/
theorem unnamed_recorded {outcomes : List Outcome} (hunnamed : b.inference.providerName = none)
    (hmeets : (actionApply rd r b).Meets State.exec (State.Honest true) (atStart outcomes))
    (hsandbox : ((actionApply rd r b).finish State.exec
      (atStart outcomes)).1.vars.sandboxCreatedByApply)
    (hprovider : ((actionApply rd r b).finish State.exec
      (atStart outcomes)).1.vars.inferenceProviderCreatedByApply)
    (hthere : ((actionApply rd r b).finish State.exec
      (atStart outcomes)).1.world.origin (.sandbox b.sandboxName) ≠ none) :
    ¬NothingUnrecorded rd r (atStart outcomes)
      ((actionApply rd r b).finish State.exec (atStart outcomes)).1 := by
  intro hnothing
  rcases Safe.finish_of_meets (actionApply_does (atStart_toCome outcomes)) hmeets with
    ⟨hsame, -⟩ | ⟨-, hgoing⟩
  · rw [hsame] at hsandbox; cases hsandbox
  rcases hgoing.plan with hplan | ⟨-, hvars⟩
  · obtain ⟨e, hread⟩ := @readRollbackPlan_unnamed rd _ _ hunnamed hprovider
    obtain ⟨hmeets', hsame⟩ := actionRollback_unreadable
      (s := { ((actionApply rd r b).finish State.exec (atStart outcomes)).1 with outcomes := [] })
      hplan hread
    have hcleared := (hnothing.rolledBack [] hmeets').cleared (.sandbox b.sandboxName)
      ⟨_, hplan, .sandbox hsandbox⟩
    rw [hsame] at hcleared; exact hthere hcleared
  · rw [hvars] at hsandbox; cases hsandbox

/-- An apply of a blueprint leaves nothing unrecorded, whatever comes of its commands, if and
only if its profile names the inference provider, or it never comes to create it. -/
theorem actionApply_nothingUnrecorded (rd : Readers) (b : Blueprint)
    (hsettings : ∃ settings, rd.providersV2Enabled settings) :
    (∀ r s, ToCome true r s →
      (actionApply rd r b).Meets State.exec (State.Honest true) s →
      ((actionApply rd r b).finish State.exec s).2 ≠ .ok () →
      NothingUnrecorded rd r s ((actionApply rd r b).finish State.exec s).1) ↔
    b.inference.providerName ≠ none ∨ resolveRunConfig rd b ≠ .ok () ∨ ¬Creatable b := by
  constructor
  · intro hall
    by_contra hcondition
    simp only [ne_eq, not_or, not_not] at hcondition
    obtain ⟨hunnamed, hresolved, hcreatable⟩ := hcondition
    obtain ⟨settings, hsettings⟩ := hsettings
    obtain ⟨outcomes, hmeets, hresult, hsandbox, hprovider, hthere⟩ :=
      unnamed_goes (r := 0) hsettings hresolved hcreatable
    have hnothing := hall 0 _ (atStart_toCome outcomes) hmeets hresult
    exact unnamed_recorded hunnamed hmeets hsandbox hprovider hthere hnothing
  · intro hcondition r s htoCome hmeets _
    rcases Safe.finish_of_meets (actionApply_does htoCome) hmeets with ⟨hsame, -⟩ | ⟨hresolved, hgoing⟩
    · rw [hsame]; exact htoCome.nothingUnrecorded
    refine hgoing.nothingUnrecorded hresolved fun hcreated => ?_
    rcases hcondition with hnamed | hunresolved | huncreatable
    · exact hnamed
    · exact absurd hresolved hunresolved
    · exact absurd (hgoing.creatable hcreated) huncreatable

/-- The profile names its provider, and setting the route fails. -/
theorem actionApply_nothingUnrecorded_named :
    NothingUnrecorded plainReaders 0 (atStart [succeeds, succeeds])
      ((actionApply plainReaders 0 (plainBlueprint (some "inference"))).finish State.exec
        (atStart [succeeds, succeeds])).1 :=
  (actionApply_nothingUnrecorded plainReaders (plainBlueprint (some "inference")) ⟨"", rfl⟩).mpr
    (.inl (by decide)) 0 _ (atStart_toCome _) (by decide +kernel) (by decide +kernel)

/-- The profile does not name its provider: sandbox and provider are created, and setting the
route and removing the sandbox fail. -/
theorem actionApply_unnamed_unrecorded :
    ToCome true 0 (atStart [succeeds, succeeds]) ∧
      (actionApply plainReaders 0 (plainBlueprint none)).Meets State.exec (State.Honest true)
        (atStart [succeeds, succeeds]) ∧
      ((actionApply plainReaders 0 (plainBlueprint none)).finish State.exec
        (atStart [succeeds, succeeds])).2 ≠ .ok () ∧
      ¬NothingUnrecorded plainReaders 0 (atStart [succeeds, succeeds])
        ((actionApply plainReaders 0 (plainBlueprint none)).finish State.exec
          (atStart [succeeds, succeeds])).1 := by
  have hmeets : (actionApply plainReaders 0 (plainBlueprint none)).Meets State.exec
      (State.Honest true) (atStart [succeeds, succeeds]) := by decide +kernel
  refine ⟨atStart_toCome _, hmeets, by decide +kernel, ?_⟩
  exact unnamed_recorded rfl hmeets (by decide +kernel) (by decide +kernel) (by decide +kernel)

end

end NemoClaw.Runner
