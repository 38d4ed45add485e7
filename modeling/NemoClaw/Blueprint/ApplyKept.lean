import NemoClaw.Blueprint.Ownership

/- What an apply keeps, from its first command to its last.

What is proved:
  1. `Going` — the apply has kept to what is its own (`Kept`), and its plan is that of its
     variables; each part of an apply keeps to this, whether it succeeds or fails.
  2. `actionApply_does` — the end of an apply, whatever came of its commands.
-/
namespace NemoClaw.Runner

open Js CallTree

/-- An apply of the blueprint can come to create the inference provider. -/
def Creatable (b : Blueprint) : Prop :=
  ∀ config, b.identity = some config →
    isIdentity config.providerType config.providerName config.credentialKey ∧
      config.prepared = .ok () ∧ config.providerName ≠ b.providerName

structure Going (strict : Bool) (r : RunId) (b : Blueprint) (s0 s : State) : Prop where
  kept : Kept strict r b s0 s.world s.vars s.removed
  plan : s.plans r = some (buildPersistedRunPlan b s.vars) ∨
    s.plans r = none ∧ s.vars = ⟨none, false, false⟩
  others : ∀ r', r' ≠ r → s.plans r' = s0.plans r'
  creatable : s.vars.inferenceProviderCreatedByApply → Creatable b

/-- The attachment of the identity is still to come. -/
def Unattached (s : State) : Prop :=
  ∀ receipt, s.vars.runtimeIdentityReceipt = some receipt → receipt.attachmentCreated = false

section Going

variable {strict : Bool} {r : RunId} {b : Blueprint} {s0 s : State} {rd : Readers}

lemma Going.outcomes (h : Going strict r b s0 s) (o : List Outcome) :
    Going strict r b s0 { s with outcomes := o } := ⟨h.kept, h.plan, h.others, h.creatable⟩

lemma Going.looked (h : Going strict r b s0 s) {s1 : State} {o : List Outcome}
    (hs1 : s1 = { s with outcomes := o }) :
    Going strict r b s0 s1 ∧ s1.vars = s.vars ∧ s1.world = s.world := by
  subst hs1; exact ⟨h.outcomes o, rfl, rfl⟩

/-- The plan is written for the variables as they are. -/
lemma Going.persisted (hkept : Kept strict r b s0 s.world s.vars s.removed)
    (hothers : ∀ r', r' ≠ r → s.plans r' = s0.plans r')
    (hcreatable : s.vars.inferenceProviderCreatedByApply → Creatable b) :
    Going strict r b s0
      { s with plans := Function.update s.plans r (some (buildPersistedRunPlan b s.vars)) } where
  kept := hkept
  creatable := hcreatable
  plan := .inl (Function.update_self ..)
  others r' hne := (Function.update_of_ne hne ..).trans (hothers r' hne)

variable {c : Command} {x : Resource} {v : Vars}

lemma Going.removes (h : Going strict r b s0 s) (hfresh : Fresh strict r s0.world)
    (hc : c.removes = some x) (hx : Flagged b s.vars x) :
    Going strict r b s0 (s.exec (.run r c)).1 := by
  refine ⟨?_, h.plan, h.others, h.creatable⟩
  have heffect := (Command.effect_of_removes hc s.world (r := r)).1
  simp only [State.exec, State.takes, hc, heffect]
  split
  · exact h.kept.remove hfresh hx
  · exact h.kept

lemma Going.detaches (h : Going strict r b s0 s) (hfresh : Fresh strict r s0.world)
    {sandbox provider : String} (hx : FlaggedAttachment b s.vars sandbox provider) :
    Going strict r b s0 (s.exec (.run r (.detach sandbox provider))).1 := by
  refine ⟨?_, h.plan, h.others, h.creatable⟩
  have htakes : s.takes (.detach sandbox provider) = none := ite_self none
  simp only [State.exec, htakes, Command.effect]
  split
  · exact h.kept.detach hfresh hx
  · exact h.kept

lemma saysMissing_of_isMissingResource {result : Result} (h : result.isMissingResource) :
    result.exitCode ≠ 0 ∧ result.saysMissing := by
  simp only [Result.isMissingResource, Bool.and_eq_true, decide_eq_true_eq] at h
  exact ⟨h.1, by simp [Result.saysMissing, h.2]⟩

lemma inspectProvider_does (receipt : RuntimeIdentityReceipt) :
    Does (State.Honest strict) (fun s' result => (∃ o, s' = { s with outcomes := o }) ∧
        (strict → result = .ok false →
          s.world.origin (.provider receipt.providerName) = none))
      (inspectProvider rd r receipt) s := by
  refine .seq <| .run fun hhonest => ?_
  rw [exec_quiet rfl]
  refine .ite (fun hmissing => ?_) fun _ => ?_
  · refine .pure ⟨⟨_, rfl⟩, ?_⟩
    rintro rfl -
    obtain ⟨hexit, hsays⟩ := saysMissing_of_isMissingResource hmissing
    exact Option.isNone_iff_eq_none.mp ((hhonest.2 rfl hexit).2 hsays)
  · refine .ite (fun _ => .throw ⟨⟨_, rfl⟩, nofun⟩) fun _ => ?_
    exact .ite (fun _ => .pure ⟨⟨_, rfl⟩, nofun⟩) fun _ => .throw ⟨⟨_, rfl⟩, nofun⟩

lemma deleteCreatedProvider_does (h : Going strict r b s0 s) (hfresh : Fresh strict r s0.world)
    {receipt : RuntimeIdentityReceipt} (hx : Flagged b s.vars (.provider receipt.providerName)) :
    Does (State.Honest strict) (fun s' result => Going strict r b s0 s' ∧ s'.vars = s.vars ∧
        (∀ p q, s.world.attached p q = none → s'.world.attached p q = none) ∧
        (strict → result = .ok () →
          s'.world.origin (.provider receipt.providerName) = none))
      (deleteCreatedProvider rd r receipt) s := by
  refine .seq <| (inspectProvider_does receipt).mono ?_
  rintro s1 (e | present) ⟨⟨o, hs1⟩, habsent⟩
  · exact hs1 ▸ ⟨h.outcomes o, rfl, fun _ _ => id, nofun⟩
  obtain ⟨h1, hvars, hworld⟩ := h.looked hs1
  rw [← hvars] at hx
  rw [← hvars, ← hworld]
  rw [← hworld] at habsent
  refine .ite (fun _ => ?_) fun hpresent => ?_
  · refine .seq <| .run fun hhonest => ?_
    have hc : (Command.providerDelete receipt.providerName).removes =
      some (.provider receipt.providerName) := rfl
    have hgoing := h1.removes hfresh hc hx
    refine .ite (fun _ => .throw ⟨hgoing, rfl, fun p q => exec_attached_none hc, nofun⟩) fun hok =>
      .pure ⟨hgoing, rfl, fun p q => exec_attached_none hc, ?_⟩
    rintro rfl -
    refine exec_removes hc hhonest ?_
    by_cases hexit : s1.next.exitCode = 0
    · exact .inl hexit
    · have hmissing := not_not.mp (not_and.mp hok hexit)
      exact .inr (saysMissing_of_isMissingResource hmissing).2
  · refine .pure ⟨h1, rfl, fun _ _ => id, fun hs _ => habsent hs ?_⟩
    rw [Bool.not_eq_true] at hpresent
    rw [hpresent]

lemma detachRuntimeIdentity_does (h : Going strict r b s0 s) (hfresh : Fresh strict r s0.world)
    {receipt : RuntimeIdentityReceipt}
    (hx : FlaggedAttachment b s.vars b.sandboxName receipt.providerName) :
    Does (State.Honest strict) (fun s' result => Going strict r b s0 s' ∧ s'.vars = s.vars ∧
        (strict → result = .ok () →
          s'.world.attached b.sandboxName receipt.providerName = none))
      (detachRuntimeIdentity rd r receipt b.sandboxName) s := by
  refine .seq <| (inspectProvider_does receipt).mono ?_
  rintro s1 (e | present) ⟨⟨o, hs1⟩, habsent⟩
  · exact hs1 ▸ ⟨h.outcomes o, rfl, nofun⟩
  obtain ⟨h1, hvars, hworld⟩ := h.looked hs1
  rw [← hvars] at hx
  rw [← hvars]
  rw [← hworld] at habsent
  refine .ite (fun _ => ?_) fun hpresent => ?_
  · refine .seq <| .run fun hhonest => ?_
    have hgoing := h1.detaches hfresh hx
    refine .ite (fun _ => .throw ⟨hgoing, rfl, nofun⟩) fun hok => .pure ⟨hgoing, rfl, ?_⟩
    rintro rfl -
    refine exec_detaches hhonest ?_
    by_cases hexit : s1.next.exitCode = 0
    · exact .inl hexit
    by_cases hmissing : s1.next.isMissingResource
    · exact .inr (saysMissing_of_isMissingResource hmissing).2
    · have hdetached : notAttachedPattern s1.next.commandOutput :=
        not_not.mp (not_and.mp (not_and.mp hok hexit) hmissing)
      exact .inr (by simp [Result.saysMissing, hdetached])
  · refine .pure ⟨h1, rfl, fun hs _ => World.attached_of_absent (.inr (habsent hs ?_))⟩
    rw [Bool.not_eq_true] at hpresent
    rw [hpresent]

lemma removeRuntimeIdentity_does (h : Going strict r b s0 s) (hfresh : Fresh strict r s0.world)
    {receipt : RuntimeIdentityReceipt} (hreceipt : s.vars.runtimeIdentityReceipt = some receipt) :
    Does (State.Honest strict) (fun s' result => Going strict r b s0 s' ∧ s'.vars = s.vars ∧
        (strict → result = .ok () →
          (receipt.attachmentCreated →
            s'.world.attached b.sandboxName receipt.providerName = none) ∧
          (receipt.providerCreated →
            s'.world.origin (.provider receipt.providerName) = none)))
      (removeRuntimeIdentity rd r receipt b.sandboxName) s := by
  have hdelete : ∀ s1, Going strict r b s0 s1 → s1.vars = s.vars →
      (strict → receipt.attachmentCreated →
        s1.world.attached b.sandboxName receipt.providerName = none) →
      Does (State.Honest strict) (fun s' result => Going strict r b s0 s' ∧ s'.vars = s.vars ∧
          (strict → result = .ok () →
            (receipt.attachmentCreated →
              s'.world.attached b.sandboxName receipt.providerName = none) ∧
            (receipt.providerCreated →
              s'.world.origin (.provider receipt.providerName) = none)))
        (if receipt.providerCreated then deleteCreatedProvider rd r receipt else Pure.pure ()) s1 := by
    intro s1 h1 hvars hdetached
    refine .ite (fun hcreated => ?_) fun hcreated => ?_
    · have hx : Flagged b s1.vars (.provider receipt.providerName) :=
        .identityProvider receipt (hvars ▸ hreceipt) hcreated
      refine (deleteCreatedProvider_does h1 hfresh hx).mono ?_
      rintro s' result ⟨hgoing, hvars', hnone, hgone⟩
      exact ⟨hgoing, hvars'.trans hvars, fun hs hok =>
        ⟨fun ha => hnone _ _ (hdetached hs ha), fun _ => hgone hs hok⟩⟩
    · exact .pure ⟨h1, hvars, fun hs _ => ⟨hdetached hs, fun hc => absurd hc hcreated⟩⟩
  refine .ite (fun hattached => .seq ?_) fun hattached => ?_
  · refine (detachRuntimeIdentity_does h hfresh (.intro receipt hreceipt hattached)).mono ?_
    rintro s1 (e | ⟨⟩) ⟨hgoing, hvars, hdetached⟩
    · exact ⟨hgoing, hvars, nofun⟩
    · exact hdelete s1 hgoing hvars fun hs _ => hdetached hs rfl
  · exact hdelete s h rfl fun _ ha => absurd ha hattached

/-! ### Creating -/

/-- A command that fails may still have created, where OpenShell is not strict. -/
lemma Going.unnoted (h : Going strict r b s0 s) (hc : c.creates = some x)
    (hhonest : s.Honest strict (.run r c)) (hexit : s.next.exitCode ≠ 0) :
    Going strict r b s0 (s.exec (.run r c)).1 := by
  refine ⟨?_, h.plan, h.others, h.creatable⟩
  rw [exec_removed_of_creates hc]
  show Kept strict r b s0 (if s.next.effective then c.effect r s.world else s.world) s.vars s.removed
  rw [(Command.effect_of_creates hc s.world).1]
  cases strict with
  | true => rw [(hhonest.2 rfl hexit).1]; exact h.kept
  | false =>
    split
    · exact h.kept.create_unnoted x
    · exact h.kept

lemma Going.created (h : Going strict r b s0 s) (hc : c.creates = some x)
    (hhonest : s.Honest strict (.run r c)) (hexit : s.next.exitCode = 0)
    (hreceipt : ∀ receipt, v.runtimeIdentityReceipt = some receipt → ReceiptOf b receipt)
    (hflagged : ∀ y, Flagged b v y ↔ Flagged b s.vars y ∨ y = x)
    (hattachment : ∀ p q, FlaggedAttachment b v p q ↔ FlaggedAttachment b s.vars p q) :
    Kept strict r b s0 (s.exec (.run r c)).1.world v (s.exec (.run r c)).1.removed := by
  obtain ⟨habsent, hworld⟩ := exec_creates hc hhonest hexit
  rw [exec_removed_of_creates hc, hworld]
  exact h.kept.create habsent hreceipt hflagged hattachment

/-- The three ways in which a resource is noted. -/
lemma flagged_iff {y : Resource} : Flagged b v y ↔
    v.sandboxCreatedByApply ∧ y = .sandbox b.sandboxName ∨
      v.inferenceProviderCreatedByApply ∧ y = .provider b.providerName ∨
      ∃ receipt, v.runtimeIdentityReceipt = some receipt ∧ receipt.providerCreated ∧
        y = .provider receipt.providerName := by
  constructor
  · rintro (h | h | ⟨receipt, hreceipt, h⟩)
    · exact .inl ⟨h, rfl⟩
    · exact .inr (.inl ⟨h, rfl⟩)
    · exact .inr (.inr ⟨receipt, hreceipt, h, rfl⟩)
  · rintro (⟨h, rfl⟩ | ⟨h, rfl⟩ | ⟨receipt, hreceipt, h, rfl⟩)
    · exact .sandbox h
    · exact .inferenceProvider h
    · exact .identityProvider receipt hreceipt h

lemma flaggedAttachment_iff {p q : String} : FlaggedAttachment b v p q ↔
    ∃ receipt, v.runtimeIdentityReceipt = some receipt ∧ receipt.attachmentCreated ∧
      p = b.sandboxName ∧ q = receipt.providerName := by
  constructor
  · rintro ⟨receipt, hreceipt, h⟩; exact ⟨receipt, hreceipt, h, rfl, rfl⟩
  · rintro ⟨receipt, hreceipt, h, rfl, rfl⟩; exact ⟨receipt, hreceipt, h⟩

lemma flagged_sandbox (y : Resource) :
    Flagged b { v with sandboxCreatedByApply := true } y ↔
      Flagged b v y ∨ y = .sandbox b.sandboxName := by
  grind [flagged_iff]

lemma flagged_inferenceProvider (y : Resource) :
    Flagged b { v with inferenceProviderCreatedByApply := true } y ↔
      Flagged b v y ∨ y = .provider b.providerName := by
  grind [flagged_iff]

lemma flagged_receipt {receipt : RuntimeIdentityReceipt} (hnone : v.runtimeIdentityReceipt = none)
    (hcreated : receipt.providerCreated) (y : Resource) :
    Flagged b { v with runtimeIdentityReceipt := some receipt } y ↔
      Flagged b v y ∨ y = .provider receipt.providerName := by
  simp [flagged_iff, hnone, hcreated, or_assoc]

lemma flaggedAttachment_congr {v' : Vars}
    (h : v'.runtimeIdentityReceipt = v.runtimeIdentityReceipt) (p q : String) :
    FlaggedAttachment b v' p q ↔ FlaggedAttachment b v p q := by
  rw [flaggedAttachment_iff, flaggedAttachment_iff, h]

lemma flaggedAttachment_receipt {receipt : RuntimeIdentityReceipt}
    (hnone : v.runtimeIdentityReceipt = none) (hattached : receipt.attachmentCreated = false)
    (p q : String) : FlaggedAttachment b { v with runtimeIdentityReceipt := some receipt } p q ↔
      FlaggedAttachment b v p q := by
  simp [flaggedAttachment_iff, hnone, hattached]

lemma persistReceipt_does {receipt : RuntimeIdentityReceipt}
    (hkept : Kept strict r b s0 s.world { s.vars with runtimeIdentityReceipt := some receipt }
      s.removed)
    (hothers : ∀ r', r' ≠ r → s.plans r' = s0.plans r')
    (hcreatable : s.vars.inferenceProviderCreatedByApply → Creatable b) :
    Does (State.Honest strict) (fun s' _ => Going strict r b s0 s' ∧ s'.world = s.world ∧
        s'.vars = { s.vars with runtimeIdentityReceipt := some receipt })
      (persistReceipt r b receipt) s := by
  refine .seq <| .getVars <| .seq <| .setVars ?_
  refine .persistRunPlan ?_
  exact ⟨Going.persisted hkept hothers hcreatable, rfl, rfl⟩

lemma compensatePreparationFailure_does (h : Going strict r b s0 s)
    (hfresh : Fresh strict r s0.world) {receipt : RuntimeIdentityReceipt}
    (hx : Flagged b s.vars (.provider receipt.providerName)) (message : String) :
    Does (State.Honest strict) (fun s' result => Going strict r b s0 s' ∧ result ≠ .ok ())
      (compensatePreparationFailure rd r receipt message) s := by
  refine .seq <| .handle <| (deleteCreatedProvider_does h hfresh hx).mono ?_
  rintro s' (e | ⟨⟩) ⟨hgoing, -⟩
  · exact .throw ⟨hgoing, nofun⟩
  · show Does (State.Honest strict) _ _ s'; exact .throw ⟨hgoing, nofun⟩

lemma acquireProvider_does (h : Going strict r b s0 s) (hfresh : Fresh strict r s0.world)
    {config : RuntimeIdentityConfig} (hconfig : ReceiptOf b config.receipt)
    (hnone : s.vars.runtimeIdentityReceipt = none) :
    Does (State.Honest strict) (fun s' result => Going strict r b s0 s' ∧ (result = .ok () →
        s'.vars.runtimeIdentityReceipt = some config.receipt ∧
          s'.world.origin (.provider config.providerName) ≠ none))
      (acquireProvider rd r b config) s := by
  have hc : (Command.providerCreate config.providerName config.providerType
    ["--runtime-credentials"]).creates = some (.provider config.receipt.providerName) := rfl
  refine .seq <| .run fun hhonest => .ite (fun hexit => .throw ⟨h.unnoted hc hhonest hexit, nofun⟩)
    fun hexit => .handle <| .seq ?_
  have hexit := not_not.mp hexit
  have hkept := h.created (v := { s.vars with runtimeIdentityReceipt := some config.receipt })
    hc hhonest hexit ?_ (flagged_receipt hnone rfl) (flaggedAttachment_receipt hnone rfl)
  swap
  · rintro _ ⟨⟩; exact hconfig
  refine (persistReceipt_does hkept h.others h.creatable).mono ?_
  rintro s1 result ⟨hgoing, hworld, hvars⟩
  have hx : Flagged b s1.vars (.provider config.receipt.providerName) :=
    .identityProvider config.receipt (by rw [hvars]) rfl
  have hpresent : s1.world.origin (.provider config.providerName) ≠ none := by
    obtain ⟨habsent, hcreated⟩ := exec_creates hc hhonest hexit
    rw [hworld, hcreated, World.create_origin, if_pos ⟨rfl, habsent⟩]
    exact Option.some_ne_none _
  cases result with
  | error e =>
    refine (compensatePreparationFailure_does hgoing hfresh hx e).mono ?_
    exact fun s' result hs' => ⟨hs'.1, fun hok => absurd hok hs'.2⟩
  | ok _ =>
    refine .looks (looks_configureRefresh rd r config.receipt) fun o result => ?_
    cases result with
    | ok _ => exact ⟨hgoing.outcomes o, fun _ => ⟨by rw [hvars], hpresent⟩⟩
    | error e =>
      refine (compensatePreparationFailure_does (hgoing.outcomes o) hfresh hx e).mono ?_
      exact fun s' result hs' => ⟨hs'.1, fun hok => absurd hok hs'.2⟩

/-- The identity of the blueprint, if it has one, is there and in order. -/
def Prepared (b : Blueprint) (s : State) : Prop :=
  ∀ config, b.identity = some config →
    isIdentity config.providerType config.providerName config.credentialKey ∧
      config.prepared = .ok () ∧ s.world.origin (.provider config.providerName) ≠ none

lemma prepareRuntimeIdentity_does (h : Going strict r b s0 s)
    (hfresh : Fresh strict r s0.world) {config : RuntimeIdentityConfig}
    (hconfig : b.identity = some config) (hnone : s.vars.runtimeIdentityReceipt = none) :
    Does (State.Honest strict) (fun s' result => Going strict r b s0 s' ∧ (∀ receipt,
      result = .ok receipt →
        receipt = config.receipt ∧ s'.vars.runtimeIdentityReceipt = some receipt ∧
          Prepared b s'))
      (prepareRuntimeIdentity rd r b config) s := by
  refine .ite (fun _ => .throw ⟨h, nofun⟩) fun hidentity => .seq <| .lift ?_
  rw [Bool.not_eq_true', Bool.not_eq_false] at hidentity
  cases hprepared : config.prepared with
  | error e => exact ⟨h, nofun⟩
  | ok _ =>
  refine .seq <| .looks (looks_requireProviderDerivedPolicy rd r) fun o result => ?_
  cases result with
  | error e => exact ⟨h.outcomes o, nofun⟩
  | ok _ =>
  refine .seq <| .looks (looks_inspectProvider rd r config.receipt) fun o result => ?_
  cases result with
  | error e => exact ⟨h.outcomes o, nofun⟩
  | ok present =>
  refine .ite (fun _ => .throw ⟨h.outcomes o, nofun⟩) fun _ => ?_
  refine .seq <| .looks (looks_importProfile rd r config) fun o result => ?_
  cases result with
  | error e => exact ⟨h.outcomes o, nofun⟩
  | ok _ =>
  have hreceipt : ReceiptOf b config.receipt := ⟨config, hconfig, rfl, rfl, rfl, hidentity⟩
  refine .seq <| (acquireProvider_does (h.outcomes o) hfresh hreceipt hnone).mono ?_
  rintro s' (e | ⟨⟩) ⟨hgoing, hacquired⟩
  · exact ⟨hgoing, nofun⟩
  obtain ⟨hvars, hpresent⟩ := hacquired rfl
  refine .pure ⟨hgoing, ?_⟩
  rintro _ ⟨⟩
  refine ⟨rfl, hvars, fun config' hconfig' => ?_⟩
  rw [hconfig] at hconfig'
  cases hconfig'; exact ⟨hidentity, hprepared, hpresent⟩

/-- What holds between the parts of an apply. -/
structure Stage (strict : Bool) (r : RunId) (b : Blueprint) (s0 s : State) : Prop where
  going : Going strict r b s0 s
  unattached : Unattached s
  prepared : Prepared b s

def EndsAtStage (strict : Bool) (r : RunId) (b : Blueprint) (s0 s' : State)
    (result : Except String Unit) : Prop :=
  Going strict r b s0 s' ∧ (result = .ok () → Stage strict r b s0 s')

lemma configureIdentity_does (h : Going strict r b s0 s) (hfresh : Fresh strict r s0.world)
    (hvars : s.vars = ⟨none, false, false⟩) :
    Does (State.Honest strict) (fun s' result => Going strict r b s0 s' ∧
        (∀ reuse, result = .ok reuse → Stage strict r b s0 s'))
      (configureIdentity rd r b) s := by
  unfold configureIdentity
  cases hidentity : b.identity with
  | none =>
    refine .pure ⟨h, fun _ _ => ⟨h, ?_, ?_⟩⟩
    · intro receipt hreceipt
      rw [hvars] at hreceipt; cases hreceipt
    · intro config hconfig
      rw [hidentity] at hconfig; cases hconfig
  | some config =>
    -- what comes once it is known what can be reused
    have hprepare : ∀ (o : List Outcome) (reuse : Reuse), Does (State.Honest strict)
      (fun s' result => Going strict r b s0 s' ∧
          (∀ reuse, result = .ok reuse → Stage strict r b s0 s'))
        (do
          persistRunPlan r b
          let receipt ← prepareRuntimeIdentity rd r b config
          let v ← getVars
          setVars { v with runtimeIdentityReceipt := some receipt }
          persistRunPlan r b
          return reuse)
        { s with outcomes := o } := by
      intro o reuse
      refine .seq <| .persistRunPlan ?_
      have hpersisted := Going.persisted (h.outcomes o).kept h.others h.creatable
      have hnone : s.vars.runtimeIdentityReceipt = none := by rw [hvars]
      refine .seq <| (prepareRuntimeIdentity_does hpersisted hfresh hidentity hnone).mono ?_
      rintro s1 (e | receipt) ⟨h1, hprepared⟩
      · exact ⟨h1, nofun⟩
      obtain ⟨rfl, hreceipt, hprepared⟩ := hprepared receipt rfl
      refine .seq <| .getVars <| .seq <| .setVars ?_
      refine .seq <| .persistRunPlan <| .pure ?_
      have hsame : { s1.vars with runtimeIdentityReceipt := some config.receipt } = s1.vars := by
        rw [← hreceipt]
      rw [hsame]
      have h2 := Going.persisted h1.kept h1.others h1.creatable
      refine ⟨h2, fun _ _ => ⟨h2, ?_, hprepared⟩⟩
      intro receipt' hreceipt'
      rw [hreceipt] at hreceipt'
      cases hreceipt'; rfl
    refine .seq <| .looks (looks_inspectSandbox rd r b) fun o result => ?_
    cases result with
    | error e => exact ⟨h.outcomes o, nofun⟩
    | ok reuseSandbox =>
    refine .seq <| .looks (looks_inspectInferenceProvider rd r b) fun o result => ?_
    cases result with
    | error e => exact ⟨h.outcomes o, nofun⟩
    | ok reuseProvider =>
    refine .ite (fun _ => .seq <| .looks (looks_inspectInferenceRoute rd r b) fun o result => ?_)
      fun _ => hprepare o _
    cases result with
    | error e => exact ⟨h.outcomes o, nofun⟩
    | ok reuseRoute => exact hprepare o _

/-! ### Sandbox, inference provider and attachment -/

lemma Stage.outcomes (h : Stage strict r b s0 s) (o : List Outcome) :
    Stage strict r b s0 { s with outcomes := o } := ⟨h.going.outcomes o, h.unattached, h.prepared⟩

lemma Stage.looks (h : Stage strict r b s0 s) {t : Prog Unit} (ht : Looks t) :
    Does (State.Honest strict) (EndsAtStage strict r b s0) t s :=
  .looks ht fun o _ => ⟨h.going.outcomes o, fun _ => h.outcomes o⟩

lemma Prepared.created (h : Prepared b s) (hc : c.creates = some x)
    (hhonest : s.Honest strict (.run r c)) (hexit : s.next.exitCode = 0) :
    Prepared b (s.exec (.run r c)).1 := by
  intro config hconfig
  obtain ⟨hidentity, hprepared, hpresent⟩ := h config hconfig
  refine ⟨hidentity, hprepared, ?_⟩
  rw [(exec_creates hc hhonest hexit).2]
  obtain ⟨c, hc⟩ := Option.ne_none_iff_exists'.mp hpresent
  rw [World.create_origin_some hc]; exact Option.some_ne_none c

lemma Stage.unnoted (h : Stage strict r b s0 s) (hc : c.creates = some x)
    (hhonest : s.Honest strict (.run r c)) (hexit : s.next.exitCode ≠ 0) :
    Stage strict r b s0 (s.exec (.run r c)).1 := by
  refine ⟨h.going.unnoted hc hhonest hexit, h.unattached, fun config hconfig => ?_⟩
  obtain ⟨hidentity, hprepared, hpresent⟩ := h.prepared config hconfig
  refine ⟨hidentity, hprepared, ?_⟩
  show (if s.next.effective then c.effect r s.world else s.world).origin _ ≠ none
  split
  · obtain ⟨c', hc'⟩ := Option.ne_none_iff_exists'.mp hpresent
    rw [(Command.effect_of_creates hc s.world).1, World.create_origin_some hc']
    exact Option.some_ne_none c'
  · exact hpresent

lemma createSandbox_does (h : Stage strict r b s0 s) :
    Does (State.Honest strict) (EndsAtStage strict r b s0) (createSandbox rd r b) s := by
  have hc : (Command.sandboxCreate b.sandboxImage b.sandboxName b.forwardPorts).creates =
    some (.sandbox b.sandboxName) := rfl
  refine .seq <| .run fun hhonest => .ite (fun hexit => ?_) fun hexit => ?_
  · refine .seq <| .getVars <| .seq <| .setVars <| .persistRunPlan ?_
    have hkept := h.going.created (v := { s.vars with sandboxCreatedByApply := true })
      hc hhonest hexit h.going.kept.receipt flagged_sandbox (flaggedAttachment_congr rfl)
    have hgoing := Going.persisted (s := { (s.exec (.run r _)).1 with
      vars := { s.vars with sandboxCreatedByApply := true } }) hkept h.going.others h.going.creatable
    exact ⟨hgoing, fun _ => ⟨hgoing, h.unattached, h.prepared.created hc hhonest hexit⟩⟩
  · have hstage := h.unnoted hc hhonest hexit
    exact .ite (fun _ => hstage.looks (looks_reuseRacedSandbox rd r b)) fun _ =>
      .throw ⟨hstage.going, nofun⟩

lemma createInferenceProvider_does (h : Stage strict r b s0 s) :
    Does (State.Honest strict) (EndsAtStage strict r b s0) (createInferenceProvider rd r b) s := by
  have hc : (Command.providerCreate b.providerName b.providerType
    (inferenceProviderOptions b)).creates = some (.provider b.providerName) := rfl
  refine .seq <| .run fun hhonest => .ite (fun hexit => ?_) fun hexit => ?_
  · have hstage := h.unnoted hc hhonest hexit
    exact .ite (fun _ => hstage.looks (looks_reuseRacedProvider rd r b)) fun _ =>
      .throw ⟨hstage.going, nofun⟩
  · have hexit := not_not.mp hexit
    refine .seq <| .getVars <| .seq <| .setVars <| .persistRunPlan ?_
    have hkept := h.going.created (v := { s.vars with inferenceProviderCreatedByApply := true })
      hc hhonest hexit h.going.kept.receipt flagged_inferenceProvider (flaggedAttachment_congr rfl)
    -- the provider of the identity is there, so the one that was absent is another
    have hcreatable : Creatable b := by
      intro config hconfig
      obtain ⟨hidentity, hprepared, hpresent⟩ := h.prepared config hconfig
      refine ⟨hidentity, hprepared, fun heq => hpresent ?_⟩
      rw [heq]; exact (exec_creates hc hhonest hexit).1
    have hgoing := Going.persisted (s := { (s.exec (.run r _)).1 with
      vars := { s.vars with inferenceProviderCreatedByApply := true } }) hkept h.going.others
      fun _ => hcreatable
    exact ⟨hgoing, fun _ => ⟨hgoing, h.unattached, h.prepared.created hc hhonest hexit⟩⟩

lemma flagged_attached {receipt : RuntimeIdentityReceipt} {attached : Bool}
    (hreceipt : v.runtimeIdentityReceipt = some receipt) (y : Resource) :
    Flagged b { v with
      runtimeIdentityReceipt := some { receipt with attachmentCreated := attached } } y ↔
      Flagged b v y := by
  simp [flagged_iff, hreceipt]

lemma flaggedAttachment_attached {receipt : RuntimeIdentityReceipt}
    (hreceipt : v.runtimeIdentityReceipt = some receipt)
    (hdetached : receipt.attachmentCreated = false) (p q : String) :
    FlaggedAttachment b { v with
      runtimeIdentityReceipt := some { receipt with attachmentCreated := true } } p q ↔
      FlaggedAttachment b v p q ∨ p = b.sandboxName ∧ q = receipt.providerName := by
  simp [flaggedAttachment_iff, hreceipt, hdetached]

/-- An attachment that fails is not noted. -/
lemma Going.attach_unnoted (h : Going strict r b s0 s) {sandbox provider : String}
    (hhonest : s.Honest strict (.run r (.attach sandbox provider)))
    (hexit : s.next.exitCode ≠ 0) :
    Going strict r b s0 (s.exec (.run r (.attach sandbox provider))).1 := by
  refine ⟨?_, h.plan, h.others, h.creatable⟩
  have htakes : s.takes (.attach sandbox provider) = none := ite_self none
  simp only [State.exec, htakes, Command.effect]
  cases strict with
  | true => rw [(hhonest.2 rfl hexit).1]; exact h.kept
  | false =>
    split
    · exact h.kept.attach_unnoted sandbox provider
    · exact h.kept

lemma Going.attached (h : Going strict r b s0 s) {receipt : RuntimeIdentityReceipt}
    (hreceipt : s.vars.runtimeIdentityReceipt = some receipt)
    (hdetached : receipt.attachmentCreated = false)
    (hhonest : s.Honest strict (.run r (.attach b.sandboxName receipt.providerName)))
    (hexit : s.next.exitCode = 0) :
    Kept strict r b s0 (s.exec (.run r (.attach b.sandboxName receipt.providerName))).1.world
      { s.vars with runtimeIdentityReceipt := some { receipt with attachmentCreated := true } }
      (s.exec (.run r (.attach b.sandboxName receipt.providerName))).1.removed := by
  obtain ⟨heffective, haccepted⟩ := hhonest.1 hexit
  have htakes : s.takes (.attach b.sandboxName receipt.providerName) = none := ite_self none
  simp only [State.exec, htakes, heffective, if_true]
  refine h.kept.attach haccepted ?_ (flagged_attached hreceipt)
    (flaggedAttachment_attached hreceipt hdetached)
  rintro _ ⟨⟩; exact h.kept.receipt receipt hreceipt

lemma attachRuntimeIdentity_does (h : Going strict r b s0 s)
    {receipt : RuntimeIdentityReceipt} (hreceipt : s.vars.runtimeIdentityReceipt = some receipt)
    (hdetached : receipt.attachmentCreated = false) :
    Does (State.Honest strict) (fun s' result => s'.vars = s.vars ∧ s'.plans = s.plans ∧
        (∀ e, result = .error e → Going strict r b s0 s') ∧
        (∀ attached, result = .ok attached → Kept strict r b s0 s'.world
          { s.vars with
            runtimeIdentityReceipt := some { receipt with attachmentCreated := attached } }
          s'.removed))
      (attachRuntimeIdentity rd r receipt b.sandboxName) s := by
  refine .seq <| .looks (looks_requireProviderDerivedPolicy rd r) fun o result => ?_
  cases result with
  | error e => exact ⟨rfl, rfl, fun _ _ => h.outcomes o, nofun⟩
  | ok _ =>
  refine .seq <| .looks (looks_inspectProvider rd r receipt) fun o result => ?_
  cases result with
  | error e => exact ⟨rfl, rfl, fun _ _ => h.outcomes o, nofun⟩
  | ok present =>
  refine .ite (fun _ => ?_) fun _ => .throw ⟨rfl, rfl, fun _ _ => h.outcomes o, nofun⟩
  refine .seq <| .run fun hhonest => .ite (fun hexit => ?_) fun hexit => ?_
  · refine .pure ⟨rfl, rfl, nofun, ?_⟩
    rintro _ ⟨⟩; exact (h.outcomes o).attached hreceipt hdetached hhonest hexit
  · have hgoing := (h.outcomes o).attach_unnoted hhonest hexit
    refine .ite (fun _ => .pure ⟨rfl, rfl, nofun, ?_⟩) fun _ =>
      .throw ⟨rfl, rfl, fun _ _ => hgoing, nofun⟩
    rintro _ ⟨⟩
    have hsame : { s.vars with
        runtimeIdentityReceipt := some { receipt with attachmentCreated := false } } = s.vars := by
      rw [← hdetached, ← hreceipt]
    rw [hsame]; exact hgoing.kept

lemma attachIdentity_does (h : Stage strict r b s0 s) :
    Does (State.Honest strict) (fun s' _ => Going strict r b s0 s') (attachIdentity rd r b) s := by
  refine .seq <| .getVars ?_
  show Does (State.Honest strict) _ _ s
  dsimp only
  split
  · exact .pure h.going
  next receipt hreceipt =>
  refine .seq <| .run fun _ => .ite (fun _ => ?_) fun _ => ?_
  · rw [exec_quiet rfl]; exact .throw (h.going.outcomes _)
  rw [exec_quiet rfl]
  refine .seq <| .looks (looks_assertReusableRuntimeIdentitySandbox rd b _) fun o result => ?_
  cases result with
  | error e => exact h.going.outcomes o
  | ok _ =>
  have hdetached := h.unattached receipt hreceipt
  refine .seq <| (attachRuntimeIdentity_does (h.going.outcomes o) hreceipt hdetached).mono ?_
  rintro s1 (e | attached) ⟨hvars, hplans, hgoing, hkept⟩
  · exact hgoing e rfl
  refine .seq <| .setVars <| .persistRunPlan ?_
  refine Going.persisted (hkept attached rfl) ?_ h.going.creatable
  intro r' hne; exact (congrFun hplans r').trans (h.going.others r' hne)

/-- A part that is left out where something can be reused. -/
lemma Stage.unless (h : Stage strict r b s0 s) {p : Prop} [Decidable p] {t : Prog Unit}
    {f : Unit → Prog Unit} (ht : Does (State.Honest strict) (EndsAtStage strict r b s0) t s)
    (hf : ∀ s', Stage strict r b s0 s' →
      Does (State.Honest strict) (fun s'' _ => Going strict r b s0 s'') (f ()) s') :
    Does (State.Honest strict) (fun s'' _ => Going strict r b s0 s'')
      (if p then f () else t >>= f) s := by
  refine .ite (fun _ => hf s h) fun _ => .seq <| ht.mono ?_
  rintro s' (e | ⟨⟩) ⟨hgoing, hstage⟩
  · exact hgoing
  · exact hf s' (hstage rfl)

lemma applySteps_does (h : Going strict r b s0 s) (hfresh : Fresh strict r s0.world)
    (hvars : s.vars = ⟨none, false, false⟩) :
    Does (State.Honest strict) (fun s' _ => Going strict r b s0 s') (applySteps rd r b) s := by
  refine .seq <| (configureIdentity_does h hfresh hvars).mono ?_
  rintro s1 (e | reuse) ⟨hgoing, hstage⟩
  · exact hgoing
  refine (hstage reuse rfl).unless (createSandbox_does (hstage reuse rfl)) fun s2 h2 => ?_
  refine h2.unless (createInferenceProvider_does h2) fun s3 h3 => ?_
  refine h3.unless (h3.looks (looks_setInferenceRoute rd r b)) fun s4 h4 => ?_
  refine .seq <| (attachIdentity_does h4).mono ?_
  rintro s5 (e | ⟨⟩) h5
  · exact h5
  refine .seq <| .looks (looks_applyPolicyAdditions rd r b) fun o result => ?_
  cases result with
  | error e => exact h5.outcomes o
  | ok _ => exact .persistRunPlan (Going.persisted h5.kept h5.others h5.creatable)

section

variable (h : Going strict r b s0 s)
include h

section

variable (hfresh : Fresh strict r s0.world)
include hfresh

lemma cleanupIdentity_does :
    Does (State.Honest strict) (fun s' result => Going strict r b s0 s' ∧ ∃ failures,
      result = .ok failures)
      (cleanupIdentity rd r b) s := by
  refine .seq <| .getVars ?_
  show Does (State.Honest strict) _ _ s
  dsimp only
  split
  · exact .pure ⟨h, _, rfl⟩
  next receipt hreceipt =>
  refine .handle <| .seq <| (removeRuntimeIdentity_does h hfresh hreceipt).mono ?_
  rintro s1 (e | ⟨⟩) ⟨h1, hvars, hgone⟩
  · show Does (State.Honest strict) _ _ s1; exact .pure ⟨h1, _, rfl⟩
  rw [← hvars] at hreceipt ⊢
  refine .seq <| .setVars <| .seq <| .persistRunPlan ?_
  have hkept : Kept strict r b s0 s1.world
      { s1.vars with
        runtimeIdentityReceipt :=
          some { receipt with providerCreated := false, attachmentCreated := false } }
      s1.removed := by
    refine h1.kept.forget ?_ ?_ ?_ ?_ ?_
    · rintro _ ⟨⟩; exact h1.kept.receipt receipt hreceipt
    · grind [flagged_iff]
    · rintro hs y (h | h | ⟨receipt', hreceipt', h⟩)
      · exact .inl (.sandbox h)
      · exact .inl (.inferenceProvider h)
      · cases hreceipt.symm.trans hreceipt'; exact .inr ((hgone hs rfl).2 h)
    · rintro p q ⟨receipt', ⟨⟩, ⟨⟩⟩
    · rintro hs p q ⟨receipt', hreceipt', h⟩
      cases hreceipt.symm.trans hreceipt'; exact .inr ((hgone hs rfl).1 h)
  refine .pure ⟨Going.persisted hkept h1.others h1.creatable, _, rfl⟩

lemma removeNoted_does (hc : c.removes = some x) (hx : Flagged b s.vars x) {p : Result → Prop}
    [DecidablePred p] (hgone : ∀ result, p result → result.exitCode = 0 ∨ result.saysMissing)
    (hreceipt : v.runtimeIdentityReceipt = s.vars.runtimeIdentityReceipt)
    (hflagged : ∀ y, Flagged b v y → Flagged b s.vars y)
    (hforgotten : ∀ y, Flagged b s.vars y → Flagged b v y ∨ y = x)
    (hcreatable : v.inferenceProviderCreatedByApply → Creatable b)
    (message : Result → String) :
    Does (State.Honest strict) (fun s' result => Going strict r b s0 s' ∧ ∃ failures,
      result = .ok failures)
      (do
        let removed ← runCmd r c
        if p removed then
          setVars v
          persistRunPlan r b
          return []
        else return [message removed]) s := by
  refine .seq <| .run fun hhonest => ?_
  have hgoing := h.removes hfresh hc hx
  refine .ite (fun hremoved => ?_) fun _ => .pure ⟨hgoing, _, rfl⟩
  refine .seq <| .setVars <| .seq <| .persistRunPlan ?_
  refine .pure ⟨Going.persisted (hgoing.kept.forget ?_ hflagged ?_ ?_ ?_) h.others hcreatable, _, rfl⟩
  · intro receipt hreceipt'; exact h.kept.receipt receipt (hreceipt ▸ hreceipt')
  · rintro rfl y hy
    refine (hforgotten y hy).imp_right ?_
    rintro rfl; exact exec_removes hc hhonest (hgone _ hremoved)
  · exact fun p q hpq => (flaggedAttachment_congr hreceipt p q).mp hpq
  · exact fun _ p q hpq => .inl ((flaggedAttachment_congr hreceipt p q).mpr hpq)

lemma cleanupSandbox_does :
    Does (State.Honest strict) (fun s' result => Going strict r b s0 s' ∧ ∃ failures,
      result = .ok failures)
      (cleanupSandbox rd r b) s := by
  refine .seq <| .getVars <| .ite (fun hcreated => ?_) fun _ => .pure ⟨h, _, rfl⟩
  refine .seq <| .run fun _ => ?_
  rw [exec_quiet rfl]
  have hc : (Command.sandboxRemove b.sandboxName).removes = some (.sandbox b.sandboxName) := rfl
  refine removeNoted_does
    (p := fun result => result.exitCode = 0 ∨ missingSandboxPattern result.stderr)
    (v := { s.vars with sandboxCreatedByApply := false })
    (h.outcomes s.outcomes.tail) hfresh hc (.sandbox hcreated) ?_ rfl ?_ ?_ h.creatable _
  · rintro result (hexit | hmissing)
    · exact .inl hexit
    · exact .inr (by simp [Result.saysMissing, hmissing])
  · grind [flagged_iff]
  · grind [flagged_iff]

lemma cleanupInferenceProvider_does :
    Does (State.Honest strict) (fun s' result => Going strict r b s0 s' ∧ ∃ failures,
      result = .ok failures)
      (cleanupInferenceProvider rd r b) s := by
  refine .seq <| .getVars <| .ite (fun hcreated => ?_) fun _ => .pure ⟨h, _, rfl⟩
  have hcreated := (Bool.and_eq_true_iff.mp hcreated).1
  have hc : (Command.providerDelete b.providerName).removes = some (.provider b.providerName) := rfl
  refine removeNoted_does
    (p := fun result => result.exitCode = 0 ∨ missingProviderInspectionPattern result.stderr)
    (v := { s.vars with inferenceProviderCreatedByApply := false })
    h hfresh hc (.inferenceProvider hcreated) ?_ rfl ?_ ?_ nofun _
  · rintro result (hexit | hmissing)
    · exact .inl hexit
    · exact .inr (by simp [Result.saysMissing, hmissing])
  · grind [flagged_iff]
  · grind [flagged_iff]

lemma applyCleanup_does (message : String) :
    Does (State.Honest strict) (fun s' result => Going strict r b s0 s' ∧ result ≠ .ok ())
      (applyCleanup rd r b message) s := by
  refine .seq <| (cleanupIdentity_does h hfresh).mono ?_
  rintro s1 _ ⟨h1, failures, rfl⟩
  refine .seq <| (cleanupSandbox_does h1 hfresh).mono ?_
  rintro s2 _ ⟨h2, failures, rfl⟩
  refine .seq <| (cleanupInferenceProvider_does h2 hfresh).mono ?_
  rintro s3 _ ⟨h3, failures, rfl⟩
  exact .ite (fun _ => .throw ⟨h3, nofun⟩) fun _ => .throw ⟨h3, nofun⟩

end

end

end Going

section

variable {strict : Bool} {r : RunId} {b : Blueprint} {s : State} {rd : Readers}

structure ToCome (strict : Bool) (r : RunId) (s : State) : Prop where
  fresh : Fresh strict r s.world
  noPlan : s.plans r = none

lemma ToCome.going (h : ToCome strict r s) :
    Going strict r b s { s with vars := ⟨none, false, false⟩ } where
  kept :=
    { flagged := by rintro x (h | h | ⟨receipt, hreceipt, h⟩) <;> contradiction
      kept := fun _ _ => id
      only := fun _ _ => .inr
      removedOwn := fun _ => .inr
      removedKept := fun _ => id
      receipt := nofun
      known := fun _ x hx => absurd hx (h.fresh.1 x)
      flaggedAttachment := by rintro - p q ⟨receipt, hreceipt, h⟩; contradiction
      keptAttachment := fun _ _ _ _ => id
      knownAttachment := fun hs p q hpq => absurd hpq (h.fresh.2 hs p q) }
  plan := .inr ⟨h.noPlan, rfl⟩
  others := fun _ _ => rfl
  creatable := nofun

/-- The apply throws at once, or it has kept to what is its own to its end. -/
theorem actionApply_does (h : ToCome strict r s) :
    Does (State.Honest strict) (fun s' result => (s' = s ∧ result ≠ .ok ()) ∨
        resolveRunConfig rd b = .ok () ∧ Going strict r b s s')
      (actionApply rd r b) s := by
  refine .seq <| .lift ?_
  cases hresolved : resolveRunConfig rd b with
  | error e => exact .inl ⟨rfl, nofun⟩
  | ok _ =>
  refine .seq <| .setVars <| .handle <| (applySteps_does h.going h.fresh rfl).mono ?_
  rintro s1 (e | ⟨⟩) hgoing
  · refine (applyCleanup_does hgoing h.fresh e).mono ?_
    exact fun s' result hs' => .inr ⟨rfl, hs'.1⟩
  · exact .inr ⟨rfl, hgoing⟩

end

end NemoClaw.Runner
