import Mathlib.Data.List.TakeWhile
import NemoClaw.Blueprint.ApplyKept

/- What a rollback removes.

What is proved:
  1. `Plan.Records` — what the plan of a run records as created by it, and
     `readRollbackPlan_built`, which plans can be read.
  2. `actionRollback_takes` — whatever comes of its commands, a rollback takes nothing but
     what its plan records.
  3. `actionRollback_clears` — where every command succeeds, it takes exactly that.
-/
namespace NemoClaw.Runner

open Js CallTree List Option

inductive Plan.Records (p : Plan) : Resource → Prop where
  | sandbox (h : p.sandboxCreatedByApply) : Records p (.sandbox p.sandboxName)
  | inferenceProvider (name : String) (hname : p.inferenceProviderName = some name)
    (h : p.inferenceProviderCreatedByApply) : Records p (.provider name)
  | identityProvider (receipt : RuntimeIdentityReceipt) (hreceipt : p.identity = some receipt)
    (h : receipt.providerCreated) : Records p (.provider receipt.providerName)

inductive Plan.RecordsAttachment (p : Plan) : String → String → Prop where
  | intro (receipt : RuntimeIdentityReceipt) (hreceipt : p.identity = some receipt)
    (h : receipt.attachmentCreated) :
    RecordsAttachment p p.sandboxName receipt.providerName

lemma isJsSpace_eq_false {c : Char} (h : 32 < c.toNat) (h' : c.toNat < 160) :
    isJsSpace c = false := by
  have htoNat : c.toNat = c.val.toNat := rfl
  rw [htoNat] at h h'
  simp only [isJsSpace, mem_cons, not_mem_nil, or_false, Bool.or_eq_false_iff,
    decide_eq_false_iff_not, Bool.and_eq_false_imp, decide_eq_true_eq, ← UInt32.toNat_inj,
    UInt32.le_iff_toNat_le, UInt32.reduceToNat]
  omega

lemma jsTrim_ne_empty {s : String} {c : Char} {rest : List Char} (hs : s.toList = c :: rest)
    (hc : isJsSpace c = false) : jsTrim s ≠ "" := by
  intro h
  have hlist := congrArg String.toList h
  rw [jsTrim, String.toList_ofList, hs, dropWhile_cons_of_neg (by simp [hc])] at hlist
  have hnil : ((c :: rest).reverse.dropWhile isJsSpace).reverse = [] := hlist
  rw [reverse_eq_nil_iff, dropWhile_eq_nil_iff] at hnil
  have hspace := hnil c (by simp)
  rw [hc] at hspace; cases hspace

lemma isJsSpace_of_isLetter {c : Char} (h : isLetter c) : isJsSpace c = false := by
  simp only [isLetter, isLower, Bool.or_eq_true, Bool.and_eq_true, decide_eq_true_eq, Char.le_def,
    UInt32.le_iff_toNat_le] at h
  have hbounds : 65 ≤ c.val.toNat ∧ c.val.toNat ≤ 122 := by
    rcases h with ⟨h, h'⟩ | ⟨h, h'⟩
    · exact ⟨le_trans (by decide) h, h'⟩
    · exact ⟨h, le_trans h' (by decide)⟩
  apply isJsSpace_eq_false
  · exact lt_of_lt_of_le (by decide) hbounds.1
  · exact lt_of_le_of_lt hbounds.2 (by decide)

lemma jsTrim_of_isValidName {s : String} (h : isValidName s) : jsTrim s ≠ "" := by
  unfold isValidName at h
  split at h
  · next c rest hs =>
    simp only [Bool.and_eq_true] at h
    refine jsTrim_ne_empty hs (isJsSpace_of_isLetter ?_)
    simp [isLetter, h.1.1.1.1]
  · cases h

lemma jsTrim_of_isValidProviderName {s : String} (h : isValidProviderName s) :
    jsTrim s ≠ "" := by
  unfold isValidProviderName at h
  split at h
  · next c rest hs =>
    simp only [Bool.and_eq_true] at h
    exact jsTrim_ne_empty hs (isJsSpace_of_isLetter h.1.1)
  · cases h

section Built

variable {rd : Readers} {b : Blueprint} {v : Vars}

lemma assertValidName_eq_ok {value label : String} :
    assertValidName rd value label = .ok () ↔ isValidName value := by
  unfold assertValidName
  split <;> simp [*]

lemma assertValidProviderName_eq_ok {value label : String} :
    assertValidProviderName rd value label = .ok () ↔ isValidProviderName value := by
  unfold assertValidProviderName
  split <;> simp [*]

lemma names_of_resolved (h : resolveRunConfig rd b = .ok ()) :
    isValidName b.sandboxName ∧
      ∀ name, b.inference.providerName = some name → isValidProviderName name := by
  unfold resolveRunConfig at h
  cases hresolved : b.resolved with
  | error e => rw [hresolved] at h; cases h
  | ok _ =>
  rw [hresolved] at h
  constructor
  · unfold Blueprint.sandboxName
    cases hsandbox : b.sandbox.name with
    | none => decide
    | some name =>
    show isValidName name
    by_contra hinvalid; simp only [hsandbox, assertValidName, if_neg hinvalid] at h; cases h
  · intro name hname
    by_contra hinvalid
    cases hsandbox : b.sandbox.name with
    | none =>
      simp only [hsandbox, hname, assertValidProviderName, if_neg hinvalid] at h; cases h
    | some sandboxName =>
      by_cases hvalid : isValidName sandboxName
      · simp only [hsandbox, hname, assertValidName, if_pos hvalid, assertValidProviderName,
          if_neg hinvalid] at h
        cases h
      · simp only [hsandbox, assertValidName, if_neg hvalid] at h; cases h

theorem readRollbackPlan_built (h : resolveRunConfig rd b = .ok ())
    (hnamed : v.inferenceProviderCreatedByApply → b.inference.providerName ≠ none)
    (hreceipt : ∀ receipt, v.runtimeIdentityReceipt = some receipt → ReceiptOf b receipt) :
    ∃ providerName, readRollbackPlan rd (buildPersistedRunPlan b v) = .ok providerName := by
  obtain ⟨hsandbox, hprovider⟩ := names_of_resolved h
  have hreadSandbox : readRollbackSandboxName rd (buildPersistedRunPlan b v) = .ok () := by
    exact (if_neg (jsTrim_of_isValidName hsandbox)).trans (assertValidName_eq_ok.mpr hsandbox)
  have hidentity : (buildPersistedRunPlan b v).identity.all (·.isExact) := by
    show v.runtimeIdentityReceipt.all (·.isExact)
    cases hv : v.runtimeIdentityReceipt with
    | none => rfl
    | some receipt =>
      obtain ⟨config, -, -, -, -, hexact⟩ := hreceipt receipt hv; exact hexact
  have hflag : (buildPersistedRunPlan b v).inferenceProviderCreatedByApply =
    v.inferenceProviderCreatedByApply := rfl
  unfold readRollbackPlan
  by_cases hcreated : v.inferenceProviderCreatedByApply
  · obtain ⟨name, hname⟩ := ne_none_iff_exists'.mp (hnamed hcreated)
    have hreadProvider :
        readRollbackInferenceProviderName rd (buildPersistedRunPlan b v) = .ok name := by
      unfold readRollbackInferenceProviderName
      simp only [buildPersistedRunPlan, hname,
        if_neg (jsTrim_of_isValidProviderName (hprovider name hname)),
        assertValidProviderName_eq_ok.mpr (hprovider name hname)]
      rfl
    simp only [hreadSandbox, hreadProvider, hidentity, hflag, hcreated, if_true]
    exact ⟨some name, rfl⟩
  · simp only [hreadSandbox, hidentity, hflag, hcreated, if_true]; exact ⟨none, rfl⟩

lemma readRollbackPlan_unnamed (hname : b.inference.providerName = none)
    (hcreated : v.inferenceProviderCreatedByApply) :
    ∃ e, readRollbackPlan rd (buildPersistedRunPlan b v) = .error e := by
  unfold readRollbackPlan
  cases readRollbackSandboxName rd (buildPersistedRunPlan b v) with
  | error e => exact ⟨e, rfl⟩
  | ok _ =>
    simp only [buildPersistedRunPlan, hcreated, readRollbackInferenceProviderName, hname, if_true]
    exact ⟨_, rfl⟩

lemma flagged_of_records {x : Resource} (h : (buildPersistedRunPlan b v).Records x) :
    Flagged b v x := by
  rcases h with h | ⟨name, hname, h⟩ | ⟨receipt, hreceipt, h⟩
  · exact .sandbox h
  · have hx : Flagged b v (.provider b.providerName) := .inferenceProvider h
    rwa [Blueprint.providerName, show b.inference.providerName = some name from hname] at hx
  · exact .identityProvider receipt hreceipt h

lemma records_of_flagged
    (hnamed : v.inferenceProviderCreatedByApply → b.inference.providerName ≠ none)
    {x : Resource} (h : Flagged b v x) : (buildPersistedRunPlan b v).Records x := by
  rcases h with h | h | ⟨receipt, hreceipt, h⟩
  · exact .sandbox h
  · obtain ⟨name, hname⟩ := ne_none_iff_exists'.mp (hnamed h)
    have hx : (buildPersistedRunPlan b v).Records (.provider name) := .inferenceProvider name hname h
    rwa [Blueprint.providerName, hname]
  · exact .identityProvider receipt hreceipt h

lemma recordsAttachment_of_flagged {p q : String} (h : FlaggedAttachment b v p q) :
    (buildPersistedRunPlan b v).RecordsAttachment p q := by
  obtain ⟨receipt, hreceipt, h⟩ := h; exact .intro receipt hreceipt h

end Built

/-! ## What a rollback may take -/

structure Takes (r : RunId) (may : Resource → Prop) (s s' : State) : Prop where
  plans : s'.plans = s.plans
  origin : ∀ x, s'.world.origin x = s.world.origin x ∨ may x ∧ s'.world.origin x = none
  removed : ∀ e ∈ s.removed, e ∈ s'.removed
  listed : ∀ x, s.world.origin x ≠ none → s'.world.origin x = none → (r, x) ∈ s'.removed

lemma Takes.of_same {r : RunId} {may : Resource → Prop} {s s' : State} (hplans : s'.plans = s.plans)
    (hworld : s'.world = s.world) (hremoved : s'.removed = s.removed) : Takes r may s s' where
  plans := hplans
  origin := fun _ => .inl (by rw [hworld])
  removed := fun _ he => hremoved ▸ he
  listed := fun _ hthere hgone => absurd (hworld ▸ hgone) hthere

lemma Takes.trans {r : RunId} {may : Resource → Prop} {s s1 s2 : State}
    (h : Takes r may s s1) (h' : Takes r may s1 s2) : Takes r may s s2 where
  plans := h'.plans.trans h.plans
  origin x := by
    rcases h'.origin x with heq | ⟨hmay, hgone⟩
    · rcases h.origin x with heq' | ⟨hmay, hgone⟩
      · exact .inl (heq.trans heq')
      · exact .inr ⟨hmay, heq.trans hgone⟩
    · exact .inr ⟨hmay, hgone⟩
  removed := fun e he => h'.removed e (h.removed e he)
  listed x hthere hgone := by
    by_cases hmid : s1.world.origin x = none
    · exact h'.removed _ (h.listed x hthere hmid)
    · exact h'.listed x hmid hgone

def TakesOnly {α : Type} (r : RunId) (may : Resource → Prop) (t : Prog α) : Prop :=
  ∀ cond s, Does cond (fun s' _ => Takes r may s s') t s

namespace TakesOnly

variable {α β : Type} {r : RunId} {may : Resource → Prop} {t : Prog α}

lemma looks (h : Looks t) : TakesOnly r may t :=
  fun _ _ => .looks h fun _ _ => .of_same rfl rfl rfl

lemma done {result : Except String α} : TakesOnly r may (.done result) := looks .done

lemma seq {f : α → Prog β} (h : TakesOnly r may t) (hf : ∀ a, TakesOnly r may (f a)) :
    TakesOnly r may (t >>= f) := by
  intro cond s
  refine .seq <| (h cond s).mono ?_
  rintro s1 (e | a) h1
  · exact h1
  · exact (hf a cond s1).mono fun s2 _ h2 => h1.trans h2

lemma ite {p : Prop} [Decidable p] {t' : Prog α} (h : p → TakesOnly r may t)
    (h' : ¬p → TakesOnly r may t') : TakesOnly r may (if p then t else t') := by
  split
  · next hp => exact h hp
  · next hp => exact h' hp

lemma removes {c : Command} {x : Resource} (hc : c.removes = some x) (hmay : may x) :
    TakesOnly r may (runCmd r c) := by
  intro cond s
  have heffect := (Command.effect_of_removes hc s.world (r := r)).1
  refine .run fun _ => ⟨rfl, fun y => ?_, fun e he => mem_append_right _ he, ?_⟩
  · have hworld : (s.exec (.run r c)).1.world =
      if s.next.effective then c.effect r s.world else s.world := rfl
    rw [hworld]
    split
    · rw [heffect]
      by_cases heq : y = x
      · exact .inr ⟨heq ▸ hmay, heq ▸ World.remove_origin_self ..⟩
      · exact .inl (World.remove_origin_of_ne heq)
    · exact .inl rfl
  · intro y hthere hgone
    simp only [State.exec, State.takes, hc] at hgone ⊢
    split at hgone
    · next heffective =>
      rw [heffect] at hgone
      by_cases heq : y = x
      · subst heq
        rw [if_pos heffective]; simp [Option.filter, isSome_iff_ne_none.mpr hthere]
      · rw [World.remove_origin_of_ne heq] at hgone; exact absurd hgone hthere
    · exact absurd hgone hthere

lemma detach (sandbox provider : String) :
    TakesOnly r may (runCmd r (.detach sandbox provider)) := by
  intro cond s
  refine .run fun _ => ⟨rfl, fun y => .inl ?_, fun e he => mem_append_right _ he, ?_⟩
  · show (if s.next.effective then s.world.detach sandbox provider else s.world).origin y = _
    split <;> rfl
  intro y hthere hgone
  refine absurd ?_ hthere
  rw [← hgone]
  show _ = (if s.next.effective then s.world.detach sandbox provider else s.world).origin y
  split <;> rfl

end TakesOnly

section

variable {rd : Readers} {r : RunId} {may : Resource → Prop}

lemma takesOnly_removeRuntimeIdentity {receipt : RuntimeIdentityReceipt} {sandboxName : String}
    (hmay : receipt.providerCreated → may (.provider receipt.providerName)) :
    TakesOnly r may (removeRuntimeIdentity rd r receipt sandboxName) := by
  have hdelete : TakesOnly r may
      (if receipt.providerCreated then deleteCreatedProvider rd r receipt else Pure.pure ()) := by
    refine .ite (fun hcreated => ?_) fun _ => .done
    refine .seq (.looks (looks_inspectProvider rd r receipt)) fun _ => .ite (fun _ => ?_) fun _ => .done
    exact .seq (.removes rfl (hmay hcreated)) fun _ => .ite (fun _ => .done) fun _ => .done
  refine .ite (fun _ => .seq ?_ fun _ => hdelete) fun _ => hdelete
  refine .seq (.looks (looks_inspectProvider rd r receipt)) fun _ => .ite (fun _ => ?_) fun _ => .done
  exact .seq (.detach _ _) fun _ => .ite (fun _ => .done) fun _ => .done

lemma takesOnly_rollbackIdentity {plan : Plan} (hmay : ∀ x, plan.Records x → may x) :
    TakesOnly r may (rollbackIdentity rd r plan) := by
  unfold rollbackIdentity
  split
  · exact .done
  next receipt hreceipt =>
  exact takesOnly_removeRuntimeIdentity fun hcreated =>
    hmay _ (.identityProvider receipt hreceipt hcreated)

lemma takesOnly_rollbackSandbox {plan : Plan} (hmay : ∀ x, plan.Records x → may x) :
    TakesOnly r may (rollbackSandbox rd r plan) :=
  .ite (fun hcreated => .seq (.looks (.run rfl)) fun _ =>
    .seq (.removes rfl (hmay _ (.sandbox hcreated))) fun _ => .ite (fun _ => .done) fun _ => .done)
    fun _ => .done

lemma takesOnly_rollbackInferenceProvider {providerName : Option String}
    (hmay : ∀ name, providerName = some name → may (.provider name)) :
    TakesOnly r may (rollbackInferenceProvider rd r providerName) := by
  cases providerName with
  | none => exact .done
  | some name =>
    exact .seq (.removes rfl (hmay name rfl)) fun _ => .ite (fun _ => .done) fun _ => .done

lemma takesOnly_writeRolledBack : TakesOnly r may (writeRolledBack r) :=
  fun _ _ => .ask fun _ => .of_same rfl rfl rfl

lemma eq_of_readRollbackInferenceProviderName {p : Plan} {name : String}
    (h : readRollbackInferenceProviderName rd p = .ok name) : p.inferenceProviderName = some name := by
  unfold readRollbackInferenceProviderName at h
  split at h
  · cases h
  next name' hname =>
  split at h
  · cases h
  cases hvalid : assertValidProviderName rd name' "rollback inference provider name" with
  | error e => rw [hvalid] at h; cases h
  | ok _ =>
    rw [hvalid] at h
    cases h; exact hname

lemma eq_of_readRollbackPlan {p : Plan} {providerName : Option String}
    (h : readRollbackPlan rd p = .ok providerName) :
    providerName = if p.inferenceProviderCreatedByApply then p.inferenceProviderName else none := by
  unfold readRollbackPlan at h
  cases hsandbox : readRollbackSandboxName rd p with
  | error e => rw [hsandbox] at h; cases h
  | ok _ =>
  rw [hsandbox] at h
  by_cases hexact : p.identity.all (·.isExact)
  · by_cases hcreated : p.inferenceProviderCreatedByApply
    · cases hname : readRollbackInferenceProviderName rd p with
      | error e => rw [if_pos hcreated, hname] at h; cases h
      | ok name =>
        rw [if_pos hcreated, hname] at h
        simp only [if_pos hexact] at h
        cases h
        rw [if_pos hcreated, eq_of_readRollbackInferenceProviderName hname]
    · simp only [if_neg hcreated, if_pos hexact] at h
      cases h
      rw [if_neg hcreated]
  · by_cases hcreated : p.inferenceProviderCreatedByApply
    · cases hname : readRollbackInferenceProviderName rd p with
      | error e => rw [if_pos hcreated, hname] at h; cases h
      | ok name => rw [if_pos hcreated, hname] at h; simp only [if_neg hexact] at h; cases h
    · simp only [if_neg hcreated, if_neg hexact] at h; cases h

theorem actionRollback_takes {cond : State → Call → Prop} {s : State}
    (hmay : ∀ p, s.plans r = some p → ∀ x, p.Records x → may x) :
    Does cond (fun s' _ => Takes r may s s') (actionRollback rd r) s := by
  refine .seq <| .readPlan ?_
  show Does cond _ _ s
  dsimp only
  split
  · exact .throw (.of_same rfl rfl rfl)
  next plan hplan =>
  refine .seq <| .lift ?_
  cases hread : readRollbackPlan rd plan with
  | error e => exact .of_same rfl rfl rfl
  | ok providerName =>
  have hname : ∀ name, providerName = some name → may (.provider name) := by
    intro name hname
    rw [eq_of_readRollbackPlan hread] at hname
    by_cases hcreated : plan.inferenceProviderCreatedByApply
    · rw [if_pos hcreated] at hname
      exact hmay plan hplan _ (.inferenceProvider name hname hcreated)
    · rw [if_neg hcreated] at hname; cases hname
  have hrest : TakesOnly r may (do
      rollbackIdentity rd r plan
      rollbackSandbox rd r plan
      rollbackInferenceProvider rd r providerName
      writeRolledBack r) :=
    (takesOnly_rollbackIdentity (hmay plan hplan)).seq fun _ =>
      (takesOnly_rollbackSandbox (hmay plan hplan)).seq fun _ =>
        (takesOnly_rollbackInferenceProvider hname).seq fun _ => takesOnly_writeRolledBack
  exact hrest cond s

end

/-! ## What a rollback removes where all goes well -/

/-- Of these resources and attachments nothing is left, and all else is as it was. -/
structure Clears (gone : Resource → Prop) (off : String → String → Prop) (s s' : State) : Prop where
  plans : s'.plans = s.plans
  cleared : ∀ x, gone x → s'.world.origin x = none
  kept : ∀ x, ¬gone x → s'.world.origin x = s.world.origin x
  detached : ∀ p q, off p q → s'.world.attached p q = none
  keptAttached : ∀ p q, ¬off p q → ¬gone (.sandbox p) → ¬gone (.provider q) →
    s'.world.attached p q = s.world.attached p q
  less : ∀ p q, s.world.attached p q = none → s'.world.attached p q = none

section Clears

variable {gone gone' : Resource → Prop} {off off' : String → String → Prop} {s s1 s' : State}

lemma Clears.trans (h : Clears gone off s s1) (h' : Clears gone' off' s1 s') :
    Clears (fun x => gone x ∨ gone' x) (fun p q => off p q ∨ off' p q) s s' where
  plans := h'.plans.trans h.plans
  cleared := by
    rintro x (hx | hx)
    · by_cases hx' : gone' x
      · exact h'.cleared x hx'
      · exact (h'.kept x hx').trans (h.cleared x hx)
    · exact h'.cleared x hx
  kept := by
    intro x hx
    obtain ⟨hx, hx'⟩ := not_or.mp hx; exact (h'.kept x hx').trans (h.kept x hx)
  detached := by
    rintro p q (hpq | hpq)
    · exact h'.less p q (h.detached p q hpq)
    · exact h'.detached p q hpq
  keptAttached := by
    intro p q hpq hp hq
    obtain ⟨hpq, hpq'⟩ := not_or.mp hpq
    obtain ⟨hp, hp'⟩ := not_or.mp hp
    obtain ⟨hq, hq'⟩ := not_or.mp hq
    exact (h'.keptAttached p q hpq' hp' hq').trans (h.keptAttached p q hpq hp hq)
  less := fun p q hpq => h'.less p q (h.less p q hpq)

lemma Clears.congr (h : Clears gone off s s') (hgone : ∀ x, gone' x ↔ gone x)
    (hoff : ∀ p q, off' p q ↔ off p q) : Clears gone' off' s s' where
  plans := h.plans
  cleared := fun x hx => h.cleared x ((hgone x).mp hx)
  kept := fun x hx => h.kept x fun hx' => hx ((hgone x).mpr hx')
  detached := fun p q hpq => h.detached p q ((hoff p q).mp hpq)
  keptAttached := fun p q hpq hp hq => h.keptAttached p q (fun h' => hpq ((hoff p q).mpr h'))
    (fun h' => hp ((hgone _).mpr h')) fun h' => hq ((hgone _).mpr h')
  less := h.less

lemma Clears.outcomes {o : List Outcome} (h : Clears gone off { s with outcomes := o } s') :
    Clears gone off s s' :=
  ⟨h.plans, h.cleared, h.kept, h.detached, h.keptAttached, h.less⟩

lemma Clears.of_absent (hplans : s'.plans = s.plans) (hworld : s'.world = s.world)
    (hgone : ∀ x, gone x → s.world.origin x = none)
    (hoff : ∀ p q, off p q → s.world.attached p q = none) : Clears gone off s s' where
  plans := hplans
  cleared := fun x hx => hworld ▸ hgone x hx
  kept := fun _ _ => by rw [hworld]
  detached := fun p q hpq => hworld ▸ hoff p q hpq
  keptAttached := fun _ _ _ _ _ => by rw [hworld]
  less := fun _ _ h => hworld ▸ h

end Clears

/-- How a command says that what it is about is absent. -/
def Command.reportsAbsence (result : Result) : Command → Bool
  | providerGet _ => missingResourcePattern result.commandOutput
  | providerDelete _ => missingResourcePattern result.commandOutput &&
      missingProviderInspectionPattern result.stderr
  | sandboxRemove _ => missingSandboxPattern result.stderr
  | detach .. => missingResourcePattern result.commandOutput
  | _ => true

/-- The command of a rollback succeeds: what it is about is found as the plan has it, or it
is absent and the command says so. -/
def Smooth (rd : Readers) (s : State) : Call → Prop
  | .run r c =>
    s.Honest true (.run r c) ∧ (c.absent s.world = false → s.next.exitCode = 0) ∧
      (s.next.exitCode ≠ 0 → c.reportsAbsence s.next.toResult) ∧
      (s.next.exitCode = 0 → ∀ p receipt, s.plans r = some p → p.identity = some receipt →
        c = .providerGet receipt.providerName →
        rd.providerMatches receipt.providerType receipt.providerName receipt.credentialKey
          s.next.commandOutput)
  | _ => True

section Smooth

variable {rd : Readers} {r : RunId} {s : State} {p : Plan} {receipt : RuntimeIdentityReceipt}

lemma Smooth.absent {c : Command} (h : Smooth rd s (.run r c)) (hexit : s.next.exitCode ≠ 0) :
    c.absent s.world ∧ (s.exec (.run r c)).1.world = s.world := by
  obtain ⟨hhonest, hfound, -, -⟩ := h
  constructor
  · by_contra hpresent; exact hexit (hfound (Bool.eq_false_iff.mpr hpresent))
  · show (if s.next.effective then c.effect r s.world else s.world) = s.world
    rw [(hhonest.2 rfl hexit).1]; rfl

lemma Smooth.clears_removes {c : Command} {x : Resource} (h : Smooth rd s (.run r c))
    (hc : c.removes = some x) :
    Clears (fun y => y = x) (fun _ _ => False) s (s.exec (.run r c)).1 := by
  obtain ⟨heffect, habsent⟩ := Command.effect_of_removes hc s.world (r := r)
  by_cases hexit : s.next.exitCode = 0
  · have hworld : (s.exec (.run r c)).1.world = s.world.remove x := by
      show (if s.next.effective then c.effect r s.world else s.world) = _
      rw [(h.1.1 hexit).1, heffect]; rfl
    refine ⟨rfl, ?_, ?_, fun _ _ => False.elim, ?_, fun p q => exec_attached_none hc⟩
    · rintro _ rfl
      rw [hworld]; exact World.remove_origin_self ..
    · intro y hne
      rw [hworld]; exact World.remove_origin_of_ne hne
    · intro p q _ hp hq
      rw [hworld]; exact World.remove_attached (Ne.symm hp) (Ne.symm hq)
  · obtain ⟨hgone, hworld⟩ := h.absent hexit
    rw [habsent, isNone_iff_eq_none] at hgone
    refine .of_absent rfl hworld ?_ fun _ _ => False.elim
    rintro _ rfl; exact hgone

lemma Smooth.clears_detach {sandbox provider : String}
    (h : Smooth rd s (.run r (.detach sandbox provider))) :
    Clears (fun _ => False) (fun p q => p = sandbox ∧ q = provider) s
      (s.exec (.run r (.detach sandbox provider))).1 := by
  by_cases hexit : s.next.exitCode = 0
  · have hworld : (s.exec (.run r (.detach sandbox provider))).1.world =
        s.world.detach sandbox provider := by
      show (if s.next.effective then s.world.detach sandbox provider else s.world) = _
      rw [(h.1.1 hexit).1]; rfl
    have hself := World.detach_attached_self s.world sandbox provider
    refine ⟨rfl, fun _ => False.elim, fun x _ => by rw [hworld]; rfl, ?_, ?_, ?_⟩
    · rintro _ _ ⟨rfl, rfl⟩
      rw [hworld]; exact hself
    · intro p q hne _ _
      rw [hworld]; exact World.detach_attached_of_ne hne
    · intro p q hpq
      rw [hworld]
      by_cases heq : p = sandbox ∧ q = provider
      · rw [heq.1, heq.2]; exact hself
      · rw [World.detach_attached_of_ne heq]; exact hpq
  · obtain ⟨hgone, hworld⟩ := h.absent hexit
    refine .of_absent rfl hworld (fun _ => False.elim) ?_
    rintro _ _ ⟨rfl, rfl⟩; exact isNone_iff_eq_none.mp hgone

section

variable (hp : s.plans r = some p)
include hp

section

variable (hreceipt : p.identity = some receipt)
include hreceipt

lemma inspectProvider_smooth :
    Does (Smooth rd) (fun s' result => (∃ o, s' = { s with outcomes := o }) ∧
        ∃ present, result = .ok present ∧
          (present = false → s.world.origin (.provider receipt.providerName) = none))
      (inspectProvider rd r receipt) s := by
  refine .seq <| .run fun hsmooth => ?_
  rw [exec_quiet rfl]
  by_cases hexit : s.next.exitCode = 0
  · have hpresent : s.next.isMissingResource = false := by simp [Result.isMissingResource, hexit]
    have hmatches := hsmooth.2.2.2 hexit p receipt hp hreceipt rfl
    refine .ite (fun hmissing => ?_) fun _ => .ite (fun hne => absurd hexit hne) fun _ =>
      .ite (fun _ => .pure ⟨⟨_, rfl⟩, true, rfl, fun h => absurd h (by decide)⟩) fun hne => absurd hmatches hne
    rw [hpresent] at hmissing; cases hmissing
  · have hreported : missingResourcePattern s.next.commandOutput := hsmooth.2.2.1 hexit
    have hmissing : s.next.isMissingResource := by
      simp [Result.isMissingResource, hexit, hreported]
    refine .ite (fun _ => .pure ⟨⟨_, rfl⟩, false, rfl, fun _ => ?_⟩) fun hne => absurd hmissing hne
    exact isNone_iff_eq_none.mp (hsmooth.absent hexit).1

lemma deleteCreatedProvider_smooth :
    Does (Smooth rd) (fun s' result => result = .ok () ∧
        Clears (fun x => x = .provider receipt.providerName) (fun _ _ => False) s s')
      (deleteCreatedProvider rd r receipt) s := by
  refine .seq <| (inspectProvider_smooth hp hreceipt).mono ?_
  rintro _ _ ⟨⟨o, rfl⟩, present, rfl, habsent⟩
  refine .ite (fun _ => ?_) fun hpresent => ?_
  · refine .seq <| .run fun hsmooth => ?_
    have hclears := hsmooth.clears_removes (x := .provider receipt.providerName) rfl
    refine .ite (fun hfailed => ?_) fun _ => .pure ⟨rfl, hclears.outcomes⟩
    have hreported := hsmooth.2.2.1 hfailed.1
    simp only [Command.reportsAbsence, Bool.and_eq_true] at hreported
    refine absurd ?_ hfailed.2
    simp [Result.isMissingResource, hfailed.1, hreported.1]
  · refine .pure ⟨rfl, .of_absent rfl rfl ?_ fun _ _ => False.elim⟩
    rintro _ rfl; exact habsent (Bool.eq_false_iff.mpr hpresent)

lemma detachRuntimeIdentity_smooth {sandboxName : String} :
    Does (Smooth rd) (fun s' result => result = .ok () ∧
        Clears (fun _ => False) (fun p q => p = sandboxName ∧ q = receipt.providerName) s s')
      (detachRuntimeIdentity rd r receipt sandboxName) s := by
  refine .seq <| (inspectProvider_smooth hp hreceipt).mono ?_
  rintro _ _ ⟨⟨o, rfl⟩, present, rfl, habsent⟩
  refine .ite (fun _ => ?_) fun hpresent => ?_
  · refine .seq <| .run fun hsmooth => ?_
    refine .ite (fun hfailed => ?_) fun _ => .pure ⟨rfl, hsmooth.clears_detach.outcomes⟩
    have hreported : missingResourcePattern _ := hsmooth.2.2.1 hfailed.1
    refine absurd ?_ hfailed.2.1
    simp only [Result.isMissingResource, hreported, Bool.and_true, decide_eq_true_eq]
    exact hfailed.1
  · refine .pure ⟨rfl, .of_absent rfl rfl (fun _ => False.elim) ?_⟩
    rintro _ _ ⟨rfl, rfl⟩
    exact World.attached_of_absent (.inr (habsent (Bool.eq_false_iff.mpr hpresent)))

lemma removeRuntimeIdentity_smooth {sandboxName : String} :
    Does (Smooth rd) (fun s' result => result = .ok () ∧
        Clears (fun x => receipt.providerCreated ∧ x = .provider receipt.providerName)
          (fun p q => receipt.attachmentCreated ∧ p = sandboxName ∧
            q = receipt.providerName) s s')
      (removeRuntimeIdentity rd r receipt sandboxName) s := by
  have hdelete : ∀ {off : String → String → Prop} s1,
      Clears (fun _ => False) off s s1 →
      Does (Smooth rd) (fun s' result => result = .ok () ∧
          Clears (fun x => receipt.providerCreated ∧ x = .provider receipt.providerName)
            off s s')
        (if receipt.providerCreated then deleteCreatedProvider rd r receipt else Pure.pure ())
        s1 := by
    intro off s1 h1
    refine .ite (fun hcreated => ?_) fun hcreated => .pure ⟨rfl, ?_⟩
    · refine (deleteCreatedProvider_smooth (h1.plans ▸ hp) hreceipt).mono ?_
      rintro s' _ ⟨rfl, h'⟩; exact ⟨rfl, (h1.trans h').congr (by simp [hcreated]) (by simp)⟩
    · exact h1.congr (by simp [hcreated]) (by simp)
  refine .ite (fun hattached => .seq ?_) fun hattached => ?_
  · refine (detachRuntimeIdentity_smooth hp hreceipt).mono ?_
    rintro s1 _ ⟨rfl, h1⟩; exact hdelete s1 (h1.congr (by simp) (by simp [hattached]))
  · exact hdelete s (.of_absent rfl rfl (fun _ => False.elim) fun p q hpq => absurd hpq.1 hattached)

end

lemma rollbackIdentity_smooth :
    Does (Smooth rd) (fun s' result => result = .ok () ∧
        Clears (fun x => ∃ receipt, p.identity = some receipt ∧ receipt.providerCreated ∧
          x = .provider receipt.providerName) p.RecordsAttachment s s')
      (rollbackIdentity rd r p) s := by
  unfold rollbackIdentity
  split
  · next hnone =>
    refine .pure ⟨rfl, .of_absent rfl rfl ?_ ?_⟩
    · rintro x ⟨receipt, hreceipt, -⟩
      rw [hnone] at hreceipt; cases hreceipt
    · rintro _ _ ⟨receipt, hreceipt, -⟩
      rw [hnone] at hreceipt; cases hreceipt
  · next receipt hreceipt =>
    refine (removeRuntimeIdentity_smooth hp hreceipt).mono ?_
    rintro s' _ ⟨rfl, h⟩
    refine ⟨rfl, h.congr (fun x => ?_) fun q q' => ⟨?_, ?_⟩⟩
    · simp [hreceipt]
    · rintro ⟨receipt', hreceipt', hattached⟩
      rw [hreceipt] at hreceipt'
      cases hreceipt'; exact ⟨hattached, rfl, rfl⟩
    · rintro ⟨hattached, rfl, rfl⟩; exact .intro receipt hreceipt hattached

end

lemma rollbackSandbox_smooth :
    Does (Smooth rd) (fun s' result => result = .ok () ∧
        Clears (fun x => p.sandboxCreatedByApply ∧ x = .sandbox p.sandboxName)
          (fun _ _ => False) s s')
      (rollbackSandbox rd r p) s := by
  refine .ite (fun hcreated => ?_) fun hcreated =>
    .pure ⟨rfl, .of_absent rfl rfl (fun x hx => absurd hx.1 hcreated) fun _ _ => False.elim⟩
  refine .seq <| .run fun _ => ?_
  rw [exec_quiet rfl]
  refine .seq <| .run fun hsmooth => ?_
  have hclears := hsmooth.clears_removes (x := .sandbox p.sandboxName) rfl
  refine .ite (fun hfailed => ?_) fun _ => .pure ⟨rfl, ?_⟩
  · have hreported : missingSandboxPattern _ := hsmooth.2.2.1 hfailed.1
    exact absurd hreported hfailed.2
  · exact hclears.outcomes.congr (fun x => ⟨And.right, fun hx => ⟨hcreated, hx⟩⟩) fun _ _ => Iff.rfl

lemma rollbackInferenceProvider_smooth {providerName : Option String} :
    Does (Smooth rd) (fun s' result => result = .ok () ∧
        Clears (fun x => ∃ name, providerName = some name ∧ x = .provider name)
          (fun _ _ => False) s s')
      (rollbackInferenceProvider rd r providerName) s := by
  cases providerName with
  | none =>
    refine .pure ⟨rfl, .of_absent rfl rfl ?_ fun _ _ => False.elim⟩
    rintro x ⟨name, hname, -⟩; cases hname
  | some name =>
    refine .seq <| .run fun hsmooth => ?_
    have hclears := hsmooth.clears_removes (x := .provider name) rfl
    refine .ite (fun hfailed => ?_) fun _ => .pure ⟨rfl, hclears.congr (by simp) fun _ _ => Iff.rfl⟩
    have hreported := hsmooth.2.2.1 hfailed.1
    simp only [Command.reportsAbsence, Bool.and_eq_true] at hreported
    exact absurd hreported.2 hfailed.2

theorem actionRollback_clears (hp : s.plans r = some p) {providerName : Option String}
    (hread : readRollbackPlan rd p = .ok providerName) :
    Does (Smooth rd) (fun s' result => result = .ok () ∧ Clears p.Records p.RecordsAttachment s s')
      (actionRollback rd r) s := by
  refine .seq <| .readPlan ?_
  show Does (Smooth rd) _ _ s
  dsimp only
  split
  · next hnone =>
    rw [hnone] at hp; cases hp
  next plan hplan =>
  obtain rfl : plan = p := some.inj (hplan.symm.trans hp)
  refine .seq <| .lift ?_
  rw [hread]
  refine .seq <| (rollbackIdentity_smooth hp).mono ?_
  rintro s1 _ ⟨rfl, h1⟩
  refine .seq <| rollbackSandbox_smooth.mono ?_
  rintro s2 _ ⟨rfl, h2⟩
  refine .seq <| rollbackInferenceProvider_smooth.mono ?_
  rintro s3 _ ⟨rfl, h3⟩
  have hclears : Clears plan.Records plan.RecordsAttachment s s3 := by
    refine ((h1.trans h2).trans h3).congr (fun x => ?_) fun _ _ => by simp
    rw [eq_of_readRollbackPlan hread]
    constructor
    · rintro (h | ⟨name, hname, h⟩ | ⟨receipt, hreceipt, h⟩)
      · exact .inl (.inr ⟨h, rfl⟩)
      · exact .inr ⟨name, by rw [if_pos h, hname], rfl⟩
      · exact .inl (.inl ⟨receipt, hreceipt, h, rfl⟩)
    · rintro ((⟨receipt, hreceipt, h, rfl⟩ | ⟨h, rfl⟩) | ⟨name, hname, rfl⟩)
      · exact .identityProvider receipt hreceipt h
      · exact .sandbox h
      · split at hname
        · next h => exact .inferenceProvider name hname h
        · cases hname
  exact .ask fun _ => ⟨rfl, hclears.plans, hclears.cleared, hclears.kept, hclears.detached,
    hclears.keptAttached, hclears.less⟩

end Smooth

end NemoClaw.Runner
