import NemoClaw.Onboard.CheckpointRecord

/- Whether a provider effect group has to run again (`checkpoint-replay.ts`).

The names of a group's providers are kept as one text, its fingerprint; their bindings
stand in the checkpoint. A run that requires bindings looks the names up and asks the
gateway for each of them.

What is proved:
  1. `observeProviderEffectFingerprint_eq_some` — the observation succeeds exactly when the
     receipt is sound and the required bindings are the recorded ones.
  2. `planEffectGroupReplay_exact` — so the group is skipped exactly then, in whatever order
     the bindings are required or recorded.
  3. `planEffectGroupReplay_duplicate` — a binding required twice makes the group run.
-/
namespace NemoClaw.Onboard

open Js List

inductive EffectGroupReplayAction where
  | skip
  | run
  deriving DecidableEq

inductive EffectGroupReplayReason where
  | notRecorded
  | postconditionFailed
  | fingerprintMismatch
  | alreadyCompleteRevalidated
  deriving DecidableEq

structure EffectGroupReplayDecision where
  group : CheckpointEffectGroupName
  action : EffectGroupReplayAction
  reason : EffectGroupReplayReason
  deriving DecidableEq

def planEffectGroupReplay (checkpoint : OnboardCheckpoint) (group : CheckpointEffectGroupName)
    (observedFingerprint : Option String) : EffectGroupReplayDecision :=
  match checkpoint.effectGroups group with
  | none => ⟨group, .run, .notRecorded⟩
  | some record =>
    match observedFingerprint.filter (· ≠ "") with
    | none => ⟨group, .run, .postconditionFailed⟩
    | some observed =>
      if observed ≠ record.fingerprint then ⟨group, .run, .fingerprintMismatch⟩
      else ⟨group, .skip, .alreadyCompleteRevalidated⟩

/-- `new Map(bindings.map((binding) => [binding.name, binding])).get(name)`: the last one. -/
def bindingByName (bindings : List CheckpointProviderBinding) (name : String) :
    Option CheckpointProviderBinding :=
  bindings.reverse.find? fun b => b.name = name

def providerReady (receiptBindings requiredBindings : List CheckpointProviderBinding)
    (bindingMatches : CheckpointProviderBinding → Bool) (name : String) : Bool :=
  match bindingByName receiptBindings name, bindingByName requiredBindings name with
  | some binding, some required => binding.type == required.type &&
      binding.credentialEnv == required.credentialEnv && bindingMatches binding
  | _, _ => false

def observeProviderEffectFingerprint (checkpoint : OnboardCheckpoint)
    (group : CheckpointEffectGroupName) (requiredBindings : List CheckpointProviderBinding)
    (bindingMatches : CheckpointProviderBinding → Bool) : Option String :=
  (checkpoint.effectGroups group).bind fun receipt =>
    let providerNames := (splitComma receipt.fingerprint).filter (· ≠ "")
    let receiptBindings := checkpoint.bindings.registeredProviders.filter
      fun b => b.name ∈ providerNames
    if receipt.fingerprint = "" ∨ providerNames.length = 0 ∨
        joinComma providerNames ≠ receipt.fingerprint ∨
        providerNames.length ≠ requiredBindings.length then none
    else if ¬ providerNames.Nodup ∨ ¬ (requiredBindings.map (·.name)).Nodup then none
    else if receiptBindings.length ≠ providerNames.length then none
    else if providerNames.all (providerReady receiptBindings requiredBindings bindingMatches) then
      some receipt.fingerprint
    else none

lemma bindingByName_eq_some {bindings : List CheckpointProviderBinding}
    (hnodup : (bindings.map (·.name)).Nodup) {name : String} {b : CheckpointProviderBinding} :
    bindingByName bindings name = some b ↔ b ∈ bindings ∧ b.name = name := by
  unfold bindingByName
  constructor
  · intro hfind
    have hname := List.find?_some hfind
    exact ⟨mem_reverse.mp (mem_of_find?_eq_some hfind), of_decide_eq_true hname⟩
  · intro ⟨hb, hname⟩
    cases hfind : bindings.reverse.find? fun b => b.name = name with
    | none =>
      have hno := List.find?_eq_none.mp hfind b (mem_reverse.mpr hb)
      exact absurd (decide_eq_true hname) hno
    | some c =>
      have hc := mem_reverse.mp (mem_of_find?_eq_some hfind)
      have hcname := List.find?_some hfind
      rw [inj_on_of_nodup_map hnodup hc hb ((of_decide_eq_true hcname).trans hname.symm)]

lemma commaFree_of_mem_splitComma {s name : String} (h : name ∈ splitComma s) :
    CommaFree name := by
  obtain ⟨part, hpart, rfl⟩ := mem_map.mp h
  unfold CommaFree
  rw [String.toList_ofList]
  have hno : ∀ cs : List Char, ∀ l ∈ cs.splitOn ',', ',' ∉ l := by
    intro cs
    induction cs with
    | nil =>
      intro l hl
      rw [splitOn_nil] at hl
      rw [mem_singleton.mp hl]; exact not_mem_nil
    | cons c cs ih =>
      intro l hl
      rw [splitOn_cons_eq_if_modifyHead] at hl
      split at hl
      · rcases mem_cons.mp hl with rfl | hl
        · exact not_mem_nil
        · exact ih l hl
      · next hc =>
        cases hrest : cs.splitOn ',' with
        | nil => exact absurd hrest (splitOn_ne_nil ',' cs)
        | cons first rest =>
        rw [hrest, modifyHead_cons] at hl
        rcases mem_cons.mp hl with rfl | hl
        · have hfirst := ih first (by rw [hrest]; exact mem_cons_self)
          intro hin
          rcases mem_cons.mp hin with heq | hin
          · exact hc (beq_iff_eq.mpr heq.symm)
          · exact hfirst hin
        · exact ih l (by rw [hrest]; exact mem_cons_of_mem first hl)
  exact hno s.toList part hpart

/-- The parts of a fingerprint without the empty ones give it back only if none is empty. -/
lemma fingerprint_clean {fingerprint : String} :
    fingerprint ≠ "" ∧ joinComma ((splitComma fingerprint).filter (· ≠ "")) = fingerprint ↔
      ∀ name ∈ splitComma fingerprint, name ≠ "" := by
  constructor
  · intro ⟨hne, hjoin⟩
    have hparts : (splitComma fingerprint).filter (· ≠ "") ≠ [] := by
      intro hnil
      rw [hnil] at hjoin; exact hne hjoin.symm
    have hsplit := splitComma_joinComma hparts fun p hp =>
      commaFree_of_mem_splitComma (mem_of_mem_filter hp)
    rw [hjoin] at hsplit
    intro name hname
    rw [hsplit] at hname
    have hne := of_mem_filter hname; exact of_decide_eq_true hne
  · intro hclean
    have hfilter : (splitComma fingerprint).filter (· ≠ "") = splitComma fingerprint :=
      filter_eq_self.mpr fun name hname => decide_eq_true (hclean name hname)
    rw [hfilter]
    refine ⟨fun hempty => ?_, joinComma_splitComma fingerprint⟩
    rw [hempty] at hclean; exact hclean "" (by decide) rfl

/-- Bindings whose names have all of some distinct names, and are as many, have them once. -/
lemma names_perm {names : List String} (hnodup : names.Nodup)
    {bindings : List CheckpointProviderBinding} (hall : ∀ n ∈ names, ∃ b ∈ bindings, b.name = n)
    (hlength : bindings.length = names.length) : (bindings.map (·.name)).Perm names := by
  have hsubset : names ⊆ bindings.map (·.name) := by
    intro n hn
    obtain ⟨b, hb, rfl⟩ := hall n hn; exact mem_map_of_mem hb
  refine ((subperm_of_subset hnodup hsubset).perm_of_length_le ?_).symm
  rw [length_map, hlength]

/-! ## What is recorded for a group -/

structure RecordedFor (checkpoint : OnboardCheckpoint) (group : CheckpointEffectGroupName)
    (recorded : List CheckpointProviderBinding) : Prop where
  receipt : ∃ receipt, checkpoint.effectGroups group = some receipt ∧
    (∀ name ∈ splitComma receipt.fingerprint, name ≠ "") ∧
    (splitComma receipt.fingerprint).Nodup ∧
    (recorded.map (·.name)).Perm (splitComma receipt.fingerprint) ∧
    recorded = checkpoint.bindings.registeredProviders.filter
      fun b => b.name ∈ splitComma receipt.fingerprint

def RequiresExactly (required recorded : List CheckpointProviderBinding) : Prop :=
  required.Nodup ∧ ∀ b, b ∈ required ↔ b ∈ recorded

section Exact

variable {checkpoint : OnboardCheckpoint} {group : CheckpointEffectGroupName}
  {required : List CheckpointProviderBinding}
  {bindingMatches : CheckpointProviderBinding → Bool}

lemma RecordedFor.nodup {recorded : List CheckpointProviderBinding}
    (h : RecordedFor checkpoint group recorded) : (recorded.map (·.name)).Nodup := by
  obtain ⟨_, -, -, hnames, hperm, -⟩ := h.receipt
  exact hperm.nodup_iff.mpr hnames

lemma binding_ext {b c : CheckpointProviderBinding} (hname : b.name = c.name)
    (htype : b.type = c.type) (henv : b.credentialEnv = c.credentialEnv) : b = c := by
  cases b
  cases c
  subst hname
  subst htype
  subst henv; rfl

lemma providerReady_iff {receiptBindings : List CheckpointProviderBinding}
    (hreceipt : (receiptBindings.map (·.name)).Nodup)
    (hrequired : (required.map (·.name)).Nodup) {name : String} :
    providerReady receiptBindings required bindingMatches name ↔
      ∃ b, b ∈ receiptBindings ∧ b ∈ required ∧ b.name = name ∧ bindingMatches b := by
  unfold providerReady
  constructor
  · intro h
    split at h
    · next b r hb hr =>
      obtain ⟨hb, hbname⟩ := (bindingByName_eq_some hreceipt).mp hb
      obtain ⟨hr, hrname⟩ := (bindingByName_eq_some hrequired).mp hr
      rw [Bool.and_eq_true, Bool.and_eq_true, beq_iff_eq, beq_iff_eq] at h
      obtain ⟨⟨htype, henv⟩, hmatch⟩ := h
      have heq := binding_ext (hbname.trans hrname.symm) htype henv
      exact ⟨b, hb, heq ▸ hr, hbname, hmatch⟩
    · cases h
  · intro ⟨b, hb, hr, hname, hmatch⟩
    rw [(bindingByName_eq_some hreceipt).mpr ⟨hb, hname⟩,
      (bindingByName_eq_some hrequired).mpr ⟨hr, hname⟩]
    simp [hmatch]

lemma observe_eq_fingerprint {observed : String}
    (h : observeProviderEffectFingerprint checkpoint group required bindingMatches =
      some observed) :
    ∃ receipt, checkpoint.effectGroups group = some receipt ∧ observed = receipt.fingerprint ∧
      observed ≠ "" := by
  obtain ⟨receipt, hreceipt, h⟩ := Option.bind_eq_some_iff.mp h
  dsimp only at h
  split at h
  · cases h
  next hfirst =>
  split at h
  · cases h
  split at h
  · cases h
  split at h
  · cases h
    rw [not_or] at hfirst; exact ⟨receipt, hreceipt, rfl, hfirst.1⟩
  · cases h

theorem observeProviderEffectFingerprint_eq_some :
    (∃ observed, observeProviderEffectFingerprint checkpoint group required bindingMatches =
      some observed) ↔
    ∃ recorded, RecordedFor checkpoint group recorded ∧ RequiresExactly required recorded ∧
      ∀ b ∈ recorded, bindingMatches b := by
  constructor
  · intro ⟨observed, h⟩
    obtain ⟨receipt, hreceipt, h⟩ := Option.bind_eq_some_iff.mp h
    dsimp only at h
    split at h
    · cases h
    next hfirst =>
    split at h
    · cases h
    next hnodup =>
    split at h
    · cases h
    next hcount =>
    split at h
    · next hready =>
      rw [not_or, not_or, not_or, not_not, not_not] at hfirst
      obtain ⟨hempty, -, hjoin, hlength⟩ := hfirst
      have hclean := fingerprint_clean.mp ⟨hempty, hjoin⟩
      have hfilter : (splitComma receipt.fingerprint).filter (· ≠ "") =
          splitComma receipt.fingerprint :=
        filter_eq_self.mpr fun name hname => decide_eq_true (hclean name hname)
      rw [hfilter] at hlength hnodup hcount hready
      rw [not_or, not_not, not_not] at hnodup
      rw [not_not] at hcount
      generalize hrecorded : (checkpoint.bindings.registeredProviders.filter
        fun b => b.name ∈ splitComma receipt.fingerprint) = recorded at hcount hready
      have hall : ∀ n ∈ splitComma receipt.fingerprint, ∃ b ∈ recorded, b.name = n := by
        intro n hn
        have hn := all_eq_true.mp hready n hn
        unfold providerReady at hn
        split at hn
        · next b _ hb _ =>
          have hname := List.find?_some hb
          exact ⟨b, mem_reverse.mp (mem_of_find?_eq_some hb),
            of_decide_eq_true hname⟩
        · cases hn
      have hperm := names_perm hnodup.1 hall hcount
      have hnames := hperm.nodup_iff.mpr hnodup.1
      have hmatching : ∀ b ∈ recorded, b ∈ required ∧ bindingMatches b := by
        intro b hb
        have hin := hperm.mem_iff.mp (mem_map_of_mem hb)
        obtain ⟨c, hc, hreq, hname, hmatch⟩ :=
          (providerReady_iff hnames hnodup.2).mp (all_eq_true.mp hready _ hin)
        rw [← inj_on_of_nodup_map hnames hc hb hname]; exact ⟨hreq, hmatch⟩
      have hback : required.Perm recorded := by
        have hsub : recorded ⊆ required := fun b hb => (hmatching b hb).1
        refine ((subperm_of_subset (Nodup.of_map _ hnames)
          hsub).perm_of_length_le ?_).symm
        rw [hcount, hlength]
      exact ⟨recorded, ⟨receipt, hreceipt, hclean, hnodup.1, hperm, hrecorded.symm⟩,
        ⟨Nodup.of_map _ hnodup.2, fun b => hback.mem_iff⟩,
        fun b hb => (hmatching b hb).2⟩
    · cases h
  · intro ⟨recorded, hrecorded, hrequires, hmatch⟩
    have hnames := hrecorded.nodup
    obtain ⟨receipt, hreceipt, hclean, hnodup, hperm, heq⟩ := hrecorded.receipt
    refine ⟨receipt.fingerprint, ?_⟩
    have hback : required.Perm recorded :=
      (perm_ext_iff_of_nodup hrequires.1 (Nodup.of_map _ hnames)).mpr hrequires.2
    have hrequired : (required.map (·.name)).Nodup := (hback.map _).nodup_iff.mpr hnames
    obtain ⟨hempty, hjoin⟩ := fingerprint_clean.mpr hclean
    have hfilter : (splitComma receipt.fingerprint).filter (· ≠ "") =
        splitComma receipt.fingerprint :=
      filter_eq_self.mpr fun name hname => decide_eq_true (hclean name hname)
    have hlength : (splitComma receipt.fingerprint).length = required.length := by
      rw [← hperm.length_eq, length_map, hback.length_eq]
    unfold observeProviderEffectFingerprint
    rw [hreceipt, Option.bind_some]
    dsimp only
    rw [hfilter] at hjoin ⊢
    rw [← heq, if_neg, if_neg, if_neg, if_pos]
    · rw [all_eq_true]
      intro n hn
      obtain ⟨b, hb, rfl⟩ := mem_map.mp (hperm.mem_iff.mpr hn)
      exact (providerReady_iff hnames hrequired).mpr
        ⟨b, hb, (hrequires.2 b).mpr hb, rfl, hmatch b hb⟩
    · rw [not_not, ← hperm.length_eq, length_map]
    · rw [not_or, not_not, not_not]; exact ⟨hnodup, hrequired⟩
    · rw [not_or, not_or, not_or, not_not, not_not]
      refine ⟨hempty, ?_, hjoin, hlength⟩
      intro hzero
      apply hempty
      rw [← joinComma_splitComma receipt.fingerprint, length_eq_zero_iff.mp hzero]; rfl

/-- What is planned for what is observed. -/
def replayAction (checkpoint : OnboardCheckpoint) (group : CheckpointEffectGroupName)
    (required : List CheckpointProviderBinding)
    (bindingMatches : CheckpointProviderBinding → Bool) : EffectGroupReplayAction :=
  (planEffectGroupReplay checkpoint group
    (observeProviderEffectFingerprint checkpoint group required bindingMatches)).action

lemma replayAction_eq_skip :
    replayAction checkpoint group required bindingMatches = .skip ↔
      ∃ recorded, RecordedFor checkpoint group recorded ∧ RequiresExactly required recorded ∧
        ∀ b ∈ recorded, bindingMatches b := by
  rw [← observeProviderEffectFingerprint_eq_some]
  unfold replayAction planEffectGroupReplay
  cases hobserved : observeProviderEffectFingerprint checkpoint group required bindingMatches with
  | none =>
    constructor
    · intro h
      split at h <;> cases h
    · intro h
      obtain ⟨_, heq⟩ := h; cases heq
  | some observed =>
    obtain ⟨receipt, hreceipt, heq, hne⟩ := observe_eq_fingerprint hobserved
    rw [hreceipt, Option.filter_some, if_pos (decide_eq_true hne)]
    dsimp only
    rw [if_neg (not_not.mpr heq)]; exact ⟨fun _ => ⟨observed, rfl⟩, fun _ => rfl⟩

structure Reordered (checkpoint checkpoint' : OnboardCheckpoint)
    (group : CheckpointEffectGroupName) : Prop where
  providers : checkpoint'.bindings.registeredProviders.Perm
    checkpoint.bindings.registeredProviders
  receipt : ∃ receipt receipt', checkpoint.effectGroups group = some receipt ∧
    checkpoint'.effectGroups group = some receipt' ∧
    (splitComma receipt'.fingerprint).Perm (splitComma receipt.fingerprint)

variable {checkpoint' : OnboardCheckpoint}

lemma Reordered.symm (h : Reordered checkpoint checkpoint' group) :
    Reordered checkpoint' checkpoint group := by
  obtain ⟨receipt, receipt', hreceipt, hreceipt', hperm⟩ := h.receipt
  exact ⟨h.providers.symm, receipt', receipt, hreceipt', hreceipt, hperm.symm⟩

lemma RecordedFor.reordered {recorded : List CheckpointProviderBinding}
    (h : RecordedFor checkpoint group recorded) (horder : Reordered checkpoint checkpoint' group) :
    ∃ recorded', RecordedFor checkpoint' group recorded' ∧ recorded'.Perm recorded := by
  obtain ⟨receipt, hreceipt, hclean, hnodup, hperm, heq⟩ := h.receipt
  obtain ⟨r, receipt', hr, hreceipt', hnames⟩ := horder.receipt
  rw [hreceipt] at hr
  cases hr
  have hsame : (fun b : CheckpointProviderBinding =>
      decide (b.name ∈ splitComma receipt'.fingerprint)) =
      fun b => decide (b.name ∈ splitComma receipt.fingerprint) := by
    funext b
    rw [decide_eq_decide, hnames.mem_iff]
  have hrecorded : (checkpoint'.bindings.registeredProviders.filter
      fun b => b.name ∈ splitComma receipt'.fingerprint).Perm recorded := by
    rw [hsame, heq]; exact horder.providers.filter _
  refine ⟨_, ⟨receipt', hreceipt', ?_, ?_, ?_, rfl⟩, hrecorded⟩
  · intro name hname; exact hclean name (hnames.mem_iff.mp hname)
  · exact hnames.nodup_iff.mpr hnodup
  · exact ((hrecorded.map _).trans hperm).trans hnames.symm

lemma replayAction_reordered (horder : Reordered checkpoint checkpoint' group)
    (hskip : replayAction checkpoint group required bindingMatches = .skip) :
    replayAction checkpoint' group required bindingMatches = .skip := by
  obtain ⟨recorded, hrecorded, hrequires, hmatch⟩ := replayAction_eq_skip.mp hskip
  obtain ⟨recorded', hrecorded', hperm⟩ := hrecorded.reordered horder
  refine replayAction_eq_skip.mpr ⟨recorded', hrecorded', ⟨hrequires.1, fun b => ?_⟩,
    fun b hb => hmatch b (hperm.mem_iff.mp hb)⟩
  rw [hrequires.2, hperm.mem_iff]

end Exact

/-- A provider group is skipped if no binding is required twice, the required bindings are, as
a set, those recorded for the group, and the gateway holds each of them, and only then; no
order matters. -/
theorem planEffectGroupReplay_exact (checkpoint : OnboardCheckpoint)
    (group : CheckpointEffectGroupName) (required : List CheckpointProviderBinding)
    (bindingMatches : CheckpointProviderBinding → Bool) :
    (replayAction checkpoint group required bindingMatches = .skip ↔
      ∃ recorded, RecordedFor checkpoint group recorded ∧ RequiresExactly required recorded ∧
        ∀ b ∈ recorded, bindingMatches b) ∧
    (∀ required' : List CheckpointProviderBinding, required'.Perm required →
      replayAction checkpoint group required' bindingMatches =
        replayAction checkpoint group required bindingMatches) ∧
    ∀ checkpoint', Reordered checkpoint checkpoint' group →
      replayAction checkpoint' group required bindingMatches =
        replayAction checkpoint group required bindingMatches := by
  have hequal : ∀ a a' : EffectGroupReplayAction, (a = .skip ↔ a' = .skip) → a = a' := by
    intro a a' h
    cases a with
    | skip => exact (h.mp rfl).symm
    | run =>
      cases a' with
      | skip => exact h.mpr rfl
      | run => rfl
  refine ⟨replayAction_eq_skip, ?_, ?_⟩
  · intro required' hperm
    apply hequal
    rw [replayAction_eq_skip, replayAction_eq_skip]
    refine exists_congr fun recorded => and_congr_right fun _ => and_congr_left fun _ => ?_
    unfold RequiresExactly
    rw [hperm.nodup_iff]
    exact and_congr_right fun _ => forall_congr' fun b => by rw [hperm.mem_iff]
  · intro checkpoint' horder
    apply hequal; exact ⟨replayAction_reordered horder.symm, replayAction_reordered horder⟩

def braveBinding : CheckpointProviderBinding := ⟨"brave-search", "generic", "BRAVE_API_KEY"⟩

/-- A checkpoint that has recorded one web search provider. -/
def braveCheckpoint : OnboardCheckpoint :=
  { deriveCheckpointFromSession plainEnv (createSession plainEnv (plainAmbient "s") {}) with
    effectGroups := fun g => if g = .webSearchProvider then
      some ⟨newYear.val, "brave-search"⟩ else none
    bindings := ⟨["BRAVE_API_KEY"], [braveBinding]⟩ }

/-- The same set of bindings, one of them required twice, is not recognised. -/
theorem planEffectGroupReplay_duplicate :
    (∀ b, b ∈ [braveBinding, braveBinding] ↔ b ∈ braveCheckpoint.bindings.registeredProviders) ∧
      replayAction braveCheckpoint .webSearchProvider [braveBinding] (fun _ => true) = .skip ∧
      replayAction braveCheckpoint .webSearchProvider [braveBinding, braveBinding]
        (fun _ => true) = .run := by
  refine ⟨fun b => ?_, by decide +kernel, by decide +kernel⟩
  show b ∈ [braveBinding, braveBinding] ↔ b ∈ [braveBinding]; simp

end NemoClaw.Onboard
