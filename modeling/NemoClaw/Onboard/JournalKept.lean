import NemoClaw.Onboard.RecreateJournal
import NemoClaw.Onboard.SessionUpdate

/- A recreate journal under the checkpoint's recorders.

The recorders do not check what they record; the save does, and drops the whole
checkpoint, journal included, when any part of it does not read back. So whether
a journal survives depends on every value recorded beside it.

What is proved:
  1. `RecordOp.perform_journal` — a recorder given values that read back leaves the
     journal alone.
  2. `record_keeps` — so recording, saving and reloading keeps the journal, and
     with it every run of such recordings.
  3. A recorded identity of another sandbox loses the journal on the next save.

Correspondence (onboard/checkpoint-record.ts, state/onboard-session.ts ↔ Lean):
`RecordOp` is the choice of a recorder and its arguments; each is performed inside
`updateSession`.
-/
namespace NemoClaw.Onboard

open Js Js.Json List

/-- A call of one of the checkpoint's recorders. -/
inductive RecordOp where
  | sandboxIdentity (name agent : String)
  | effectGroup (group : CheckpointEffectGroupName) (fingerprint : String)
  | webSearch (config : Option WebSearchConfig)
  | messaging (plan : Option Json)
  | resourceProfile (profile : Option CheckpointResourceProfile)
  | providerEffectGroup (group : ProviderEffectGroupName)
    (registeredProviders : List CheckpointProviderBinding)
  | providerEffectGroups (webSearch messaging : List CheckpointProviderBinding)

namespace RecordOp

def perform (env : Env) (now : IsoTimestamp) : RecordOp → Call Session Unit
  | sandboxIdentity name agent =>
    modify fun session => recordCheckpointSandboxIdentity env session name agent now
  | effectGroup group fingerprint =>
    modify fun session => recordCheckpointEffectGroup env session group fingerprint now
  | .webSearch config => modify fun session => recordCheckpointWebSearch env session config now
  | .messaging plan => modify fun session => recordCheckpointMessaging env session plan now
  | resourceProfile profile =>
    modify fun session => recordCheckpointResourceProfile env session profile now
  | providerEffectGroup group registeredProviders =>
    recordCheckpointProviderEffectGroup env group registeredProviders now
  | providerEffectGroups search channels =>
    recordCheckpointProviderEffectGroups env search channels now

/-- What is recorded reads back beside the journal of `t`. -/
def ReadsBackBeside (t : CheckpointSandboxRecreateTransaction) : RecordOp → Prop
  | sandboxIdentity name agent => name = t.sandboxName ∧ agent ≠ ""
  | effectGroup _ fingerprint => fingerprint ≠ ""
  | .webSearch config => ∀ c, config = some c → c.fetchEnabled
  | .messaging _ => True
  | resourceProfile _ => True
  | providerEffectGroup _ _ => True
  | providerEffectGroups _ _ => True

end RecordOp

/-! ## Recorders and well-formedness -/

lemma stampCheckpoint_wellFormed {urls : UrlApi} (session : Session) (now : IsoTimestamp)
    {c : OnboardCheckpoint} (h : c.WellFormed urls) :
    (stampCheckpoint session now c).WellFormed urls :=
  { h with updatedAt := now.property }

lemma ValidProviderBindings.wellFormed {bindings : List CheckpointProviderBinding}
    (h : ValidProviderBindings bindings) : ∀ b ∈ bindings, b.WellFormed := by
  intro b hb
  obtain ⟨hname, htype, henv⟩ := h.1 b hb
  exact ⟨isCleanText_ne_empty hname, isCleanText_ne_empty htype, isCleanText_ne_empty henv⟩

lemma providerReceipt_wellFormed {providers : List CheckpointProviderBinding}
    {now : IsoTimestamp} (h : ∀ b ∈ providers, b.WellFormed) {r : CheckpointEffectGroupRecord}
    (hr : providerReceipt providers now = some r) : r.WellFormed := by
  unfold providerReceipt at hr
  split at hr
  · cases hr
  next hne =>
  cases hr
  refine ⟨now.property, joinComma_ne_empty (by simpa using hne) fun name hname => ?_⟩
  obtain ⟨b, hb, rfl⟩ := mem_map.mp hname; exact (h b hb).1

lemma updated_wellFormed
    {groups : CheckpointEffectGroupName → Option CheckpointEffectGroupRecord}
    {g : CheckpointEffectGroupName} {receipt : Option CheckpointEffectGroupRecord}
    (hgroups : ∀ g r, groups g = some r → r.WellFormed)
    (hreceipt : ∀ r, receipt = some r → r.WellFormed) :
    ∀ g' r, Function.update groups g receipt g' = some r → r.WellFormed := by
  intro g' r hr
  by_cases hg : g' = g
  · subst hg
    rw [Function.update_self] at hr; exact hreceipt r hr
  · rw [Function.update_of_ne hg] at hr; exact hgroups g' r hr

variable {t : CheckpointSandboxRecreateTransaction} {env : Env} {store : SessionStore}

/-- The journal's rule asks only for the name of the selected sandbox. -/
lemma recreateMatches_identity {c : OnboardCheckpoint} {name agent : String}
    (h : recreateMatches c t) (hname : name = t.sandboxName) :
    recreateMatches { c with sandboxIdentity := .selected { name, agent } } t := by
  unfold recreateMatches at h ⊢
  split at h
  · next identity authority hidentity hauthority =>
    simp only [Bool.and_eq_true] at h; simp [hauthority, hname, h.1.2, h.2]
  · cases h

section Recorders

variable {env : Env} {t : CheckpointSandboxRecreateTransaction} {base next : OnboardCheckpoint}
variable {now : IsoTimestamp}

/-- The checkpoint reads back and holds the journal `t`. -/
def JournalBeside (env : Env) (t : CheckpointSandboxRecreateTransaction)
    (c : OnboardCheckpoint) : Prop :=
  c.WellFormed env.urls ∧ c.sandboxRecreate = some t

lemma journalBeside_checkpoint {s : Session} (h : JournalBeside env t (baseCheckpoint env s)) :
    ∃ c, s.checkpoint = some c ∧ c.WellFormed env.urls ∧ c.sandboxRecreate = some t := by
  unfold baseCheckpoint at h
  cases hc : s.checkpoint with
  | some c => rw [hc] at h; exact ⟨c, rfl, h.1, h.2⟩
  | none => rw [hc] at h; cases h.2

/-- The two provider recorders change the receipts and the bindings only, and what they put
there reads back. -/
inductive LedgerChange (base : OnboardCheckpoint) : OnboardCheckpoint → Prop where
  | mk (groups : CheckpointEffectGroupName → Option CheckpointEffectGroupRecord)
    (bindings : CheckpointBindings)
    (hgroups : (∀ g r, base.effectGroups g = some r → r.WellFormed) →
      ∀ g r, groups g = some r → r.WellFormed)
    (hbindings : ∀ b ∈ bindings.registeredProviders, b.WellFormed) :
    LedgerChange base { base with effectGroups := groups, bindings := bindings }

lemma LedgerChange.wellFormed {urls : UrlApi} (h : LedgerChange base next)
    (hbase : base.WellFormed urls) : next.WellFormed urls := by
  obtain ⟨groups, bindings, hgroups, hbindings⟩ := h
  exact { hbase with effectGroups := hgroups hbase.effectGroups, bindings := hbindings }

lemma LedgerChange.sandboxRecreate (h : LedgerChange base next) :
    next.sandboxRecreate = base.sandboxRecreate := by
  obtain ⟨groups, bindings, hgroups, hbindings⟩ := h; rfl

lemma withProviderEffectGroups_change {webSearch messaging : List CheckpointProviderBinding}
    (h : withProviderEffectGroups base webSearch messaging now = .ok next) :
    LedgerChange base next := by
  obtain ⟨hvalid, h⟩ := assertValidProviderBindings_bind_inv h
  cases h
  have hall := hvalid.wellFormed
  refine .mk _ _ ?_ hall
  intro hgroups g r hr
  cases g with
  | webSearchProvider =>
    exact providerReceipt_wellFormed (fun b hb => hall b (mem_append_left _ hb)) hr
  | messagingProviders =>
    exact providerReceipt_wellFormed (fun b hb => hall b (mem_append_right _ hb)) hr
  | _ => exact hgroups _ r hr

lemma withProviderEffectGroup_change {group : ProviderEffectGroupName}
    {providers : List CheckpointProviderBinding}
    (h : withProviderEffectGroup base group providers now = .ok next) :
    LedgerChange base next := by
  obtain ⟨hvalid, h⟩ := assertValidProviderBindings_bind_inv h
  obtain ⟨-, h⟩ := assertValidProviderBindings_bind_inv h
  obtain ⟨previous, -, h⟩ := except_bind_inv h
  obtain ⟨other, -, h⟩ := except_bind_inv h
  obtain ⟨-, h⟩ := require_bind_inv h
  obtain ⟨-, h⟩ := require_bind_inv h
  obtain ⟨-, h⟩ := require_bind_inv h
  obtain ⟨hnext, h⟩ := assertValidProviderBindings_bind_inv h
  cases h
  refine .mk _ _ ?_ hnext.wellFormed
  intro hgroups
  exact updated_wellFormed hgroups fun r hr =>
    providerReceipt_wellFormed hvalid.wellFormed hr

lemma LedgerChange.journal (h : LedgerChange base next) (hbase : JournalBeside env t base) :
    JournalBeside env t next :=
  ⟨h.wellFormed hbase.1, h.sandboxRecreate.trans hbase.2⟩

lemma RecordOp.perform_sandboxRecreate (op : RecordOp) (s : Session) :
    (baseCheckpoint env ((op.perform env now).exec s).2).sandboxRecreate =
      (baseCheckpoint env s).sandboxRecreate := by
  cases op with
  | providerEffectGroup group providers =>
    refine recordWith_preserves
      (I := fun c => c.sandboxRecreate = (baseCheckpoint env s).sandboxRecreate)
      (fun _ _ hc => hc) (fun c c' hc h => ?_) s rfl
    exact (withProviderEffectGroup_change h).sandboxRecreate.trans hc
  | providerEffectGroups search channels =>
    refine recordWith_preserves
      (I := fun c => c.sandboxRecreate = (baseCheckpoint env s).sandboxRecreate)
      (fun _ _ hc => hc) (fun c c' hc h => ?_) s rfl
    exact (withProviderEffectGroups_change h).sandboxRecreate.trans hc
  | _ => rfl

lemma webSearchDecision_all {config : Option WebSearchConfig}
    (h : ∀ c, config = some c → c.fetchEnabled) :
    (match config with
      | some config => CheckpointDecision.selected config
      | none => .declined).All WebSearchConfig.WellFormed := by
  cases config with
  | none => trivial
  | some c => exact h c rfl

theorem RecordOp.perform_journal {op : RecordOp} (hop : op.ReadsBackBeside t) (s : Session)
    (hs : JournalBeside env t (baseCheckpoint env s)) :
    JournalBeside env t (baseCheckpoint env ((op.perform env now).exec s).2) := by
  have hstamp : ∀ (session : Session) c, JournalBeside env t c →
      JournalBeside env t (stampCheckpoint session now c) :=
    fun session c hc => ⟨stampCheckpoint_wellFormed session now hc.1, hc.2⟩
  obtain ⟨hwf, hjournal⟩ := hstamp s _ hs
  cases op with
  | sandboxIdentity name agent =>
    obtain ⟨hname, hagent⟩ := hop
    obtain ⟨ht, hmatch⟩ := hwf.journal t hjournal
    refine ⟨{ hwf with sandboxIdentity := ⟨hagent, hname ▸ ht.sandboxName⟩, journal := ?_ },
      hjournal⟩
    intro u hu
    cases hjournal.symm.trans hu; exact ⟨ht, recreateMatches_identity hmatch hname⟩
  | effectGroup group fingerprint =>
    refine ⟨{ hwf with effectGroups := updated_wellFormed hwf.effectGroups ?_ }, hjournal⟩
    intro r hr
    cases hr; exact ⟨now.property, hop⟩
  | webSearch config =>
    exact ⟨{ hwf with webSearch := webSearchDecision_all hop }, hjournal⟩
  | messaging plan => exact ⟨{ hwf with }, hjournal⟩
  | resourceProfile profile => exact ⟨{ hwf with }, hjournal⟩
  | providerEffectGroup group providers =>
    exact recordWith_preserves hstamp
      (fun c c' hc h => (withProviderEffectGroup_change h).journal hc) s hs
  | providerEffectGroups search channels =>
    exact recordWith_preserves hstamp
      (fun c c' hc h => (withProviderEffectGroups_change h).journal hc) s hs

end Recorders

lemma RecordOp.perform_core (env : Env) (now : IsoTimestamp) (op : RecordOp) (s : Session) :
    ((op.perform env now).exec s).2.core = s.core := by
  have hrecord : ∀ update, ((recordWith env now update).exec s).2.core = s.core := by
    intro update
    unfold recordWith
    rw [Call.exec_bind_ok (Call.exec_get s)]
    cases update (baseCheckpoint env s) <;> rfl
  cases op with
  | providerEffectGroup group providers => exact hrecord _
  | providerEffectGroups search channels => exact hrecord _
  | _ => rfl

/-- The file loads, and its session holds the journal `t`. -/
def StoresJournal (env : Env) (t : CheckpointSandboxRecreateTransaction) (amb : Ambient)
    (store : SessionStore) : Prop :=
  ∃ s c, loadSession env amb store = some s ∧ s.checkpoint = some c ∧
    c.sandboxRecreate = some t

/-- One recording, saved; the inputs of its moment come with it. -/
def RecordOp.update (env : Env) (step : Ambient × IsoTimestamp × RecordOp) :
    Call SessionStore Session :=
  updateSession env step.1 (step.2.2.perform env step.2.1)

lemma load_after_record {amb b : Ambient} {now : IsoTimestamp} {op : RecordOp} {s next : Session}
    (hload : loadSession env (amb.part 3) store = some s)
    (hexec : (op.perform env now).exec s = (.ok (), next)) :
    ∃ s', loadSession env b ((RecordOp.update env (amb, now, op)).exec store).2 = some s' ∧
      s'.checkpoint = rereadCheckpoint env (rereadCheckpoint env next.checkpoint) := by
  have hcore := op.perform_core env now s
  rw [hexec] at hcore
  have hadmissible : next.core.Admissible := hcore ▸ normalizeSession_admissible hload
  obtain ⟨hsavedCore, hsaved⟩ := sessionToSave_admissible env amb hadmissible
  obtain ⟨s', hload', -, hloaded⟩ := loadSession_write env b store
    (s := sessionToSave env amb next) (hsavedCore ▸ hadmissible)
  refine ⟨s', ?_, hloaded.trans (congrArg _ hsaved)⟩
  show loadSession env b ((updateSession env amb (op.perform env now)).exec store).2 = some s'
  rw [exec_updateSession hload, hexec]; exact hload'

theorem record_keeps {a : Ambient} (step : Ambient × IsoTimestamp × RecordOp)
    (hop : step.2.2.ReadsBackBeside t) (h : StoresJournal env t a store) (b : Ambient) :
    StoresJournal env t b ((RecordOp.update env step).exec store).2 := by
  obtain ⟨amb, now, op⟩ := step
  obtain ⟨s0, c0, hload0, hc0, hjournal0⟩ := h
  obtain ⟨s, hload, hsame⟩ := normalizeSession_reread (amb.part 3) hload0
  have hc : s.checkpoint = some c0 := hsame.trans hc0
  have hbase : baseCheckpoint env s = c0 := by
    unfold baseCheckpoint
    rw [hc]; rfl
  have hbeside : JournalBeside env t (baseCheckpoint env s) :=
    hbase ▸ ⟨normalizeSession_checkpoint hload hc, hjournal0⟩
  have hnext := @RecordOp.perform_journal env t now op hop s hbeside
  cases hexec : (op.perform env now).exec s with
  | mk r next =>
    rw [hexec] at hnext
    cases r with
    | error e =>
      obtain ⟨s', hload', hsame'⟩ := normalizeSession_reread b hload0
      refine ⟨s', c0, ?_, hsame'.trans hc0, hjournal0⟩
      show loadSession env b ((updateSession env amb (op.perform env now)).exec store).2 = some s'
      rw [exec_updateSession hload, hexec]; exact hload'
    | ok u =>
      obtain ⟨c, hcheckpoint, hwf, hjournal⟩ := journalBeside_checkpoint hnext
      obtain ⟨hreread, hcanonical⟩ := rereadCheckpoint_wellFormed hwf
      obtain ⟨s', hload', hloaded⟩ := load_after_record (b := b) hload hexec
      refine ⟨s', c.canonical.canonical, hload', ?_, hjournal⟩
      rw [hloaded, hcheckpoint, hreread]; exact (rereadCheckpoint_wellFormed hcanonical).1

/-! ## Losing the journal -/

def LacksJournal (env : Env) (amb : Ambient) (store : SessionStore) : Prop :=
  ∃ s, loadSession env amb store = some s ∧ s.checkpoint.bind (·.sandboxRecreate) = none

lemma LacksJournal.not_stores {amb : Ambient} (h : LacksJournal env amb store) :
    ¬ StoresJournal env t amb store := by
  intro hstores
  obtain ⟨s, hload, hnone⟩ := h
  obtain ⟨s', c, hload', hc, hjournal⟩ := hstores
  cases hload.symm.trans hload'
  rw [hc, Option.bind_some, hjournal] at hnone; cases hnone

lemma baseCheckpoint_sandboxRecreate (env : Env) (s : Session) :
    (baseCheckpoint env s).sandboxRecreate = s.checkpoint.bind (·.sandboxRecreate) := by
  unfold baseCheckpoint; cases s.checkpoint <;> rfl

lemma rereadCheckpoint_unjournaled {c : Option OnboardCheckpoint}
    (h : c.bind (·.sandboxRecreate) = none) :
    (rereadCheckpoint env c).bind (·.sandboxRecreate) = none := by
  cases c with
  | none => rfl
  | some c =>
    cases hreread : rereadCheckpoint env (some c) with
    | none => rfl
    | some c' => exact (parseStoredCheckpoint_serialize_inv hreread).unjournaled h

lemma record_lacks {a : Ambient} (step : Ambient × IsoTimestamp × RecordOp)
    (h : LacksJournal env a store) (b : Ambient) :
    LacksJournal env b ((RecordOp.update env step).exec store).2 := by
  obtain ⟨amb, now, op⟩ := step
  obtain ⟨s0, hload0, hnone0⟩ := h
  obtain ⟨s, hload, hsame⟩ := normalizeSession_reread (amb.part 3) hload0
  have hnext := @RecordOp.perform_sandboxRecreate env now op s
  rw [baseCheckpoint_sandboxRecreate, baseCheckpoint_sandboxRecreate, hsame, hnone0] at hnext
  cases hexec : (op.perform env now).exec s with
  | mk r next =>
    rw [hexec] at hnext
    cases r with
    | error e =>
      obtain ⟨s', hload', hsame'⟩ := normalizeSession_reread b hload0
      refine ⟨s', ?_, hsame' ▸ hnone0⟩
      show loadSession env b ((updateSession env amb (op.perform env now)).exec store).2 = some s'
      rw [exec_updateSession hload, hexec]; exact hload'
    | ok u =>
      obtain ⟨s', hload', hloaded⟩ := load_after_record (b := b) hload hexec
      refine ⟨s', hload', ?_⟩
      rw [hloaded]; exact rereadCheckpoint_unjournaled (rereadCheckpoint_unjournaled hnext)

lemma readsBackBeside_of_reread {now : IsoTimestamp} {op : RecordOp} {s : Session}
    {c c' : OnboardCheckpoint} (hs : JournalBeside env t (baseCheckpoint env s))
    (hc : ((op.perform env now).exec s).2.checkpoint = some c)
    (hreread : rereadCheckpoint env (some c) = some c') : op.ReadsBackBeside t := by
  have hback := parseStoredCheckpoint_serialize_inv hreread
  have ht := (hs.1.journal t hs.2).1
  cases op with
  | sandboxIdentity name agent =>
    cases hc
    obtain ⟨agent', hselected⟩ := hback.named t hs.2 ht
    obtain ⟨hname, -⟩ := CheckpointSandboxIdentity.mk.inj (CheckpointDecision.selected.inj hselected)
    exact ⟨hname, hback.sandboxIdentity.1⟩
  | effectGroup group fingerprint =>
    cases hc; exact (hback.effectGroups group _ (Function.update_self ..)).2
  | webSearch config =>
    cases hc
    intro w hw
    subst hw; exact hback.webSearch
  | _ => trivial

lemma record_spoils {a : Ambient} (step : Ambient × IsoTimestamp × RecordOp)
    (hop : ¬ step.2.2.ReadsBackBeside t) (h : StoresJournal env t a store) (b : Ambient) :
    LacksJournal env b ((RecordOp.update env step).exec store).2 := by
  obtain ⟨amb, now, op⟩ := step
  obtain ⟨s0, c0, hload0, hc0, hjournal0⟩ := h
  obtain ⟨s, hload, hsame⟩ := normalizeSession_reread (amb.part 3) hload0
  have hc : s.checkpoint = some c0 := hsame.trans hc0
  have hbeside : JournalBeside env t (baseCheckpoint env s) := by
    unfold baseCheckpoint
    rw [hc]; exact ⟨normalizeSession_checkpoint hload hc, hjournal0⟩
  have hexec : ∃ next c, (op.perform env now).exec s = (.ok (), next) ∧
      next.checkpoint = some c := by
    cases op with
    | sandboxIdentity | effectGroup | webSearch | messaging | resourceProfile =>
      exact ⟨_, _, rfl, rfl⟩
    | providerEffectGroup | providerEffectGroups => exact absurd trivial hop
  obtain ⟨next, c, hexec, hnext⟩ := hexec
  obtain ⟨s', hload', hloaded⟩ := load_after_record (b := b) hload hexec
  refine ⟨s', hload', ?_⟩
  cases hreread : rereadCheckpoint env (some c) with
  | none => rw [hloaded, hnext, hreread]; rfl
  | some c' =>
    exact absurd (readsBackBeside_of_reread hbeside (by rw [hexec]; exact hnext) hreread) hop

/-- An active journal outlives a sequence of recordings, each saved and reloaded, exactly
if each of them reads back beside it; and of the journal's own operations only an abandon
and a clear remove it. -/
theorem journal_kept_by_recorders (env : Env) (t : CheckpointSandboxRecreateTransaction)
    (steps : List (Ambient × IsoTimestamp × RecordOp)) (amb : Ambient) (store : SessionStore)
    (hstored : StoresJournal env t amb store) :
    ((∀ b, StoresJournal env t b (Call.runCalls (steps.map (RecordOp.update env)) store)) ↔
      ∀ step ∈ steps, step.2.2.ReadsBackBeside t) ∧
    ∀ (api : FingerprintApi) (op : JournalOp) (s : Session)
      (u : CheckpointSandboxRecreateTransaction), activeTransaction env s = some u →
        activeTransaction env ((op.perform env api).exec s).2 = none →
          (∃ id now, op = .abandon id now) ∨ ∃ id now, op = .clearCompleted id now := by
  refine ⟨⟨?_, fun hsteps => ?_⟩, fun api op s u hu hgone => ?_⟩
  · induction steps generalizing store amb with
    | nil => exact fun _ step hstep => by cases hstep
    | cons first rest ih =>
      intro hkept
      by_cases hfirst : first.2.2.ReadsBackBeside t
      · have hrest := ih amb _ (record_keeps first hfirst hstored amb) hkept
        intro step hstep
        rcases mem_cons.mp hstep with rfl | hmem
        · exact hfirst
        · exact hrest step hmem
      · -- lost at the first step, and lost for good
        have hlost : ∀ b, LacksJournal env b (Call.runCalls
            (rest.map (RecordOp.update env)) ((RecordOp.update env first).exec store).2) :=
          Call.runCalls_invariant (I := fun store => ∀ b, LacksJournal env b store)
            (fun call hcall store hs b => by
              obtain ⟨step, -, rfl⟩ := mem_map.mp hcall
              exact record_lacks step (hs b) b)
            (fun b => record_spoils first hfirst hstored b)
        exact absurd (hkept amb) (hlost amb).not_stores
  · refine Call.runCalls_invariant (I := fun store => ∀ b, StoresJournal env t b store)
      (fun call hcall store hs b => ?_) fun b => ?_
    · obtain ⟨step, hstep, rfl⟩ := mem_map.mp hcall
      exact record_keeps step (hsteps step hstep) (hs b) b
    · obtain ⟨s, c, hload, hc, hjournal⟩ := hstored
      obtain ⟨s', hload', hsame⟩ := normalizeSession_reread b hload
      exact ⟨s', c, hload', hsame.trans hc, hjournal⟩
  · rcases (op.perform_step env api s).law.closes u hu hgone with ⟨habandon, -⟩ | ⟨hclear, -⟩
    · exact .inl habandon
    · exact .inr hclear

/-- A planned replacement of `my-assistant`. -/
def journaledTransaction : CheckpointSandboxRecreateTransaction where
  id := "0b9f6a52-5f0c-4c0e-9d0e-3f6f0a6c1d2e"
  revision := 0
  sandboxName := "my-assistant"
  gatewayName := "nemoclaw"
  gatewayPort := 8080
  sourceRegistryFingerprint := "f46a3cc9a6dc99e6cc59e93ecd5ee23dd2cc136a5fd884879fbfd1f7c614b4cd"
  sourceLiveIdentityFingerprint :=
    some "34506f32c7e89dab5be5db97ab9f3ddcddb75c74ab52baaa97ef4b249b776a44"
  sourceWorkload := none
  targetIntentFingerprint := "f46a3cc9a6dc99e6cc59e93ecd5ee23dd2cc136a5fd884879fbfd1f7c614b4cd"
  targetGeneration := "7c1de0a4-32b8-4a7e-8f55-90a1b2c3d4e5"
  targetLiveIdentityFingerprint := none
  phase := .planned
  startedAt := newYear.val
  updatedAt := newYear.val

def journaledCheckpoint : OnboardCheckpoint :=
  { deriveCheckpointFromSession plainEnv plainSession with
    sandboxIdentity := .selected { name := "my-assistant", agent := "openclaw" }
    gatewayAuthority := .selected
      { gatewayName := "nemoclaw", gatewayPort := 8080, mode := .nemoclawManaged,
        source := .packagedService, endpoint := none, stateDir := none, supervisor := none,
        requiredCapabilities := [] }
    sandboxRecreate := some journaledTransaction }

lemma journaledTransaction_wellFormed : journaledTransaction.WellFormed where
  id := by decide +kernel
  revision := by decide
  sandboxName := by decide +kernel
  port := ⟨by decide, by decide⟩
  gatewayName := by decide
  sourceRegistry := by decide +kernel
  sourceLive := fun s hs => by
    cases hs
    decide +kernel
  sourceWorkload := nofun
  targetIntent := by decide +kernel
  targetGeneration := by decide +kernel
  targetLive := nofun
  startedAt := newYear.property
  updatedAt := newYear.property

lemma journaledCheckpoint_wellFormed : journaledCheckpoint.WellFormed plainEnv.urls where
  updatedAt := newYear.property
  sandboxIdentity := ⟨by decide, by decide +kernel⟩
  webSearch := trivial
  gatewayAuthority :=
    { port := ⟨by decide, by decide⟩
      name := by decide
      capabilities := nofun
      mode := ⟨rfl, rfl, rfl⟩ }
  effectGroups := fun g r hr => by cases hr
  bindings := nofun
  journal := fun t ht => by
    cases ht
    exact ⟨journaledTransaction_wellFormed, by decide⟩

def journaledStore : SessionStore :=
  SessionStore.write plainEnv ⟨none, []⟩
    { plainSession with checkpoint := some journaledCheckpoint }

lemma plainSession_admissible : plainSession.core.Admissible :=
  ⟨fun i hi => (by cases hi), nofun⟩

lemma journaledStore_stores (amb : Ambient) :
    StoresJournal plainEnv journaledTransaction amb journaledStore := by
  obtain ⟨s, hload, -, hc⟩ := loadSession_write plainEnv amb ⟨none, []⟩
    (s := { plainSession with checkpoint := some journaledCheckpoint }) plainSession_admissible
  refine ⟨s, journaledCheckpoint.canonical, hload, ?_, rfl⟩
  exact hc.trans (rereadCheckpoint_wellFormed journaledCheckpoint_wellFormed).1

/-- The sandbox's own identity and a finished effect group. -/
def ownSteps : List (Ambient × IsoTimestamp × RecordOp) :=
  [(plainAmbient "s", newYear, .sandboxIdentity "my-assistant" "hermes"),
    (plainAmbient "s", newYear, .effectGroup .sandboxCreate "my-assistant")]

theorem journal_kept_by_ownSteps :
    StoresJournal plainEnv journaledTransaction (plainAmbient "s")
      (Call.runCalls (ownSteps.map (RecordOp.update plainEnv)) journaledStore) := by
  refine (journal_kept_by_recorders plainEnv journaledTransaction ownSteps (plainAmbient "s")
    journaledStore (journaledStore_stores _)).1.mpr ?_ _
  intro step hstep
  simp only [ownSteps, mem_cons, not_mem_nil, or_false] at hstep
  rcases hstep with rfl | rfl
  · exact ⟨rfl, by decide⟩
  · show "my-assistant" ≠ ""; decide

/-- Recording the identity of another sandbox loses the journal on the next save. -/
theorem journal_lost_by_identity :
    ¬ ∀ steps : List (Ambient × IsoTimestamp × RecordOp),
      StoresJournal plainEnv journaledTransaction (plainAmbient "s")
        (Call.runCalls (steps.map (RecordOp.update plainEnv)) journaledStore) := by
  intro h
  have hother : ¬ (RecordOp.sandboxIdentity "other" "openclaw").ReadsBackBeside
      journaledTransaction := fun hop => absurd hop.1 (by decide)
  have hlost := record_spoils (plainAmbient "s", newYear, .sandboxIdentity "other" "openclaw")
    hother (journaledStore_stores (plainAmbient "s")) (plainAmbient "s")
  exact hlost.not_stores (h [(plainAmbient "s", newYear, .sandboxIdentity "other" "openclaw")])

end NemoClaw.Onboard
