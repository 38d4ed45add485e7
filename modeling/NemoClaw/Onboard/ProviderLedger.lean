import NemoClaw.Onboard.CheckpointRecord

/- The provider ledger a checkpoint keeps, and its invariant over any sequence of
provider recordings.

`ProviderLedger` says what the ledger is for: the registered providers have
distinct names, every one of them is owned by exactly one of the two effect
groups, and the credential variables listed are theirs. What is proved:
  1. `withProviderEffectGroup_ledger`, `withProviderEffectGroups_ledger` — one
     recording preserves it, whether providers are added, moved or removed.
  2. So does any sequence of calls from an empty ledger, failed calls included
     (`ProviderCall.perform_ledger`), and a failed call changes nothing
     (`ProviderCall.perform_atomic`).
-/
namespace NemoClaw.Onboard

open Js List

/-- The ledger is consistent, each group's receipt decoding to `names`. -/
structure LedgerOk (c : OnboardCheckpoint) (names : ProviderEffectGroupName → List String) :
    Prop where
  decoded : ∀ g, checkpointProviderEffectGroupNames c g = .ok (names g)
  names_nodup : (c.bindings.registeredProviders.map (·.name)).Nodup
  disjoint : List.Disjoint (names .webSearchProvider) (names .messagingProviders)
  owned : ∀ n, n ∈ c.bindings.registeredProviders.map (·.name) ↔ ∃ g, n ∈ names g
  envs_nodup : c.bindings.credentialEnvs.Nodup
  envs : ∀ e, e ∈ c.bindings.credentialEnvs ↔
    e ∈ c.bindings.registeredProviders.map (·.credentialEnv)

def ProviderLedger (c : OnboardCheckpoint) : Prop := ∃ names, LedgerOk c names

structure EmptyLedger (c : OnboardCheckpoint) : Prop where
  noReceipt : ∀ g : ProviderEffectGroupName, c.effectGroups g.toEffectGroup = none
  noProvider : c.bindings.registeredProviders = []
  noEnv : c.bindings.credentialEnvs = []

variable {c : OnboardCheckpoint}

lemma EmptyLedger.ledger (h : EmptyLedger c) : ProviderLedger c := by
  refine ⟨fun _ => [], ?_⟩
  refine { decoded := ?_, names_nodup := ?_, disjoint := ?_, owned := ?_, envs_nodup := ?_,
           envs := ?_ }
  · intro g
    rw [checkpointProviderEffectGroupNames, h.noReceipt g]
  · rw [h.noProvider]; exact nodup_nil
  · intro n hn; cases hn
  · intro n; simp [h.noProvider]
  · rw [h.noEnv]; exact nodup_nil
  · intro e; simp [h.noEnv, h.noProvider]

namespace ProviderEffectGroupName

lemma toEffectGroup_other_ne (g : ProviderEffectGroupName) :
    g.other.toEffectGroup ≠ g.toEffectGroup := by
  cases g <;> decide

lemma eq_or_eq_other (g g' : ProviderEffectGroupName) : g' = g ∨ g' = g.other := by
  cases g <;> cases g' <;> simp [other]

end ProviderEffectGroupName

lemma LedgerOk.disjoint_other {names : ProviderEffectGroupName → List String}
    (h : LedgerOk c names) (g : ProviderEffectGroupName) :
    List.Disjoint (names g) (names g.other) := by
  cases g with
  | webSearchProvider => exact h.disjoint
  | messagingProviders => exact h.disjoint.symm

lemma LedgerOk.owned_iff {names : ProviderEffectGroupName → List String} (h : LedgerOk c names)
    (g : ProviderEffectGroupName) (n : String) :
    n ∈ c.bindings.registeredProviders.map (·.name) ↔ n ∈ names g ∨ n ∈ names g.other := by
  rw [h.owned]
  constructor
  · intro hn
    obtain ⟨g', hg'⟩ := hn
    rcases g.eq_or_eq_other g' with rfl | rfl
    · exact .inl hg'
    · exact .inr hg'
  · intro hn
    rcases hn with hn | hn
    · exact ⟨g, hn⟩
    · exact ⟨g.other, hn⟩

lemma names_of_providerReceipt {g : ProviderEffectGroupName}
    {providers : List CheckpointProviderBinding} (now : IsoTimestamp)
    (hvalid : ValidProviderBindings providers) (hfree : ∀ b ∈ providers, CommaFree b.name)
    (hreceipt : c.effectGroups g.toEffectGroup = providerReceipt providers now) :
    checkpointProviderEffectGroupNames c g = .ok (providers.map (·.name)) := by
  unfold checkpointProviderEffectGroupNames
  rw [hreceipt]
  unfold providerReceipt
  split
  · next hnone =>
    split at hnone
    · next hempty => rw [hempty]; rfl
    · cases hnone
  · next receipt hsome =>
    split at hsome
    · cases hsome
    next hne =>
    cases hsome
    have hnames : providers.map (·.name) ≠ [] := by simpa using hne
    have hclean : ∀ n ∈ providers.map (·.name), isCleanText n := by
      intro n hn
      obtain ⟨b, hb, rfl⟩ := mem_map.mp hn; exact (hvalid.1 b hb).1
    have hsplit : splitComma (joinComma (providers.map (·.name))) =
        providers.map (·.name) := by
      refine splitComma_joinComma hnames ?_
      intro n hn
      obtain ⟨b, hb, rfl⟩ := mem_map.mp hn; exact hfree b hb
    refine require_bind_ok ⟨?_, ?_, ?_, ?_⟩ ?_
    · exact joinComma_ne_empty hnames fun n hn => isCleanText_ne_empty (hclean n hn)
    · rw [hsplit]; exact hclean
    · exact joinComma_splitComma _
    · rw [hsplit]; exact hvalid.2
    · show Except.ok (splitComma (joinComma (providers.map (·.name)))) = _
      rw [hsplit]

lemma names_of_same_receipt {c' : OnboardCheckpoint} {g : ProviderEffectGroupName}
    (h : c'.effectGroups g.toEffectGroup = c.effectGroups g.toEffectGroup) :
    checkpointProviderEffectGroupNames c' g = checkpointProviderEffectGroupNames c g := by
  unfold checkpointProviderEffectGroupNames
  rw [h]

lemma ValidProviderBindings.left {bs cs : List CheckpointProviderBinding}
    (h : ValidProviderBindings (bs ++ cs)) : ValidProviderBindings bs := by
  refine ⟨fun b hb => h.1 b (by simp [hb]), ?_⟩
  have hnodup := h.2
  rw [map_append] at hnodup; exact hnodup.of_append_left

lemma ValidProviderBindings.right {bs cs : List CheckpointProviderBinding}
    (h : ValidProviderBindings (bs ++ cs)) : ValidProviderBindings cs := by
  refine ⟨fun b hb => h.1 b (by simp [hb]), ?_⟩
  have hnodup := h.2
  rw [map_append] at hnodup; exact hnodup.of_append_right

def groupNames (webSearch messaging : List CheckpointProviderBinding) :
    ProviderEffectGroupName → List String
  | .webSearchProvider => webSearch.map (·.name)
  | .messagingProviders => messaging.map (·.name)

/-- Recording both groups at once makes the ledger consistent, whatever it was. -/
theorem withProviderEffectGroups_ledger {base next : OnboardCheckpoint}
    {webSearch messaging : List CheckpointProviderBinding} {now : IsoTimestamp}
    (hfree : ∀ b ∈ webSearch ++ messaging, CommaFree b.name)
    (h : withProviderEffectGroups base webSearch messaging now = .ok next) :
    ProviderLedger next := by
  obtain ⟨hvalid, h⟩ := assertValidProviderBindings_bind_inv h
  cases h
  have hnodup := hvalid.2
  rw [map_append] at hnodup
  refine ⟨groupNames webSearch messaging, ?_⟩
  refine { decoded := ?_, names_nodup := hvalid.2, disjoint := ?_, owned := ?_,
           envs_nodup := nodup_uniq _, envs := fun e => mem_uniq }
  · intro g
    cases g with
    | webSearchProvider =>
      exact names_of_providerReceipt now hvalid.left
        (fun b hb => hfree b (by simp [hb])) rfl
    | messagingProviders =>
      exact names_of_providerReceipt now hvalid.right
        (fun b hb => hfree b (by simp [hb])) rfl
  · exact disjoint_of_nodup_append hnodup
  · intro n
    rw [map_append, mem_append]
    constructor
    · intro hn
      rcases hn with hn | hn
      · exact ⟨.webSearchProvider, hn⟩
      · exact ⟨.messagingProviders, hn⟩
    · intro hn
      obtain ⟨g, hg⟩ := hn
      cases g with
      | webSearchProvider => exact .inl hg
      | messagingProviders => exact .inr hg

/-- Every registered provider is owned, so none is adopted. -/
lemma LedgerOk.none_adopted {names : ProviderEffectGroupName → List String}
    (h : LedgerOk c names) (group : ProviderEffectGroupName) (adopts : List String) :
    (c.bindings.registeredProviders.filter fun b =>
      b.name ∉ names group ∧ b.name ∉ names group.other ∧ b.name ∈ adopts) = [] := by
  rw [filter_eq_nil_iff]
  intro b hb hcontra
  simp only [decide_eq_true_eq] at hcontra
  rcases (h.owned_iff group b.name).mp (mem_map_of_mem hb) with hown | hown
  · exact hcontra.1 hown
  · exact hcontra.2.1 hown

/-- Without the providers of a group those of the other are left. -/
lemma LedgerOk.mem_remaining {names : ProviderEffectGroupName → List String}
    (h : LedgerOk c names) (group : ProviderEffectGroupName) (n : String) :
    n ∈ (c.bindings.registeredProviders.filter fun b => b.name ∉ names group).map (·.name) ↔
      n ∈ names group.other := by
  constructor
  · intro hn
    obtain ⟨b, hb, rfl⟩ := mem_map.mp hn
    obtain ⟨hmem, hnot⟩ := mem_filter.mp hb
    rcases (h.owned_iff group b.name).mp (mem_map_of_mem hmem) with hown | hown
    · exact absurd hown (by simpa using hnot)
    · exact hown
  · intro hn
    obtain ⟨b, hb, rfl⟩ := mem_map.mp ((h.owned_iff group n).mpr (.inr hn))
    refine mem_map_of_mem (mem_filter.mpr ⟨hb, ?_⟩)
    simpa using fun hown => h.disjoint_other group hown hn

theorem withProviderEffectGroup_ledger {base next : OnboardCheckpoint}
    {group : ProviderEffectGroupName} {providers : List CheckpointProviderBinding}
    {now : IsoTimestamp} (hbase : ProviderLedger base)
    (hfree : ∀ b ∈ providers, CommaFree b.name)
    (h : withProviderEffectGroup base group providers now = .ok next) : ProviderLedger next := by
  obtain ⟨names, hledger⟩ := hbase
  obtain ⟨hvalid, h⟩ := assertValidProviderBindings_bind_inv h
  obtain ⟨-, h⟩ := assertValidProviderBindings_bind_inv h
  obtain ⟨previous, hprevious, h⟩ := except_bind_inv h
  obtain ⟨others, hothers, h⟩ := except_bind_inv h
  obtain rfl : names group = previous :=
    Except.ok.inj ((hledger.decoded group).symm.trans hprevious)
  obtain rfl : names group.other = others :=
    Except.ok.inj ((hledger.decoded group.other).symm.trans hothers)
  obtain ⟨-, h⟩ := require_bind_inv h
  obtain ⟨-, h⟩ := require_bind_inv h
  obtain ⟨hconflict, h⟩ := require_bind_inv h
  obtain ⟨hnext, h⟩ := assertValidProviderBindings_bind_inv h
  cases h
  simp only [hledger.none_adopted group, map_nil, append_nil, not_mem_nil, not_false_eq_true,
    and_true] at hnext ⊢
  let names' : ProviderEffectGroupName → List String :=
    Function.update names group (providers.map (·.name))
  have hself : names' group = providers.map (·.name) := Function.update_self ..
  have hother : names' group.other = names group.other := by
    refine Function.update_of_ne ?_ _ _
    intro heq; exact group.toEffectGroup_other_ne (congrArg _ heq)
  have hdisjoint : List.Disjoint (names' group) (names' group.other) := by
    rw [hself, hother]
    intro n hn hn'
    obtain ⟨b, hb, rfl⟩ := mem_map.mp hn; exact hconflict b hb hn'
  refine ⟨names', ?_⟩
  refine { decoded := ?_, names_nodup := hnext.2, disjoint := ?_, owned := ?_,
           envs_nodup := nodup_uniq _, envs := ?_ }
  · intro g
    rcases group.eq_or_eq_other g with rfl | rfl
    · rw [hself]; exact names_of_providerReceipt now hvalid hfree (Function.update_self ..)
    · rw [hother, ← hledger.decoded group.other]
      exact names_of_same_receipt (Function.update_of_ne group.toEffectGroup_other_ne _ _)
  · cases group with
    | webSearchProvider => exact hdisjoint
    | messagingProviders => exact hdisjoint.symm
  · intro n
    rw [map_append, mem_append, hledger.mem_remaining group n]
    constructor
    · intro hn
      rcases hn with hn | hn
      · exact ⟨group.other, by rwa [hother]⟩
      · exact ⟨group, by rwa [hself]⟩
    · intro hn
      obtain ⟨g, hg⟩ := hn
      rcases group.eq_or_eq_other g with rfl | rfl
      · exact .inr (by rwa [hself] at hg)
      · exact .inl (by rwa [hother] at hg)
  · intro e
    rw [mem_uniq, mem_append]
    constructor
    · intro he
      rcases he with he | he
      -- a variable that is kept belongs to a provider that is kept
      · obtain ⟨hmem, hkept⟩ := mem_filter.mp he
        obtain ⟨b, hb, rfl⟩ := mem_map.mp ((hledger.envs e).mp hmem)
        have hnotPrevious : b.name ∉ names group := by
          intro hown
          refine absurd ?_ (of_decide_eq_true hkept)
          exact mem_map_of_mem (mem_filter.mpr ⟨hb, by simpa using hown⟩)
        refine mem_map_of_mem (mem_append_left _ ?_)
        exact mem_filter.mpr ⟨hb, by simpa using hnotPrevious⟩
      · exact he
    · exact .inr

inductive ProviderCall where
  | one (group : ProviderEffectGroupName) (providers : List CheckpointProviderBinding)
      (now : IsoTimestamp)
  | both (webSearch messaging : List CheckpointProviderBinding) (now : IsoTimestamp)

namespace ProviderCall

def perform (env : Env) : ProviderCall → Call Session Unit
  | one group providers now => recordCheckpointProviderEffectGroup env group providers now
  | both webSearch messaging now =>
    recordCheckpointProviderEffectGroups env webSearch messaging now

def providers : ProviderCall → List CheckpointProviderBinding
  | one _ providers _ => providers
  | both webSearch messaging _ => webSearch ++ messaging

theorem perform_atomic (env : Env) (call : ProviderCall) : (call.perform env).Atomic := by
  cases call with
  | one group providers now => exact recordWith_atomic env now _
  | both webSearch messaging now => exact recordWith_atomic env now _

end ProviderCall

lemma ProviderLedger.stamp (h : ProviderLedger c) (session : Session) (now : IsoTimestamp) :
    ProviderLedger (stampCheckpoint session now c) := by
  obtain ⟨names, hok⟩ := h
  exact ⟨names, { decoded := fun g => hok.decoded g, names_nodup := hok.names_nodup,
                  disjoint := hok.disjoint, owned := hok.owned, envs_nodup := hok.envs_nodup,
                  envs := hok.envs }⟩

theorem ProviderCall.perform_ledger (env : Env) {call : ProviderCall}
    (hfree : ∀ b ∈ call.providers, CommaFree b.name) (s : Session)
    (hs : ProviderLedger (baseCheckpoint env s)) :
    ProviderLedger (baseCheckpoint env ((call.perform env).exec s).2) := by
  cases call with
  | one group providers now =>
    refine recordWith_preserves (fun session c hc => hc.stamp session now) ?_ s hs
    intro c c' hc hupdate; exact withProviderEffectGroup_ledger hc hfree hupdate
  | both webSearch messaging now =>
    refine recordWith_preserves (fun session c hc => hc.stamp session now) ?_ s hs
    intro c c' _ hupdate; exact withProviderEffectGroups_ledger hfree hupdate

/-- From an empty ledger, the ledger is consistent after any sequence of provider
recordings, and a recording that throws leaves the session unchanged. -/
theorem providerLedger_runCalls (env : Env) (calls : List ProviderCall) (s : Session)
    (hfree : ∀ call ∈ calls, ∀ b ∈ call.providers, CommaFree b.name)
    (hempty : EmptyLedger (baseCheckpoint env s)) :
    ProviderLedger
        (baseCheckpoint env (Call.runCalls (calls.map (ProviderCall.perform env)) s)) ∧
      ∀ (call : ProviderCall) (t : Session) (e : String),
        ((call.perform env).exec t).1 = .error e → ((call.perform env).exec t).2 = t := by
  refine ⟨?_, fun call t e => call.perform_atomic env t e⟩
  refine Call.runCalls_invariant (I := fun t => ProviderLedger (baseCheckpoint env t)) ?_
    hempty.ledger
  intro x hx t ht
  obtain ⟨call, hcall, rfl⟩ := mem_map.mp hx
  exact call.perform_ledger env (hfree call hcall) t ht

/-- Moving a provider between groups, on a new session. -/
def providerMoves : List ProviderCall :=
  [.one .webSearchProvider [⟨"brave-search", "generic", "BRAVE_API_KEY"⟩] newYear,
   .one .messagingProviders [⟨"telegram", "generic", "TELEGRAM_TOKEN"⟩] newYear,
   .both [⟨"telegram", "generic", "TELEGRAM_TOKEN"⟩]
     [⟨"brave-search", "generic", "BRAVE_API_KEY"⟩] newYear]

theorem providerLedger_providerMoves :
    (∀ call ∈ providerMoves, ∀ b ∈ call.providers, CommaFree b.name) ∧
      EmptyLedger (baseCheckpoint plainEnv (createSession plainEnv (plainAmbient "s") {})) ∧
      ProviderLedger (baseCheckpoint plainEnv (Call.runCalls
        (providerMoves.map (ProviderCall.perform plainEnv))
        (createSession plainEnv (plainAmbient "s") {}))) := by
  have hfree : ∀ call ∈ providerMoves, ∀ b ∈ call.providers, CommaFree b.name := by decide
  have hempty : EmptyLedger
      (baseCheckpoint plainEnv (createSession plainEnv (plainAmbient "s") {})) :=
    ⟨fun _ => rfl, rfl, rfl⟩
  exact ⟨hfree, hempty, (providerLedger_runCalls plainEnv providerMoves _ hfree hempty).1⟩

end NemoClaw.Onboard
