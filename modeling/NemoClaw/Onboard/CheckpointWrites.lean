import NemoClaw.Onboard.JournalKept
import NemoClaw.Onboard.RecreateJournal

/- What the recorders and the begin of a replacement write, read back.

The parser is stricter than the writers: it checks names, digests, times and the source
workload of the journal, and refuses the whole checkpoint for one part. A begin takes its
source workload from a registry row that a weaker check has let through.

What is proved:
  1. `loadsAsIs_iff` — a checkpoint is loaded as itself exactly if every part passes the
     parser's check and its web search names a provider.
  2. `written_kept_iff` — one write of a checkpoint that loads as itself gives one that
     does exactly if the write meets the parser's checks.
  3. `checkpointRun_loadsAsIs_iff` — so for every run of writes.
  4. `checkpointRun_mismatch` — a row whose workload names another image than its own is
     accepted by the registry, and the checkpoint written from it is refused.

Correspondence (state/onboard-checkpoint.ts, onboard/sandbox-recreate-transaction.ts,
registry/workload.ts ↔ Lean): definitions keep the source's names. A row is one of its
declared type: its image tag and driver are strings or `null`. That a fingerprint is a
SHA-256 digest is the assumption `hsha`.
-/
namespace NemoClaw.Onboard

open Js Js.Json List Option

def LoadsAsIs (urls : UrlApi) (c : OnboardCheckpoint) : Prop :=
  inspectCheckpoint urls (some (serializeCheckpoint c)) = .loaded c

/-- A configuration as the normaliser leaves it. -/
def WebSearchConfig.Normal (c : WebSearchConfig) : Prop := c.provider.isSome

/-- Every part passes the parser's check, and the parser adds nothing. -/
structure OnboardCheckpoint.Kept (urls : UrlApi) (c : OnboardCheckpoint) : Prop where
  wellFormed : c.WellFormed urls
  webSearch : c.webSearch.All WebSearchConfig.Normal

lemma WebSearchConfig.withProvider_eq_self {c : WebSearchConfig} :
    c.withProvider = c ↔ c.Normal := by
  obtain ⟨fetchEnabled, provider⟩ := c
  cases provider <;> simp [withProvider, Normal]

variable {c : OnboardCheckpoint}

lemma canonical_eq_self : c.canonical = c ↔ c.webSearch.All WebSearchConfig.Normal := by
  have hparts : c.canonical = c ↔ c.webSearch.map WebSearchConfig.withProvider = c.webSearch := by
    constructor
    · intro h; exact congrArg OnboardCheckpoint.webSearch h
    · intro h
      unfold OnboardCheckpoint.canonical
      rw [h]
  rw [hparts]
  cases c.webSearch with
  | unset => exact ⟨fun _ => trivial, fun _ => rfl⟩
  | declined => exact ⟨fun _ => trivial, fun _ => rfl⟩
  | selected v =>
    refine Iff.trans ⟨fun h => ?_, fun h => ?_⟩ WebSearchConfig.withProvider_eq_self
    · exact CheckpointDecision.selected.inj h
    · exact congrArg CheckpointDecision.selected h

theorem loadsAsIs_iff {urls : UrlApi} : LoadsAsIs urls c ↔ c.Kept urls := by
  constructor
  · intro h
    obtain ⟨raw, -, hparse⟩ := inspectCheckpoint_eq_loaded h
    have hwf := parseSchema_wellFormed hparse
    have hcanonical : CheckpointLoadResult.loaded c.canonical = .loaded c :=
      (inspectCheckpoint_serialize hwf).symm.trans h
    exact ⟨hwf, canonical_eq_self.mp (CheckpointLoadResult.loaded.inj hcanonical)⟩
  · intro h
    unfold LoadsAsIs
    rw [inspectCheckpoint_serialize h.wellFormed, canonical_eq_self.mpr h.webSearch]

lemma normalizeWebSearchConfig_normal {v : Option Json} {c : WebSearchConfig}
    (h : normalizeWebSearchConfig v = some c) : c.Normal := by
  obtain ⟨raw, -, h⟩ := parse_bind_inv h
  obtain ⟨-, h⟩ := parse_guard_inv h
  split at h
  · cases h; rfl
  · obtain ⟨p, -, rfl⟩ := map_eq_some_iff.mp h; rfl

lemma parseSchema_kept {urls : UrlApi} {value : Json} {authorityRaw recreateRaw : Option Json}
    (h : parseSchema urls value authorityRaw recreateRaw = some c) : c.Kept urls := by
  refine ⟨parseSchema_wellFormed h, ?_⟩
  obtain ⟨sessionId, -, h⟩ := parse_bind_inv h
  obtain ⟨updatedAt, -, h⟩ := parse_bind_inv h
  obtain ⟨machineState, -, h⟩ := parse_bind_inv h
  obtain ⟨identity, -, h⟩ := parse_bind_inv h
  obtain ⟨webSearch, hwebSearch, h⟩ := parse_bind_inv h
  obtain ⟨messaging, -, h⟩ := parse_bind_inv h
  obtain ⟨resource, -, h⟩ := parse_bind_inv h
  obtain ⟨authority, -, h⟩ := parse_bind_inv h
  obtain ⟨groups, -, h⟩ := parse_bind_inv h
  obtain ⟨bindings, -, h⟩ := parse_bind_inv h
  obtain ⟨recreate, -, h⟩ := parse_bind_inv h
  obtain ⟨-, h⟩ := parse_guard_inv h
  cases h
  exact parseCheckpointDecision_all (fun _ _ => normalizeWebSearchConfig_normal) hwebSearch

/-- A checkpoint that was parsed: of the current schema, or migrated from an older one. -/
def Parsed (urls : UrlApi) (c : OnboardCheckpoint) : Prop :=
  ∃ v, inspectCheckpoint urls v = .loaded c ∨ ∃ n, inspectCheckpoint urls v = .migrated c n

lemma inspectVersion_kept {urls : UrlApi} {raw : Json} {version : Int} {n : Nat}
    (h : inspectVersion urls raw version = .migrated c n) : c.Kept urls := by
  have hresult : ∀ {m : Nat} {o : Option OnboardCheckpoint},
      loadResultOf (.migrated · m) o = .migrated c n → o = some c := by
    intro m o ho
    cases o with
    | none => cases ho
    | some c' => exact congrArg some (CheckpointLoadResult.migrated.inj ho).1
  unfold inspectVersion at h
  split at h
  · cases h
  split at h
  · cases h
  split at h
  -- a loaded checkpoint is not a migrated one
  · unfold loadResultOf at h
    split at h
    all_goals cases h
  split at h
  all_goals exact parseSchema_kept (hresult h)

lemma Parsed.kept {urls : UrlApi} (h : Parsed urls c) : c.Kept urls := by
  obtain ⟨v, h | ⟨n, h⟩⟩ := h
  · obtain ⟨raw, -, hparse⟩ := inspectCheckpoint_eq_loaded h
    exact parseSchema_kept hparse
  unfold inspectCheckpoint at h
  split at h
  · cases h
  · cases h
  · split at h
    · cases h
    · exact inspectVersion_kept h
  · cases h

/-- A recorder with its time, or the begin of a replacement. -/
inductive CheckpointWrite where
  | record (now : IsoTimestamp) (op : RecordOp)
  | begin (input : BeginSandboxRecreateTransactionInput)

def CheckpointWrite.perform (env : Env) (api : FingerprintApi) : CheckpointWrite →
    Call Session Unit
  | record now op => op.perform env now
  | begin input => JournalOp.perform env api (.begin input)

def written (env : Env) (api : FingerprintApi) (c : OnboardCheckpoint)
    (step : Session × CheckpointWrite) : OnboardCheckpoint :=
  baseCheckpoint env
    ((step.2.perform env api).exec { step.1 with checkpoint := some c }).2

def checkpointRun (env : Env) (api : FingerprintApi) (steps : List (Session × CheckpointWrite))
    (c : OnboardCheckpoint) : OnboardCheckpoint :=
  steps.foldl (written env api) c

/-- The image that the row's legacy workload receipt names. -/
def legacyReference (entry : SandboxEntry) : Option String := do
  let w ← readObject (entry.lookup "workload")
  guard (readString (w.get? "kind") = some "legacy-dockerfile")
  readString (w.get? "reference")

/-- What the parser asks of a row with an image. -/
structure SourceFits (entry : SandboxEntry) (imageTag : String) : Prop where
  image : isBoundedJournalString 4096 imageTag
  driver : NullOr (fun s => isBoundedJournalString 128 s && isDriverName s)
    (readString (entry.lookup "openshellDriver"))
  reference : ∀ r, legacyReference entry = some r → r = imageTag

/-- What the parser asks of a begin in a checkpoint without a journal. -/
structure BeginFits (c : OnboardCheckpoint) (input : BeginSandboxRecreateTransactionInput)
    (entry : SandboxEntry) : Prop where
  identity : ∃ i, c.sandboxIdentity = .selected i ∧ i.name = input.sandboxName
  gateway : ∃ a, c.gatewayAuthority = .selected a ∧ a.gatewayName = input.gatewayName ∧
    a.gatewayPort = input.gatewayPort
  source : ∀ imageTag, readNonEmpty (entry.lookup "imageTag") = some imageTag →
    SourceFits entry imageTag
  live : NullOr isSha256 input.observation.liveIdentityFingerprint
  intent : isSha256 input.targetIntentFingerprint
  id : isUuid input.id
  generation : isUuid input.targetGeneration
  now : isCanonicalIsoTimestamp input.now

def CheckpointWrite.Meets (c : OnboardCheckpoint) : CheckpointWrite → Prop
  | record _ (.sandboxIdentity name agent) => agent ≠ "" ∧ isValidSandboxName name ∧
      ∀ t, c.sandboxRecreate = some t → t.sandboxName = name
  | record _ (.effectGroup _ fingerprint) => fingerprint ≠ ""
  | record _ (.webSearch config) =>
      ∀ w, config = some w → w.fetchEnabled ∧ w.provider.isSome
  | record _ _ => True
  | begin input => c.sandboxRecreate = none →
      (input.observation.state = .missing ∨
        truthy input.observation.liveIdentityFingerprint) →
      ∀ entry, input.sourceEntry = some entry → BeginFits c input entry

def AllMeet (env : Env) (api : FingerprintApi) : List (Session × CheckpointWrite) →
    OnboardCheckpoint → Prop
  | [], _ => True
  | step :: rest, c => step.2.Meets c ∧ AllMeet env api rest (written env api c step)

/-- The receipt that is journaled for a row with an image. -/
lemma checkpointSourceWorkload_image {entry : SandboxEntry} {imageTag : String}
    (himage : readNonEmpty (entry.lookup "imageTag") = some imageTag) :
    ∃ w, checkpointSourceWorkload entry = some w ∧ w.imageTag = imageTag ∧
      w.openshellDriver = readString (entry.lookup "openshellDriver") ∧
      w.workload.bind (·.reference) = legacyReference entry := by
  unfold checkpointSourceWorkload legacyReference
  rw [himage]
  refine ⟨_, rfl, rfl, rfl, ?_⟩
  cases readObject (entry.lookup "workload") with
  | none => rfl
  | some w =>
    by_cases hkind : readString (w.get? "kind") = some "legacy-dockerfile" <;> simp [hkind]

lemma sourceFits_iff {entry : SandboxEntry} :
    (∀ imageTag, readNonEmpty (entry.lookup "imageTag") = some imageTag →
      SourceFits entry imageTag) ↔
    ∀ w, checkpointSourceWorkload entry = some w → w.WellFormed := by
  cases himage : readNonEmpty (entry.lookup "imageTag") with
  | none =>
    have hnone : checkpointSourceWorkload entry = none := by
      unfold checkpointSourceWorkload
      rw [himage]; rfl
    rw [hnone]; exact ⟨fun _ w hw => (by cases hw), fun _ tag htag => by cases htag⟩
  | some imageTag =>
    obtain ⟨w, hw, htag, hdriver, hreference⟩ := checkpointSourceWorkload_image himage
    have hw' : w.WellFormed ↔ SourceFits entry imageTag := by
      constructor
      · intro h
        refine ⟨htag ▸ h.imageTag, hdriver ▸ h.driver, fun r hr => ?_⟩
        obtain ⟨x, hx, hxr⟩ := bind_eq_some_iff.mp (hreference.trans hr)
        rcases h.reference x hx with hnone | hsome
        · rw [hnone] at hxr; cases hxr
        · rw [hsome, htag] at hxr; exact (some.inj hxr).symm
      · intro h
        refine ⟨hdriver ▸ h.driver, htag ▸ h.image, fun x hx => ?_⟩
        rw [hx] at hreference
        cases hxr : x.reference with
        | none => exact .inl rfl
        | some r =>
          refine .inr ?_
          rw [htag, h.reference r (hreference.symm.trans hxr)]
    rw [hw]
    constructor
    · intro h v hv
      rw [← some.inj hv]; exact hw'.mpr (h imageTag rfl)
    · intro h tag htag'
      rw [← some.inj htag']; exact hw'.mp (h w rfl)

section Write

variable {env : Env} {api : FingerprintApi} {c : OnboardCheckpoint}

lemma OnboardCheckpoint.Kept.stamp (h : c.Kept env.urls) (session : Session)
    (now : IsoTimestamp) : (stampCheckpoint session now c).Kept env.urls :=
  ⟨stampCheckpoint_wellFormed session now h.wellFormed, h.webSearch⟩

lemma LedgerChange.kept {next : OnboardCheckpoint} (h : LedgerChange c next)
    (hc : c.Kept env.urls) : next.Kept env.urls := by
  refine ⟨h.wellFormed hc.wellFormed, ?_⟩
  obtain ⟨groups, bindings, -, -⟩ := h; exact hc.webSearch

/-- A recorder that cannot fail on a value it is given. -/
lemma recordWith_kept {now : IsoTimestamp}
    {update : OnboardCheckpoint → Except String OnboardCheckpoint}
    (hupdate : ∀ c c', update c = .ok c' → LedgerChange c c') (session : Session)
    (h : c.Kept env.urls) :
    (baseCheckpoint env ((recordWith env now update).exec
      { session with checkpoint := some c }).2).Kept env.urls :=
  recordWith_preserves (I := fun c => c.Kept env.urls)
    (fun session _ hc => hc.stamp session now)
    (fun c c' hc hrun => (hupdate c c' hrun).kept hc) _ h

lemma identity_kept_iff (h : c.Kept env.urls) {name agent : String} :
    { c with sandboxIdentity := .selected { name, agent } }.Kept env.urls ↔
      agent ≠ "" ∧ isValidSandboxName name ∧
        ∀ t, c.sandboxRecreate = some t → t.sandboxName = name := by
  constructor
  · intro hnext
    obtain ⟨hagent, hname⟩ := hnext.wellFormed.sandboxIdentity
    refine ⟨hagent, hname, fun t ht => ?_⟩
    have hmatch := (hnext.wellFormed.journal t ht).2
    unfold recreateMatches at hmatch
    cases hauthority : c.gatewayAuthority with
    | selected authority =>
      simp only [hauthority, Bool.and_eq_true, beq_iff_eq] at hmatch; exact hmatch.1.1.symm
    | unset => simp [hauthority] at hmatch
    | declined => simp [hauthority] at hmatch
  · rintro ⟨hagent, hname, hjournal⟩
    refine ⟨{ h.wellFormed with sandboxIdentity := ⟨hagent, hname⟩, journal := ?_ }, h.webSearch⟩
    intro t ht
    obtain ⟨hwf, hmatch⟩ := h.wellFormed.journal t ht
    exact ⟨hwf, recreateMatches_identity hmatch (hjournal t ht).symm⟩

lemma effectGroup_kept_iff (h : c.Kept env.urls) {group : CheckpointEffectGroupName}
    {fingerprint : String} (now : IsoTimestamp) :
    { c with
      effectGroups := Function.update c.effectGroups group
        (some { completedAt := now.val, fingerprint }) }.Kept env.urls ↔ fingerprint ≠ "" := by
  constructor
  · intro hnext
    have hself : Function.update c.effectGroups group
        (some { completedAt := now.val, fingerprint }) group =
        some { completedAt := now.val, fingerprint } := Function.update_self ..
    exact (hnext.wellFormed.effectGroups group _ hself).2
  · intro hfingerprint
    refine ⟨{ h.wellFormed with
      effectGroups := updated_wellFormed h.wellFormed.effectGroups ?_ }, h.webSearch⟩
    intro r hr
    rw [← some.inj hr]; exact ⟨now.property, hfingerprint⟩

/-- The decision that a recorder makes of a value or of none. -/
lemma webSearch_kept_iff (h : c.Kept env.urls) {config : Option WebSearchConfig} :
    { c with
      webSearch := match config with
        | some config => CheckpointDecision.selected config
        | none => .declined }.Kept env.urls ↔
      ∀ w, config = some w → w.fetchEnabled ∧ w.provider.isSome := by
  cases config with
  | none =>
    refine ⟨fun _ w hw => (by cases hw), fun _ => ?_⟩
    exact ⟨{ h.wellFormed with webSearch := trivial }, trivial⟩
  | some config =>
    constructor
    · intro hnext w hw
      rw [← some.inj hw]; exact ⟨hnext.wellFormed.webSearch, hnext.webSearch⟩
    · intro hconfig
      obtain ⟨hfetch, hprovider⟩ := hconfig config rfl
      exact ⟨{ h.wellFormed with webSearch := hfetch }, hprovider⟩

def begun (api : FingerprintApi) (session : Session) (c : OnboardCheckpoint)
    (input : BeginSandboxRecreateTransactionInput) (entry : SandboxEntry) : OnboardCheckpoint :=
  { c with
    machineState := session.machine.state
    updatedAt := input.now
    sandboxRecreate := some (newTransaction api input entry) }

lemma recreateMatches_begun {session : Session} {input : BeginSandboxRecreateTransactionInput}
    {entry : SandboxEntry} :
    recreateMatches (begun api session c input entry) (newTransaction api input entry) ↔
      (∃ i, c.sandboxIdentity = .selected i ∧ i.name = input.sandboxName) ∧
      ∃ a, c.gatewayAuthority = .selected a ∧ a.gatewayName = input.gatewayName ∧
        a.gatewayPort = input.gatewayPort := by
  unfold recreateMatches begun newTransaction
  cases c.sandboxIdentity with
  | selected identity =>
    cases c.gatewayAuthority with
    | selected authority => simp [and_assoc]
    | unset => simp
    | declined => simp
  | unset => simp
  | declined => simp

lemma begun_kept_iff (hsha : ∀ text, isSha256 (api.sha256 text)) (h : c.Kept env.urls)
    {session : Session} {input : BeginSandboxRecreateTransactionInput} {entry : SandboxEntry} :
    (begun api session c input entry).Kept env.urls ↔ BeginFits c input entry := by
  constructor
  · intro hnext
    obtain ⟨ht, hmatch⟩ := hnext.wellFormed.journal _ rfl
    obtain ⟨hidentity, hgateway⟩ := recreateMatches_begun.mp hmatch
    exact {
      identity := hidentity
      gateway := hgateway
      source := sourceFits_iff.mpr ht.sourceWorkload
      live := ht.sourceLive
      intent := ht.targetIntent
      id := ht.id
      generation := ht.targetGeneration
      now := ht.startedAt }
  · intro hfits
    obtain ⟨i, hi, hname⟩ := hfits.identity
    obtain ⟨a, ha, hgateway, hport⟩ := hfits.gateway
    have hiwf : i.WellFormed := by
      have hall := h.wellFormed.sandboxIdentity
      rw [hi] at hall; exact hall
    have hawf : a.WellFormed env.urls := by
      have hall := h.wellFormed.gatewayAuthority
      rw [ha] at hall; exact hall
    have hfingerprint : isSha256 (fingerprintSandboxRegistryEntry api entry) :=
      hsha _
    refine ⟨{ h.wellFormed with updatedAt := hfits.now, journal := ?_ }, h.webSearch⟩
    intro t ht
    rw [← some.inj ht]
    refine ⟨?_, recreateMatches_begun.mpr ⟨hfits.identity, hfits.gateway⟩⟩
    exact {
      id := hfits.id
      revision := Nat.zero_le _
      sandboxName := by
        show isValidSandboxName input.sandboxName
        rw [← hname]; exact hiwf.2
      port := by
        show IsPort input.gatewayPort
        rw [← hport]; exact hawf.port
      gatewayName := by
        show input.gatewayName = canonicalGatewayName input.gatewayPort
        rw [← hgateway, ← hport]; exact hawf.name
      sourceRegistry := hfingerprint
      sourceLive := hfits.live
      sourceWorkload := sourceFits_iff.mp hfits.source
      targetIntent := hfits.intent
      targetGeneration := hfits.generation
      targetLive := nofun
      startedAt := hfits.now
      updatedAt := hfits.now }

/-- What a begin makes of the checkpoint: a journal in one that has none, unless it throws. -/
inductive Begins (api : FingerprintApi) (session : Session) (c : OnboardCheckpoint)
    (input : BeginSandboxRecreateTransactionInput) : OnboardCheckpoint → Prop where
  | resumed (h : c.sandboxRecreate ≠ none) : Begins api session c input c
  | refused (h : ¬ (input.observation.state = .missing ∨
      truthy input.observation.liveIdentityFingerprint)) : Begins api session c input c
  | unregistered (h : input.sourceEntry = none) : Begins api session c input c
  | opened (entry : SandboxEntry) (hnone : c.sandboxRecreate = none)
    (hlive : input.observation.state = .missing ∨
      truthy input.observation.liveIdentityFingerprint)
    (hentry : input.sourceEntry = some entry) :
    Begins api session c input (begun api session c input entry)

lemma written_begins (session : Session) (input : BeginSandboxRecreateTransactionInput) :
    Begins api session c input (written env api c (session, .begin input)) := by
  have hends : (JournalOp.perform env api (.begin input)).Ends
      { session with checkpoint := some c }
      (fun _ s' => Begins api session c input (baseCheckpoint env s')) := by
    refine Call.ends_discard ?_
    refine Call.ends_get_bind ?_
    cases hactive : activeTransaction env { session with checkpoint := some c } with
    | some existing =>
      have hsome : c.sandboxRecreate ≠ none := by
        rw [show c.sandboxRecreate = some existing from hactive]
        exact some_ne_none existing
      refine Call.ends_ofExcept_bind (fun _ _ => ?_) fun _ _ => .resumed hsome
      exact Call.ends_pure (.resumed hsome)
    | none =>
      refine Call.ends_ofExcept_bind (fun _ hlive => ?_) fun e he => ?_
      · cases hentry : input.sourceEntry with
        | none => exact Call.ends_throw (.unregistered hentry)
        | some entry =>
          refine Call.ends_set_bind (Call.ends_pure ?_)
          exact .opened entry hactive (require_eq_ok hlive) hentry
      · exact .refused (require_eq_error he)
  exact hends

theorem written_kept_iff (hsha : ∀ text, isSha256 (api.sha256 text)) (h : c.Kept env.urls)
    (step : Session × CheckpointWrite) :
    (written env api c step).Kept env.urls ↔ step.2.Meets c := by
  obtain ⟨session, write⟩ := step
  cases write with
  | record now op =>
    have hstamp := h.stamp session now
    cases op with
    | sandboxIdentity name agent => exact identity_kept_iff hstamp
    | effectGroup group fingerprint => exact effectGroup_kept_iff hstamp now
    | webSearch config => exact webSearch_kept_iff hstamp
    | messaging plan => exact ⟨fun _ => trivial, fun _ => ⟨{ hstamp.wellFormed with }, h.webSearch⟩⟩
    | resourceProfile profile =>
      exact ⟨fun _ => trivial, fun _ => ⟨{ hstamp.wellFormed with }, h.webSearch⟩⟩
    | providerEffectGroup group providers =>
      refine ⟨fun _ => trivial, fun _ => ?_⟩
      exact recordWith_kept (fun c c' => withProviderEffectGroup_change) session h
    | providerEffectGroups search channels =>
      refine ⟨fun _ => trivial, fun _ => ?_⟩
      exact recordWith_kept (fun c c' => withProviderEffectGroups_change) session h
  | begin input =>
    have hbegins : Begins api session c input (written env api c (session, .begin input)) :=
      written_begins session input
    -- A begin that opens no journal leaves the checkpoint as it was.
    generalize written env api c (session, .begin input) = next at hbegins
    cases hbegins with
    | resumed hsome => exact ⟨fun _ hnone => absurd hnone hsome, fun _ => h⟩
    | refused hrefused => exact ⟨fun _ _ hlive => absurd hlive hrefused, fun _ => h⟩
    | unregistered hentry =>
      refine ⟨fun _ _ _ entry hsome => ?_, fun _ => h⟩
      rw [hentry] at hsome; cases hsome
    | opened entry hnone hlive hentry =>
      rw [begun_kept_iff hsha h]
      constructor
      · intro hfits _ _ entry' hentry'
        rw [← some.inj (hentry.symm.trans hentry')]; exact hfits
      · intro hmeets; exact hmeets hnone hlive entry hentry

/-- After every part of a run the checkpoint loads as itself, exactly if every write meets the
parser's checks. -/
theorem checkpointRun_loadsAsIs_iff (hsha : ∀ text, isSha256 (api.sha256 text))
    (h : Parsed env.urls c) (steps : List (Session × CheckpointWrite)) :
    (∀ part, part <+: steps → LoadsAsIs env.urls (checkpointRun env api part c)) ↔
      AllMeet env api steps c := by
  have hkept := h.kept
  clear h
  simp only [loadsAsIs_iff]
  induction steps generalizing c with
  | nil =>
    refine ⟨fun _ => trivial, fun _ part hpart => ?_⟩
    rw [prefix_nil.mp hpart]; exact hkept
  | cons step rest ih =>
    constructor
    · intro hrun
      have hfirst : (written env api c step).Kept env.urls :=
        hrun [step] (prefix_append [step] rest)
      refine ⟨(written_kept_iff hsha hkept step).mp hfirst, (ih hfirst).mp fun part hpart => ?_⟩
      exact hrun (step :: part) (cons_prefix_cons.mpr ⟨rfl, hpart⟩)
    · rintro ⟨hmeets, hrest⟩ part hpart
      have hfirst := (written_kept_iff hsha hkept step).mpr hmeets
      cases part with
      | nil => exact hkept
      | cons first part =>
        obtain ⟨rfl, hpart'⟩ := cons_prefix_cons.mp hpart
        exact (ih hfirst).mpr hrest part hpart'

end Write

/-- `cloneSandboxWorkloadReceipt` on the receipt of an image built from a Dockerfile. -/
def cloneLegacyReceipt (value : Json) : Option Json := do
  let v ← readObject (some value)
  guard (readNat (v.get? "schemaVersion") = some 1)
  guard (readString (v.get? "kind") = some "legacy-dockerfile")
  guard (readBool (v.get? "shared") = some false)
  let reference ← v.get? "reference"
  guard (isNull (some reference) ∨
    (readString (some reference)).any (fun r => jsTrim r ≠ ""))
  return .obj [("schemaVersion", ofNat 1), ("kind", .str "legacy-dockerfile"),
    ("reference", reference), ("shared", .bool false)]

def receiptRows : RowFieldApi where
  cloneSandboxMessagingState := .ok
  serializeSandboxMessagingStateForDisk := .ok
  cloneSandboxWorkloadReceipt := fun value => .ok (value.bind cloneLegacyReceipt)
  normalizeSandboxMcpState := .ok
  serializeSandboxMcpStateForDisk := .ok
  normalizeBaselineExclusions := .ok
  normalizeBaselineExclusionTransition := .ok
  normalizeCustomPolicyEntries := .ok

/-- A sandbox of the image `openshell/sandbox-from:old` whose receipt names `reference`. -/
def imageRow (reference : String) : SandboxEntry :=
  [("name", .str "my-assistant"), ("imageTag", .str "openshell/sandbox-from:old"),
    ("openshellDriver", .str "docker"),
    ("workload", .obj [("schemaVersion", ofNat 1), ("kind", .str "legacy-dockerfile"),
      ("reference", .str reference), ("shared", .bool false)])]

def imageRowText (reference : String) : String :=
  "\x7b\"imageTag\":\"openshell/sandbox-from:old\",\"name\":\"my-assistant\"," ++
    "\"openshellDriver\":\"docker\",\"workload\":\x7b\"kind\":\"legacy-dockerfile\"," ++
    "\"reference\":\"" ++ reference ++ "\",\"schemaVersion\":1,\"shared\":false\x7d\x7d"

/-- The library on the two rows below. -/
def imageApi (reference : String) : FingerprintApi where
  localeLe := fun a b => decide (a ≤ b)
  stringify := fun _ => imageRowText reference
  sha256 := fun text =>
    if text = imageRowText "openshell/sandbox-from:old" then
      "88a1571f305f5052ce58af6c2ee80cc0c26745de0efc3311921e9115bb764d86"
    else "1558d0b615a1e1172c9a42e7a604cdbca6cb5b1fdd83762df571743185afe348"

def imageBegin (reference : String) : BeginSandboxRecreateTransactionInput :=
  { plainBegin with
    sourceEntry := some (imageRow reference)
    id := "0b9f6a52-5f0c-4c0e-9d0e-3f6f0a6c1d2e"
    targetGeneration := "7c1de0a4-32b8-4a7e-8f55-90a1b2c3d4e5" }

/-- The sandbox and the gateway are selected, and no journal is open. -/
def selectedCheckpoint : OnboardCheckpoint :=
  { journaledCheckpoint with sandboxRecreate := none }

lemma selectedCheckpoint_kept : selectedCheckpoint.Kept plainEnv.urls :=
  ⟨{ journaledCheckpoint_wellFormed with journal := fun t ht => by cases ht }, trivial⟩

lemma selectedCheckpoint_parsed : Parsed plainEnv.urls selectedCheckpoint :=
  ⟨_, .inl (loadsAsIs_iff.mpr selectedCheckpoint_kept)⟩

lemma imageApi_sha256 (reference text : String) :
    isSha256 ((imageApi reference).sha256 text) := by
  unfold imageApi
  simp only
  split
  all_goals decide +kernel

lemma imageBegin_fits :
    BeginFits selectedCheckpoint (imageBegin "openshell/sandbox-from:old")
      (imageRow "openshell/sandbox-from:old") where
  identity := ⟨_, rfl, rfl⟩
  gateway := ⟨_, rfl, rfl, rfl⟩
  source := fun imageTag himage => by
    obtain rfl : "openshell/sandbox-from:old" = imageTag := some.inj himage
    refine ⟨by decide +kernel, fun s hs => ?_, fun r hr => (some.inj hr).symm⟩
    rw [← some.inj hs]
    decide +kernel
  live := fun s hs => by
    rw [← some.inj hs]
    decide +kernel
  intent := by decide +kernel
  id := by decide +kernel
  generation := by decide +kernel
  now := newYear.property

/-- A begin on a row whose receipt names its image loads as it is. -/
theorem checkpointRun_loadsAsIs_image :
    LoadsAsIs plainEnv.urls (checkpointRun plainEnv (imageApi "openshell/sandbox-from:old")
      [(plainSession, .begin (imageBegin "openshell/sandbox-from:old"))] selectedCheckpoint) := by
  have hmeets : AllMeet plainEnv (imageApi "openshell/sandbox-from:old")
      [(plainSession, .begin (imageBegin "openshell/sandbox-from:old"))] selectedCheckpoint := by
    refine ⟨fun _ _ entry hentry => ?_, trivial⟩
    rw [← some.inj hentry]; exact imageBegin_fits
  exact (checkpointRun_loadsAsIs_iff (imageApi_sha256 _) selectedCheckpoint_parsed _).mpr hmeets _
    (prefix_refl _)

/-- The registry accepts a row whose receipt names another image than its own, and a begin on
it writes a checkpoint that does not load. -/
theorem checkpointRun_mismatch :
    Parsed plainEnv.urls selectedCheckpoint ∧
      normalizeSandboxEntryForRuntime receiptRows (imageRow "openshell/sandbox-from:different") =
        .ok (imageRow "openshell/sandbox-from:different") ∧
      ¬ LoadsAsIs plainEnv.urls
        (checkpointRun plainEnv (imageApi "openshell/sandbox-from:different")
          [(plainSession, .begin (imageBegin "openshell/sandbox-from:different"))]
          selectedCheckpoint) := by
  refine ⟨selectedCheckpoint_parsed, rfl, fun hloads => ?_⟩
  have hmeets := (written_kept_iff (imageApi_sha256 "openshell/sandbox-from:different")
    selectedCheckpoint_kept (plainSession, .begin (imageBegin "openshell/sandbox-from:different"))).mp
    (loadsAsIs_iff.mp hloads)
  have hfits := (hmeets rfl (.inr rfl) _ rfl).source "openshell/sandbox-from:old" rfl
  exact absurd (hfits.reference "openshell/sandbox-from:different" rfl) (by decide)

end NemoClaw.Onboard
