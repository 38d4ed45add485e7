import NemoClaw.Onboard.Checkpoint

/- The serialised form of a checkpoint and its round trip through the parser.

A checkpoint is well formed when every part of it passes the check the parser
makes on that part and the journal, if there is one, belongs to the selected
sandbox and gateway. What is proved:
  1. `parseSchema_wellFormed` — whatever the parser accepts is well formed.
  2. `parseStoredCheckpoint_serialize` — a well-formed checkpoint that is saved
     and parsed again comes back as it was, a missing web-search provider
     filled in.
Each part has the two lemmas `parse…_toJson` and `parse…_wellFormed` of the
same shape.
-/
namespace NemoClaw.Onboard

open Js Js.Json Option

/-! ## Writers -/

def CheckpointDecision.toJson {α : Type} (f : α → Json) : CheckpointDecision α → Json
  | .unset => .obj [("kind", .str "unset")]
  | .declined => .obj [("kind", .str "declined")]
  | .selected v => .obj [("kind", .str "selected"), ("value", f v)]

def CheckpointSandboxIdentity.toJson (i : CheckpointSandboxIdentity) : Json :=
  .obj [("name", .str i.name), ("agent", .str i.agent)]

def WebSearchConfig.toJson (c : WebSearchConfig) : Json :=
  .obj ([("fetchEnabled", .bool c.fetchEnabled)] ++
    optField "provider" (c.provider.map fun p => .str p.id))

def CheckpointMessagingSelection.toJson (m : CheckpointMessagingSelection) : Json :=
  .obj [("selectedChannels", ofStrings m.selectedChannels),
    ("disabledChannels", ofStrings m.disabledChannels)]

def CheckpointResourceProfile.toJson (r : CheckpointResourceProfile) : Json :=
  .obj [("cpu", .str r.cpu), ("memory", .str r.memory)]

def CheckpointEffectGroupRecord.toJson (r : CheckpointEffectGroupRecord) : Json :=
  .obj [("completedAt", .str r.completedAt), ("fingerprint", .str r.fingerprint)]

def effectGroupsToJson
    (groups : CheckpointEffectGroupName → Option CheckpointEffectGroupRecord) : Json :=
  .obj ([.webSearchProvider, .messagingProviders, .sandboxCreate, .sandboxRegister].flatMap
    fun g => optField g.key ((groups g).map CheckpointEffectGroupRecord.toJson))

def CheckpointProviderBinding.toJson (b : CheckpointProviderBinding) : Json :=
  .obj [("name", .str b.name), ("type", .str b.type), ("credentialEnv", .str b.credentialEnv)]

def CheckpointBindings.toJson (b : CheckpointBindings) : Json :=
  .obj [("credentialEnvs", ofStrings b.credentialEnvs),
    ("registeredProviders", .arr (b.registeredProviders.map CheckpointProviderBinding.toJson))]

def CheckpointGatewaySupervisor.toJson (s : CheckpointGatewaySupervisor) : Json :=
  .obj [("kind", .str s.kind.id), ("serviceName", .str s.serviceName),
    ("execPath", .str s.execPath)]

def CheckpointGatewayAuthority.toJson (a : CheckpointGatewayAuthority) : Json :=
  .obj [("gatewayName", .str a.gatewayName), ("gatewayPort", ofNat a.gatewayPort),
    ("mode", .str a.mode.id), ("source", .str a.source.id),
    ("endpoint", ofString? a.endpoint), ("stateDir", ofString? a.stateDir),
    ("supervisor", ofOption CheckpointGatewaySupervisor.toJson a.supervisor),
    ("requiredCapabilities", ofStrings a.requiredCapabilities)]

def CheckpointSandboxRecreateWorkload.toJson (w : CheckpointSandboxRecreateWorkload) : Json :=
  .obj [("kind", .str "legacy-dockerfile"), ("reference", ofString? w.reference),
    ("shared", .bool w.shared)]

def CheckpointSandboxRecreateSourceWorkload.toJson
    (w : CheckpointSandboxRecreateSourceWorkload) : Json :=
  .obj [("openshellDriver", ofString? w.openshellDriver), ("imageTag", .str w.imageTag),
    ("workload", ofOption CheckpointSandboxRecreateWorkload.toJson w.workload)]

def CheckpointSandboxRecreateTransaction.toJson
    (t : CheckpointSandboxRecreateTransaction) : Json :=
  .obj [("version", ofNat 1), ("id", .str t.id), ("revision", ofNat t.revision),
    ("sandboxName", .str t.sandboxName), ("gatewayName", .str t.gatewayName),
    ("gatewayPort", ofNat t.gatewayPort),
    ("sourceRegistryFingerprint", .str t.sourceRegistryFingerprint),
    ("sourceLiveIdentityFingerprint", ofString? t.sourceLiveIdentityFingerprint),
    ("sourceWorkload",
      ofOption CheckpointSandboxRecreateSourceWorkload.toJson t.sourceWorkload),
    ("targetIntentFingerprint", .str t.targetIntentFingerprint),
    ("targetGeneration", .str t.targetGeneration),
    ("targetLiveIdentityFingerprint", ofString? t.targetLiveIdentityFingerprint),
    ("phase", .str t.phase.id), ("startedAt", .str t.startedAt), ("updatedAt", .str t.updatedAt)]

def serializeCheckpoint (c : OnboardCheckpoint) : Json :=
  .obj [("schemaVersion", ofNat checkpointSchemaVersion), ("sessionId", .str c.sessionId),
    ("machineState", .str c.machineState.id), ("updatedAt", .str c.updatedAt),
    ("sandboxIdentity", c.sandboxIdentity.toJson CheckpointSandboxIdentity.toJson),
    ("webSearch", c.webSearch.toJson WebSearchConfig.toJson),
    ("messaging", c.messaging.toJson CheckpointMessagingSelection.toJson),
    ("resourceProfile", c.resourceProfile.toJson CheckpointResourceProfile.toJson),
    ("gatewayAuthority", c.gatewayAuthority.toJson CheckpointGatewayAuthority.toJson),
    ("effectGroups", effectGroupsToJson c.effectGroups), ("bindings", c.bindings.toJson),
    ("sandboxRecreate",
      ofOption CheckpointSandboxRecreateTransaction.toJson c.sandboxRecreate)]

/-- The predicate holds of the value selected, if one is. -/
def CheckpointDecision.All {α : Type} (P : α → Prop) : CheckpointDecision α → Prop
  | .selected v => P v
  | _ => True

def CheckpointSandboxIdentity.WellFormed (i : CheckpointSandboxIdentity) : Prop :=
  i.agent ≠ "" ∧ isValidSandboxName i.name

def WebSearchConfig.WellFormed (c : WebSearchConfig) : Prop := c.fetchEnabled

def CheckpointEffectGroupRecord.WellFormed (r : CheckpointEffectGroupRecord) : Prop :=
  isCanonicalIsoTimestamp r.completedAt ∧ r.fingerprint ≠ ""

def CheckpointProviderBinding.WellFormed (b : CheckpointProviderBinding) : Prop :=
  b.name ≠ "" ∧ b.type ≠ "" ∧ b.credentialEnv ≠ ""

def CheckpointGatewaySupervisor.WellFormed (s : CheckpointGatewaySupervisor) : Prop :=
  isServiceName s.serviceName ∧ isAbsolutePath s.execPath

/-- An endpoint in the form the parser leaves it: the origin of an acceptable
loopback URL on the gateway's port. -/
def CanonicalEndpoint (urls : UrlApi) (port : Nat) (endpoint : String) : Prop :=
  ∃ u, urls.parse endpoint = some u ∧ isLoopbackEndpoint u ∧
    endpointPort u = some port ∧ u.origin = endpoint ∧ endpoint ≠ ""

/-- What a gateway authority must hold beside its common fields, by mode. -/
def CheckpointGatewayAuthority.ModeWellFormed (urls : UrlApi) (a : CheckpointGatewayAuthority) :
    Prop :=
  match a.mode with
  | .nemoclawManaged => a.endpoint = none ∧ a.stateDir = none ∧ a.supervisor = none
  | .externallySupervised =>
    a.source = .declared ∧
    (∃ e, a.endpoint = some e ∧ CanonicalEndpoint urls a.gatewayPort e) ∧
    (∃ d, a.stateDir = some d ∧ isAbsolutePath d) ∧
    ∃ s, a.supervisor = some s ∧ s.WellFormed

def IsPort (n : Nat) : Prop := 1 ≤ n ∧ n ≤ 65535

structure CheckpointGatewayAuthority.WellFormed (urls : UrlApi) (a : CheckpointGatewayAuthority) :
    Prop where
  port : IsPort a.gatewayPort
  name : a.gatewayName = canonicalGatewayName a.gatewayPort
  capabilities : ∀ c ∈ a.requiredCapabilities, c ∈ supportedGatewayCapabilities
  mode : a.ModeWellFormed urls

structure CheckpointSandboxRecreateSourceWorkload.WellFormed
    (w : CheckpointSandboxRecreateSourceWorkload) : Prop where
  driver : NullOr (fun s => isBoundedJournalString 128 s && isDriverName s) w.openshellDriver
  imageTag : isBoundedJournalString 4096 w.imageTag
  reference : ∀ x, w.workload = some x → x.reference = none ∨ x.reference = some w.imageTag

structure CheckpointSandboxRecreateTransaction.WellFormed
    (t : CheckpointSandboxRecreateTransaction) : Prop where
  id : isUuid t.id
  revision : t.revision ≤ maxSafeInteger
  sandboxName : isValidSandboxName t.sandboxName
  port : IsPort t.gatewayPort
  gatewayName : t.gatewayName = canonicalGatewayName t.gatewayPort
  sourceRegistry : isSha256 t.sourceRegistryFingerprint
  sourceLive : NullOr isSha256 t.sourceLiveIdentityFingerprint
  sourceWorkload : ∀ w, t.sourceWorkload = some w → w.WellFormed
  targetIntent : isSha256 t.targetIntentFingerprint
  targetGeneration : isUuid t.targetGeneration
  targetLive : NullOr isSha256 t.targetLiveIdentityFingerprint
  startedAt : isCanonicalIsoTimestamp t.startedAt
  updatedAt : isCanonicalIsoTimestamp t.updatedAt

/-- A checkpoint every part of which passes the parser's check. -/
structure OnboardCheckpoint.WellFormed (urls : UrlApi) (c : OnboardCheckpoint) : Prop where
  updatedAt : isCanonicalIsoTimestamp c.updatedAt
  sandboxIdentity : c.sandboxIdentity.All CheckpointSandboxIdentity.WellFormed
  webSearch : c.webSearch.All WebSearchConfig.WellFormed
  gatewayAuthority : c.gatewayAuthority.All (CheckpointGatewayAuthority.WellFormed urls)
  effectGroups : ∀ g r, c.effectGroups g = some r → r.WellFormed
  bindings : ∀ b ∈ c.bindings.registeredProviders, b.WellFormed
  journal : ∀ t, c.sandboxRecreate = some t → t.WellFormed ∧ recreateMatches c t

/-! ## Reading back each part -/

lemma readCanonicalIsoTimestamp_str {s : String} (h : isCanonicalIsoTimestamp s) :
    readCanonicalIsoTimestamp (some (.str s)) = some s := by
  simp [readCanonicalIsoTimestamp, h]

variable {v : Option Json} {o : Option String} {α : Type} {i : CheckpointSandboxIdentity}
  {r : CheckpointEffectGroupRecord} {urls : UrlApi} {imageTag : String} {c : OnboardCheckpoint}
  {parse : Option Json → Option α} {d : CheckpointDecision α}

lemma readCanonicalIsoTimestamp_eq_some {s : String} (h : readCanonicalIsoTimestamp v = some s) :
    isCanonicalIsoTimestamp s := by
  simp only [readCanonicalIsoTimestamp, filter_eq_some_iff] at h; exact h.2

lemma readPort_ofNat {n : Nat} (h : IsPort n) : readPort (some (ofNat n)) = some n := by
  simp [readPort, h.1, h.2]

lemma readPort_eq_some {n : Nat} (h : readPort v = some n) : IsPort n := by
  simp only [readPort, filter_eq_some_iff, Bool.and_eq_true, decide_eq_true_eq] at h
  exact h.2

lemma readNullableSha256_ofString? (h : NullOr isSha256 o) :
    readNullableSha256 (some (ofString? o)) = some o := by
  cases o with
  | none => rfl
  | some s => simp [ofString?, readNullableSha256, h s rfl]

lemma readNullableSha256_eq_some (h : readNullableSha256 v = some o) : NullOr isSha256 o := by
  intro s hs
  subst hs
  unfold readNullableSha256 at h
  split at h
  · cases h
  · split at h
    · next hsha =>
      cases h; exact hsha
    · cases h
  · cases h

lemma parseCheckpointDecision_toJson {f : α → Json} {g : α → α}
    (h : d.All fun v => parse (some (f v)) = some (g v)) :
    parseCheckpointDecision parse (some (d.toJson f)) = some (d.map g) := by
  cases d with
  | unset => rfl
  | declined => rfl
  | selected v =>
  have hv : parse (some (f v)) = some (g v) := h
  refine parse_bind rfl (parse_bind rfl ?_)
  show (parse (some (f v))).map CheckpointDecision.selected = _
  rw [hv]; rfl

lemma parseCheckpointDecision_all {P : α → Prop} (hparse : ∀ v a, parse v = some a → P a)
    (h : parseCheckpointDecision parse v = some d) : d.All P := by
  obtain ⟨raw, -, h⟩ := parse_bind_inv h
  obtain ⟨kind, -, h⟩ := parse_bind_inv h
  split at h
  · cases h; trivial
  split at h
  · cases h; trivial
  split at h
  · obtain ⟨a, ha, rfl⟩ := map_eq_some_iff.mp h; exact hparse _ a ha
  · cases h

lemma parseSandboxIdentityValue_toJson (h : i.WellFormed) :
    parseSandboxIdentityValue (some i.toJson) = some i := by
  refine parse_bind rfl (parse_bind rfl (parse_bind rfl ?_))
  exact parse_guard h.1 (parse_guard h.2 rfl)

lemma parseSandboxIdentityValue_wellFormed (h : parseSandboxIdentityValue v = some i) :
    i.WellFormed := by
  obtain ⟨raw, -, h⟩ := parse_bind_inv h
  obtain ⟨name, -, h⟩ := parse_bind_inv h
  obtain ⟨agent, -, h⟩ := parse_bind_inv h
  obtain ⟨hagent, h⟩ := parse_guard_inv h
  obtain ⟨hname, h⟩ := parse_guard_inv h
  cases h; exact ⟨hagent, hname⟩

/-- The configuration as it is kept: a missing provider is Brave. -/
def WebSearchConfig.withProvider (c : WebSearchConfig) : WebSearchConfig :=
  { c with provider := some (c.provider.getD .brave) }

lemma normalizeWebSearchConfig_toJson {c : WebSearchConfig} (h : c.WellFormed) :
    normalizeWebSearchConfig (some c.toJson) = some c.withProvider := by
  obtain ⟨fetchEnabled, provider⟩ := c
  obtain rfl : fetchEnabled := h
  refine parse_bind rfl (parse_guard rfl ?_)
  cases provider with
  | none => rfl
  | some p => cases p <;> rfl

lemma normalizeWebSearchConfig_wellFormed {c : WebSearchConfig}
    (h : normalizeWebSearchConfig v = some c) : c.WellFormed := by
  obtain ⟨raw, -, h⟩ := parse_bind_inv h
  obtain ⟨-, h⟩ := parse_guard_inv h
  split at h
  · cases h; rfl
  · obtain ⟨p, -, rfl⟩ := map_eq_some_iff.mp h; rfl

lemma parseMessagingValue_toJson (m : CheckpointMessagingSelection) :
    parseMessagingValue (some m.toJson) = some m := by
  refine parse_bind rfl ?_
  refine parse_bind (readAllStrings_ofStrings m.selectedChannels) ?_
  exact parse_bind (readAllStrings_ofStrings m.disabledChannels) rfl

lemma parseResourceProfileValue_toJson (r : CheckpointResourceProfile) :
    parseResourceProfileValue (some r.toJson) = some r :=
  parse_bind rfl (parse_bind rfl (parse_bind rfl rfl))

lemma parseEffectGroupRecord_toJson (h : r.WellFormed) :
    parseEffectGroupRecord (some r.toJson) = some r := by
  refine parse_bind rfl ?_
  refine parse_bind (readCanonicalIsoTimestamp_str h.1) ?_
  exact parse_bind (readNonEmpty_str h.2) rfl

lemma parseEffectGroupRecord_wellFormed (h : parseEffectGroupRecord v = some r) :
    r.WellFormed := by
  obtain ⟨raw, -, h⟩ := parse_bind_inv h
  obtain ⟨completedAt, hat, h⟩ := parse_bind_inv h
  obtain ⟨fingerprint, hfp, h⟩ := parse_bind_inv h
  cases h; exact ⟨readCanonicalIsoTimestamp_eq_some hat, (readNonEmpty_eq_some hfp).2⟩

lemma effectGroupsToJson_get?
    (groups : CheckpointEffectGroupName → Option CheckpointEffectGroupRecord)
    (g : CheckpointEffectGroupName) :
    (effectGroupsToJson groups).get? g.key =
      (groups g).map CheckpointEffectGroupRecord.toJson := by
  simp only [effectGroupsToJson, get?_obj, List.flatMap_cons, List.flatMap_nil,
    lookup_optField_append]
  cases g <;> simp [CheckpointEffectGroupName.key]

lemma parseEffectGroup_toJson
    {groups : CheckpointEffectGroupName → Option CheckpointEffectGroupRecord}
    (h : ∀ g r, groups g = some r → r.WellFormed) (g : CheckpointEffectGroupName) :
    parseEffectGroup (effectGroupsToJson groups) g = some (groups g) := by
  unfold parseEffectGroup
  rw [effectGroupsToJson_get?]
  cases hg : groups g with
  | none => rfl
  | some r =>
    show (parseEffectGroupRecord (some r.toJson)).map some = _
    rw [parseEffectGroupRecord_toJson (h g r hg)]; rfl

lemma parseEffectGroups_toJson
    {groups : CheckpointEffectGroupName → Option CheckpointEffectGroupRecord}
    (h : ∀ g r, groups g = some r → r.WellFormed) :
    parseEffectGroups (some (effectGroupsToJson groups)) = some groups := by
  have hread := parseEffectGroup_toJson h
  refine parse_bind rfl ?_
  refine parse_bind (hread .webSearchProvider) (parse_bind (hread .messagingProviders) ?_)
  refine parse_bind (hread .sandboxCreate) (parse_bind (hread .sandboxRegister) ?_)
  refine congrArg some (funext fun g => ?_)
  cases g <;> rfl

lemma parseEffectGroup_wellFormed {v : Json} {g : CheckpointEffectGroupName}
    (h : parseEffectGroup v g = some (some r)) : r.WellFormed := by
  unfold parseEffectGroup at h
  split at h
  · cases h
  · obtain ⟨r', hr, hrr⟩ := map_eq_some_iff.mp h
    cases hrr; exact parseEffectGroupRecord_wellFormed hr

lemma parseEffectGroups_wellFormed
    {groups : CheckpointEffectGroupName → Option CheckpointEffectGroupRecord}
    (h : parseEffectGroups v = some groups) (g : CheckpointEffectGroupName)
    (r : CheckpointEffectGroupRecord) (hr : groups g = some r) : r.WellFormed := by
  obtain ⟨raw, -, h⟩ := parse_bind_inv h
  obtain ⟨a, ha, h⟩ := parse_bind_inv h
  obtain ⟨b, hb, h⟩ := parse_bind_inv h
  obtain ⟨c, hc, h⟩ := parse_bind_inv h
  obtain ⟨d, hd, h⟩ := parse_bind_inv h
  cases h
  cases g with
  | webSearchProvider => exact parseEffectGroup_wellFormed (ha.trans (congrArg some hr))
  | messagingProviders => exact parseEffectGroup_wellFormed (hb.trans (congrArg some hr))
  | sandboxCreate => exact parseEffectGroup_wellFormed (hc.trans (congrArg some hr))
  | sandboxRegister => exact parseEffectGroup_wellFormed (hd.trans (congrArg some hr))

lemma parseProviderBinding_toJson {b : CheckpointProviderBinding} (h : b.WellFormed) :
    parseProviderBinding (some b.toJson) = some b := by
  obtain ⟨hname, htype, henv⟩ := h
  refine parse_bind rfl ?_
  refine parse_bind (readNonEmpty_str hname) ?_
  exact parse_bind (readNonEmpty_str htype) (parse_bind (readNonEmpty_str henv) rfl)

lemma parseProviderBinding_wellFormed {b : CheckpointProviderBinding}
    (h : parseProviderBinding v = some b) : b.WellFormed := by
  obtain ⟨raw, -, h⟩ := parse_bind_inv h
  obtain ⟨name, hname, h⟩ := parse_bind_inv h
  obtain ⟨type, htype, h⟩ := parse_bind_inv h
  obtain ⟨env, henv, h⟩ := parse_bind_inv h
  cases h
  exact ⟨(readNonEmpty_eq_some hname).2, (readNonEmpty_eq_some htype).2,
    (readNonEmpty_eq_some henv).2⟩

lemma parseBindings_toJson {b : CheckpointBindings}
    (h : ∀ p ∈ b.registeredProviders, p.WellFormed) :
    parseBindings (some b.toJson) = some b := by
  have hproviders : parseProviderBindings
      (some (.arr (b.registeredProviders.map CheckpointProviderBinding.toJson))) =
      some b.registeredProviders :=
    mapM_map_of_forall fun p hp => parseProviderBinding_toJson (h p hp)
  refine parse_bind rfl ?_
  refine parse_bind (readAllStrings_ofStrings b.credentialEnvs) ?_
  exact parse_bind hproviders rfl

lemma parseBindings_wellFormed {b : CheckpointBindings} (h : parseBindings v = some b) :
    ∀ p ∈ b.registeredProviders, p.WellFormed := by
  obtain ⟨raw, -, h⟩ := parse_bind_inv h
  obtain ⟨envs, -, h⟩ := parse_bind_inv h
  obtain ⟨providers, hproviders, h⟩ := parse_bind_inv h
  cases h
  unfold parseProviderBindings at hproviders
  split at hproviders
  · exact forall_of_mapM (fun x y hy => parseProviderBinding_wellFormed hy) hproviders
  · cases hproviders

lemma parseGatewaySupervisor_toJson {s : CheckpointGatewaySupervisor} (h : s.WellFormed) :
    parseGatewaySupervisor (some s.toJson) = some s := by
  have hkind : readGatewaySupervisorKind (some (.str s.kind.id)) = some s.kind := by
    cases s.kind <;> rfl
  refine parse_bind rfl (parse_bind hkind ?_)
  refine parse_bind rfl (parse_guard h.1 ?_)
  exact parse_bind rfl (parse_guard h.2 rfl)

lemma parseGatewaySupervisor_wellFormed {s : CheckpointGatewaySupervisor}
    (h : parseGatewaySupervisor v = some s) : s.WellFormed := by
  obtain ⟨raw, -, h⟩ := parse_bind_inv h
  obtain ⟨kind, -, h⟩ := parse_bind_inv h
  obtain ⟨name, -, h⟩ := parse_bind_inv h
  obtain ⟨hname, h⟩ := parse_guard_inv h
  obtain ⟨path, -, h⟩ := parse_bind_inv h
  obtain ⟨hpath, h⟩ := parse_guard_inv h
  cases h; exact ⟨hname, hpath⟩

lemma parseGatewayAuthorityValue_toJson {a : CheckpointGatewayAuthority} (h : a.WellFormed urls) :
    parseGatewayAuthorityValue urls (some a.toJson) = some a := by
  obtain ⟨name, port, mode, source, endpoint, stateDir, supervisor, caps⟩ := a
  obtain ⟨hport, hname, hcaps, hmode⟩ := h
  have hm : readGatewayMode (some (.str mode.id)) = some mode := by cases mode <;> rfl
  have hs : readGatewaySource (some (.str source.id)) = some source := by cases source <;> rfl
  refine parse_bind rfl (parse_bind rfl ?_)
  refine parse_bind (readPort_ofNat hport) (parse_guard hname ?_)
  refine parse_bind hm (parse_bind hs ?_)
  refine parse_bind (readAllStrings_ofStrings caps) (parse_guard hcaps ?_)
  cases mode with
  | nemoclawManaged =>
    obtain ⟨rfl, rfl, rfl⟩ := hmode
    exact parse_guard rfl (parse_guard rfl (parse_guard rfl rfl))
  | externallySupervised =>
    obtain ⟨hsource, ⟨e, rfl, u, hu, hloop, hportu, horigin, hne⟩, ⟨d, rfl, hd⟩, s, rfl, hsup⟩ :=
      hmode
    subst horigin
    refine parse_guard hsource (parse_bind (readNonEmpty_str hne) ?_)
    refine parse_bind rfl (parse_guard hd (parse_bind hu ?_))
    refine parse_guard hloop (parse_guard hportu ?_)
    exact parse_bind (parseGatewaySupervisor_toJson hsup) rfl

lemma canonicalEndpoint_origin {e : String} {u : Url} {port : Nat} (hu : urls.parse e = some u)
    (hloop : isLoopbackEndpoint u) (hport : endpointPort u = some port) :
    CanonicalEndpoint urls port u.origin := by
  have hhttp : u.isHttp := by
    simp only [isLoopbackEndpoint, Bool.and_eq_true] at hloop; exact hloop.1.1.1.1.1.1
  have hparse := urls.parse_origin hu hhttp
  refine ⟨_, hparse, ?_, hport, rfl, ?_⟩
  · simp only [isLoopbackEndpoint, Url.isHttp, Bool.and_eq_true] at hloop ⊢
    refine ⟨⟨⟨⟨⟨⟨hloop.1.1.1.1.1.1, hloop.1.1.1.1.1.2⟩, rfl⟩, rfl⟩, rfl⟩, rfl⟩, rfl⟩
  · intro hempty
    rw [hempty, urls.parse_empty] at hparse; cases hparse

lemma parseGatewayAuthorityValue_wellFormed {a : CheckpointGatewayAuthority}
    (h : parseGatewayAuthorityValue urls v = some a) : a.WellFormed urls := by
  obtain ⟨raw, -, h⟩ := parse_bind_inv h
  obtain ⟨name, -, h⟩ := parse_bind_inv h
  obtain ⟨port, hport, h⟩ := parse_bind_inv h
  obtain ⟨hname, h⟩ := parse_guard_inv h
  obtain ⟨mode, -, h⟩ := parse_bind_inv h
  obtain ⟨source, -, h⟩ := parse_bind_inv h
  obtain ⟨caps, -, h⟩ := parse_bind_inv h
  obtain ⟨hcaps, h⟩ := parse_guard_inv h
  cases mode with
  | nemoclawManaged =>
    obtain ⟨-, h⟩ := parse_guard_inv h
    obtain ⟨-, h⟩ := parse_guard_inv h
    obtain ⟨-, h⟩ := parse_guard_inv h
    cases h; exact ⟨readPort_eq_some hport, hname, hcaps, rfl, rfl, rfl⟩
  | externallySupervised =>
    obtain ⟨hsource, h⟩ := parse_guard_inv h
    obtain ⟨e, -, h⟩ := parse_bind_inv h
    obtain ⟨d, -, h⟩ := parse_bind_inv h
    obtain ⟨hd, h⟩ := parse_guard_inv h
    obtain ⟨u, hu, h⟩ := parse_bind_inv h
    obtain ⟨hloop, h⟩ := parse_guard_inv h
    obtain ⟨hportu, h⟩ := parse_guard_inv h
    obtain ⟨s, hs, h⟩ := parse_bind_inv h
    cases h
    exact ⟨readPort_eq_some hport, hname, hcaps, hsource,
      ⟨u.origin, rfl, canonicalEndpoint_origin hu hloop hportu⟩, ⟨d, rfl, hd⟩,
      s, rfl, parseGatewaySupervisor_wellFormed hs⟩

/-! ## The recreate journal -/

lemma readBoundedJournalString_str {n : Nat} {s : String}
    (h : isBoundedJournalString n s) :
    readBoundedJournalString (some (.str s)) n = some s := by
  simp [readBoundedJournalString, h]

lemma readBoundedJournalString_eq_some {n : Nat} {s : String}
    (h : readBoundedJournalString v n = some s) : isBoundedJournalString n s := by
  simp only [readBoundedJournalString, filter_eq_some_iff] at h; exact h.2

lemma readOpenshellDriver_ofString?
    (h : NullOr (fun s => isBoundedJournalString 128 s && isDriverName s) o) :
    readOpenshellDriver (some (ofString? o)) = some o := by
  cases o with
  | none => rfl
  | some s =>
    have hs := h s rfl
    simp only [Bool.and_eq_true] at hs
    simp [ofString?, readOpenshellDriver, readBoundedJournalString_str hs.1, hs.2]

lemma readOpenshellDriver_eq_some (h : readOpenshellDriver v = some o) :
    NullOr (fun s => isBoundedJournalString 128 s && isDriverName s) o := by
  intro s hs
  subst hs
  unfold readOpenshellDriver at h
  split at h
  · cases h
  obtain ⟨s', hread, h⟩ := bind_eq_some_iff.mp h
  split at h
  · next hdriver =>
    cases h; simp [readBoundedJournalString_eq_some hread, hdriver]
  · cases h

lemma readWorkloadReference_ofString? (htag : isBoundedJournalString 4096 imageTag)
    (h : o = none ∨ o = some imageTag) :
    readWorkloadReference imageTag (some (ofString? o)) = some o := by
  rcases h with rfl | rfl
  · rfl
  · simp [ofString?, readWorkloadReference, readBoundedJournalString_str htag]

lemma readWorkloadReference_eq_some (h : readWorkloadReference imageTag v = some o) :
    o = none ∨ o = some imageTag := by
  unfold readWorkloadReference at h
  split at h
  · exact .inl (some.inj h).symm
  obtain ⟨s, -, h⟩ := bind_eq_some_iff.mp h
  split at h
  · next hs => exact .inr (by rw [← some.inj h, hs])
  · cases h

lemma parseRecreateWorkload_toJson {o : Option CheckpointSandboxRecreateWorkload}
    (htag : isBoundedJournalString 4096 imageTag)
    (h : ∀ x, o = some x → x.reference = none ∨ x.reference = some imageTag) :
    parseRecreateWorkload imageTag
      (some (ofOption CheckpointSandboxRecreateWorkload.toJson o)) = some o := by
  cases o with
  | none => rfl
  | some x =>
    refine parse_bind rfl (parse_guard rfl (parse_bind rfl ?_))
    exact parse_bind (readWorkloadReference_ofString? htag (h x rfl)) rfl

lemma parseRecreateWorkload_eq_some {o : Option CheckpointSandboxRecreateWorkload}
    (h : parseRecreateWorkload imageTag v = some o) (x : CheckpointSandboxRecreateWorkload)
    (hx : o = some x) : x.reference = none ∨ x.reference = some imageTag := by
  subst hx
  unfold parseRecreateWorkload at h
  split at h
  · cases h
  obtain ⟨raw, -, h⟩ := parse_bind_inv h
  obtain ⟨-, h⟩ := parse_guard_inv h
  obtain ⟨shared, -, h⟩ := parse_bind_inv h
  obtain ⟨reference, href, h⟩ := parse_bind_inv h
  cases h; exact readWorkloadReference_eq_some href

lemma parseSandboxRecreateSourceWorkload_toJson
    {o : Option CheckpointSandboxRecreateSourceWorkload} (h : ∀ w, o = some w → w.WellFormed) :
    parseSandboxRecreateSourceWorkload
      (some (ofOption CheckpointSandboxRecreateSourceWorkload.toJson o)) = some o := by
  cases o with
  | none => rfl
  | some w =>
  obtain ⟨hdriver, htag, href⟩ := h w rfl
  refine parse_bind rfl (parse_bind (readOpenshellDriver_ofString? hdriver) ?_)
  refine parse_bind (readBoundedJournalString_str htag) ?_
  exact parse_bind (parseRecreateWorkload_toJson htag href) rfl

lemma parseSandboxRecreateSourceWorkload_wellFormed
    {o : Option CheckpointSandboxRecreateSourceWorkload}
    (h : parseSandboxRecreateSourceWorkload v = some o)
    (w : CheckpointSandboxRecreateSourceWorkload) (hw : o = some w) : w.WellFormed := by
  subst hw
  unfold parseSandboxRecreateSourceWorkload at h
  split at h
  · cases h
  · cases h
  obtain ⟨raw, -, h⟩ := parse_bind_inv h
  obtain ⟨driver, hdriver, h⟩ := parse_bind_inv h
  obtain ⟨tag, htag, h⟩ := parse_bind_inv h
  obtain ⟨workload, hworkload, h⟩ := parse_bind_inv h
  cases h
  exact ⟨readOpenshellDriver_eq_some hdriver, readBoundedJournalString_eq_some htag,
    parseRecreateWorkload_eq_some hworkload⟩

lemma readSandboxRecreatePhase_id (p : CheckpointSandboxRecreatePhase) :
    readSandboxRecreatePhase (some (.str p.id)) = some p := by
  cases p <;> rfl

lemma parseSandboxRecreateTransaction_toJson {t : CheckpointSandboxRecreateTransaction}
    (h : t.WellFormed) : parseSandboxRecreateTransaction (some t.toJson) = some t := by
  refine parse_bind rfl (parse_guard (readNat_ofNat 1) ?_)
  refine parse_bind rfl (parse_guard h.id ?_)
  refine parse_bind rfl (parse_guard h.sandboxName ?_)
  refine parse_bind rfl (parse_bind (readPort_ofNat h.port) (parse_guard h.gatewayName ?_))
  refine parse_bind rfl (parse_guard h.sourceRegistry ?_)
  refine parse_bind (readNullableSha256_ofString? h.sourceLive) ?_
  refine parse_bind (parseSandboxRecreateSourceWorkload_toJson h.sourceWorkload) ?_
  refine parse_bind rfl (parse_guard h.targetIntent ?_)
  refine parse_bind rfl (parse_guard h.targetGeneration ?_)
  refine parse_bind (readNullableSha256_ofString? h.targetLive) ?_
  refine parse_bind (readSandboxRecreatePhase_id t.phase) ?_
  refine parse_bind (readSafeNat_ofNat h.revision) ?_
  refine parse_bind (readCanonicalIsoTimestamp_str h.startedAt) ?_
  exact parse_bind (readCanonicalIsoTimestamp_str h.updatedAt) rfl

lemma parseSandboxRecreateTransaction_wellFormed {t : CheckpointSandboxRecreateTransaction}
    (h : parseSandboxRecreateTransaction v = some t) : t.WellFormed := by
  obtain ⟨raw, -, h⟩ := parse_bind_inv h
  obtain ⟨-, h⟩ := parse_guard_inv h
  obtain ⟨id, -, h⟩ := parse_bind_inv h
  obtain ⟨hid, h⟩ := parse_guard_inv h
  obtain ⟨name, -, h⟩ := parse_bind_inv h
  obtain ⟨hname, h⟩ := parse_guard_inv h
  obtain ⟨gateway, -, h⟩ := parse_bind_inv h
  obtain ⟨port, hport, h⟩ := parse_bind_inv h
  obtain ⟨hgateway, h⟩ := parse_guard_inv h
  obtain ⟨source, -, h⟩ := parse_bind_inv h
  obtain ⟨hsource, h⟩ := parse_guard_inv h
  obtain ⟨sourceLive, hsourceLive, h⟩ := parse_bind_inv h
  obtain ⟨workload, hworkload, h⟩ := parse_bind_inv h
  obtain ⟨intent, -, h⟩ := parse_bind_inv h
  obtain ⟨hintent, h⟩ := parse_guard_inv h
  obtain ⟨generation, -, h⟩ := parse_bind_inv h
  obtain ⟨hgeneration, h⟩ := parse_guard_inv h
  obtain ⟨targetLive, htargetLive, h⟩ := parse_bind_inv h
  obtain ⟨phase, -, h⟩ := parse_bind_inv h
  obtain ⟨revision, hrevision, h⟩ := parse_bind_inv h
  obtain ⟨startedAt, hstartedAt, h⟩ := parse_bind_inv h
  obtain ⟨updatedAt, hupdatedAt, h⟩ := parse_bind_inv h
  cases h
  exact {
    id := hid
    revision := readSafeNat_le hrevision
    sandboxName := hname
    port := readPort_eq_some hport
    gatewayName := hgateway
    sourceRegistry := hsource
    sourceLive := readNullableSha256_eq_some hsourceLive
    sourceWorkload := parseSandboxRecreateSourceWorkload_wellFormed hworkload
    targetIntent := hintent
    targetGeneration := hgeneration
    targetLive := readNullableSha256_eq_some htargetLive
    startedAt := readCanonicalIsoTimestamp_eq_some hstartedAt
    updatedAt := readCanonicalIsoTimestamp_eq_some hupdatedAt }

lemma readSandboxRecreate_toJson {o : Option CheckpointSandboxRecreateTransaction}
    (h : ∀ t, o = some t → t.WellFormed) :
    readSandboxRecreate (some (ofOption CheckpointSandboxRecreateTransaction.toJson o)) =
      some o := by
  cases o with
  | none => rfl
  | some t =>
    show (parseSandboxRecreateTransaction (some t.toJson)).map some = _
    rw [parseSandboxRecreateTransaction_toJson (h t rfl)]; rfl

lemma readSandboxRecreate_wellFormed {o : Option CheckpointSandboxRecreateTransaction}
    (h : readSandboxRecreate v = some o) (t : CheckpointSandboxRecreateTransaction)
    (ht : o = some t) : t.WellFormed := by
  subst ht
  unfold readSandboxRecreate at h
  split at h
  · cases h
  · obtain ⟨t', ht', h⟩ := map_eq_some_iff.mp h
    cases h; exact parseSandboxRecreateTransaction_wellFormed ht'

def OnboardCheckpoint.canonical (c : OnboardCheckpoint) : OnboardCheckpoint :=
  { c with webSearch := c.webSearch.map WebSearchConfig.withProvider }

theorem parseSchema_wellFormed {value : Json} {authorityRaw recreateRaw : Option Json}
    (h : parseSchema urls value authorityRaw recreateRaw = some c) : c.WellFormed urls := by
  obtain ⟨sessionId, -, h⟩ := parse_bind_inv h
  obtain ⟨updatedAt, hupdatedAt, h⟩ := parse_bind_inv h
  obtain ⟨machineState, -, h⟩ := parse_bind_inv h
  obtain ⟨identity, hidentity, h⟩ := parse_bind_inv h
  obtain ⟨webSearch, hwebSearch, h⟩ := parse_bind_inv h
  obtain ⟨messaging, -, h⟩ := parse_bind_inv h
  obtain ⟨resource, -, h⟩ := parse_bind_inv h
  obtain ⟨authority, hauthority, h⟩ := parse_bind_inv h
  obtain ⟨groups, hgroups, h⟩ := parse_bind_inv h
  obtain ⟨bindings, hbindings, h⟩ := parse_bind_inv h
  obtain ⟨recreate, hrecreate, h⟩ := parse_bind_inv h
  obtain ⟨hmatches, h⟩ := parse_guard_inv h
  cases h
  exact {
    updatedAt := readCanonicalIsoTimestamp_eq_some hupdatedAt
    sandboxIdentity := parseCheckpointDecision_all
      (fun _ _ => parseSandboxIdentityValue_wellFormed) hidentity
    webSearch := parseCheckpointDecision_all
      (fun _ _ => normalizeWebSearchConfig_wellFormed) hwebSearch
    gatewayAuthority := parseCheckpointDecision_all
      (fun _ _ => parseGatewayAuthorityValue_wellFormed) hauthority
    effectGroups := parseEffectGroups_wellFormed hgroups
    bindings := parseBindings_wellFormed hbindings
    journal := by
      intro t ht
      refine ⟨readSandboxRecreate_wellFormed hrecreate t ht, ?_⟩
      obtain rfl : recreate = some t := ht
      exact hmatches }

lemma CheckpointDecision.All.imp {P Q : α → Prop} (h : d.All P) (hPQ : ∀ v, P v → Q v) :
    d.All Q := by
  cases d with
  | unset => trivial
  | declined => trivial
  | selected v => exact hPQ v h

lemma parseCheckpointDecision_toJson_id {f : α → Json}
    (h : d.All fun v => parse (some (f v)) = some v) :
    parseCheckpointDecision parse (some (d.toJson f)) = some d := by
  have hparse := parseCheckpointDecision_toJson (g := fun v => v) h
  rw [hparse]
  cases d <;> rfl

lemma CheckpointDecision.all_of_forall {P : α → Prop} (d : CheckpointDecision α) (h : ∀ v, P v) :
    d.All P := by
  cases d with
  | unset => trivial
  | declined => trivial
  | selected v => exact h v

lemma parseSchema_serialize (h : c.WellFormed urls) :
    parseSchema urls (serializeCheckpoint c)
      (some (c.gatewayAuthority.toJson CheckpointGatewayAuthority.toJson))
      (some (ofOption CheckpointSandboxRecreateTransaction.toJson c.sandboxRecreate)) =
      some c.canonical := by
  have hidentity := parseCheckpointDecision_toJson_id
    (h.sandboxIdentity.imp fun _ => parseSandboxIdentityValue_toJson)
  have hwebSearch := parseCheckpointDecision_toJson
    (h.webSearch.imp fun _ => normalizeWebSearchConfig_toJson)
  have hmessaging := parseCheckpointDecision_toJson_id
    (c.messaging.all_of_forall parseMessagingValue_toJson)
  have hresource := parseCheckpointDecision_toJson_id
    (c.resourceProfile.all_of_forall parseResourceProfileValue_toJson)
  have hauthority := parseCheckpointDecision_toJson_id
    (h.gatewayAuthority.imp fun _ => parseGatewayAuthorityValue_toJson)
  refine parse_bind rfl (parse_bind (readCanonicalIsoTimestamp_str h.updatedAt) ?_)
  refine parse_bind (readMachineState_id c.machineState) (parse_bind hidentity ?_)
  refine parse_bind hwebSearch (parse_bind hmessaging (parse_bind hresource ?_))
  refine parse_bind hauthority (parse_bind (parseEffectGroups_toJson h.effectGroups) ?_)
  refine parse_bind (parseBindings_toJson h.bindings) ?_
  refine parse_bind (readSandboxRecreate_toJson fun t ht => (h.journal t ht).1) ?_
  refine parse_guard ?_ rfl
  cases hrecreate : c.sandboxRecreate with
  | none => rfl
  | some t => exact (h.journal t hrecreate).2

lemma inspectVersion_eq_loaded {raw : Json} {version : Int}
    (h : inspectVersion urls raw version = .loaded c) :
    version = 3 ∧
      parseSchema urls raw (raw.get? "gatewayAuthority") (raw.get? "sandboxRecreate") =
        some c := by
  unfold inspectVersion at h
  split at h
  · cases h
  split at h
  · cases h
  split at h
  · next hversion =>
    refine ⟨hversion, ?_⟩
    unfold loadResultOf at h
    split at h
    · next c' hc' =>
      cases h; exact hc'
    · cases h
  -- a migrated checkpoint is not a loaded one
  · unfold loadResultOf at h
    repeat' split at h
    all_goals cases h

lemma inspectCheckpoint_eq_loaded (h : inspectCheckpoint urls v = .loaded c) :
    ∃ raw, v = some raw ∧
      parseSchema urls raw (raw.get? "gatewayAuthority") (raw.get? "sandboxRecreate") =
        some c := by
  unfold inspectCheckpoint at h
  split at h
  · cases h
  · cases h
  · next fields =>
    split at h
    · cases h
    · exact ⟨_, rfl, (inspectVersion_eq_loaded h).2⟩
  · cases h

lemma inspectCheckpoint_serialize (h : c.WellFormed urls) :
    inspectCheckpoint urls (some (serializeCheckpoint c)) = .loaded c.canonical := by
  have hversion : readInteger ((serializeCheckpoint c).get? "schemaVersion") = some 3 :=
    readInteger_num_natCast 3
  have hthree : inspectVersion urls (serializeCheckpoint c) 3 = .loaded c.canonical := by
    exact congrArg (loadResultOf .loaded) (parseSchema_serialize h)
  unfold inspectCheckpoint serializeCheckpoint at *; simp only [hversion, hthree]

theorem parseStoredCheckpoint_serialize (h : c.WellFormed urls) :
    parseStoredCheckpoint urls (some (serializeCheckpoint c)) = some c.canonical := by
  rw [parseStoredCheckpoint, inspectCheckpoint_serialize h]

lemma parseStoredCheckpoint_wellFormed (h : parseStoredCheckpoint urls v = some c) :
    c.WellFormed urls := by
  unfold parseStoredCheckpoint at h
  split at h
  · next c' hc' =>
    cases h
    obtain ⟨raw, -, hparse⟩ := inspectCheckpoint_eq_loaded hc'
    exact parseSchema_wellFormed hparse
  · cases h

/-! ## What reading back asks for

A checkpoint in memory need not be well formed. These are the parts of one that reads
back which the recorders can spoil. -/

lemma parseCheckpointDecision_toJson_inv {f : α → Json} {d' : CheckpointDecision α}
    (h : parseCheckpointDecision parse (some (d.toJson f)) = some d') :
    d.All fun v => ∃ v', parse (some (f v)) = some v' := by
  cases d with
  | unset => trivial
  | declined => trivial
  | selected v =>
    have hmap : (parse (some (f v))).map CheckpointDecision.selected = some d' := h
    obtain ⟨v', hv', -⟩ := map_eq_some_iff.mp hmap; exact ⟨v', hv'⟩

lemma parseSandboxIdentityValue_toJson_inv {i' : CheckpointSandboxIdentity}
    (h : parseSandboxIdentityValue (some i.toJson) = some i') : i.WellFormed := by
  obtain ⟨hagent, h⟩ := parse_guard_inv (p := i.agent ≠ "") h
  obtain ⟨hname, -⟩ := parse_guard_inv (p := isValidSandboxName i.name) h
  exact ⟨hagent, hname⟩

lemma normalizeWebSearchConfig_toJson_inv {c c' : WebSearchConfig}
    (h : normalizeWebSearchConfig (some c.toJson) = some c') : c.WellFormed := by
  obtain ⟨hfetch, -⟩ := parse_guard_inv (p := Js.isTrue (some (.bool c.fetchEnabled))) h
  cases hc : c.fetchEnabled with
  | true => exact hc
  | false => rw [hc] at hfetch; cases hfetch

lemma parseEffectGroup_toJson_inv
    {groups : CheckpointEffectGroupName → Option CheckpointEffectGroupRecord}
    {g : CheckpointEffectGroupName} {o : Option CheckpointEffectGroupRecord}
    (h : parseEffectGroup (effectGroupsToJson groups) g = some o) (hr : groups g = some r) :
    r.WellFormed := by
  unfold parseEffectGroup at h
  rw [effectGroupsToJson_get?, hr] at h
  obtain ⟨r', hr', -⟩ := map_eq_some_iff.mp h
  obtain ⟨completedAt, hat, hr'⟩ := parse_bind_inv
    (x := readCanonicalIsoTimestamp (some (.str r.completedAt))) hr'
  obtain ⟨fingerprint, hfp, -⟩ := parse_bind_inv
    (x := readNonEmpty (some (.str r.fingerprint))) hr'
  obtain ⟨hcanonical, hsame⟩ := filter_eq_some_iff.mp hat
  cases hcanonical
  obtain ⟨htext, hne⟩ := readNonEmpty_eq_some hfp
  cases htext; exact ⟨hsame, hne⟩

lemma parseEffectGroups_toJson_inv
    {groups groups' : CheckpointEffectGroupName → Option CheckpointEffectGroupRecord}
    (h : parseEffectGroups (some (effectGroupsToJson groups)) = some groups') :
    ∀ g r, groups g = some r → r.WellFormed := by
  obtain ⟨value, hvalue, h⟩ := parse_bind_inv h
  cases hvalue
  obtain ⟨webSearch, hwebSearch, h⟩ := parse_bind_inv h
  obtain ⟨messaging, hmessaging, h⟩ := parse_bind_inv h
  obtain ⟨create, hcreate, h⟩ := parse_bind_inv h
  obtain ⟨register, hregister, -⟩ := parse_bind_inv h
  intro g r hr
  cases g with
  | webSearchProvider => exact parseEffectGroup_toJson_inv hwebSearch hr
  | messagingProviders => exact parseEffectGroup_toJson_inv hmessaging hr
  | sandboxCreate => exact parseEffectGroup_toJson_inv hcreate hr
  | sandboxRegister => exact parseEffectGroup_toJson_inv hregister hr

structure OnboardCheckpoint.ReadsBack (c c' : OnboardCheckpoint) : Prop where
  sandboxIdentity : c.sandboxIdentity.All CheckpointSandboxIdentity.WellFormed
  webSearch : c.webSearch.All WebSearchConfig.WellFormed
  effectGroups : ∀ g r, c.effectGroups g = some r → r.WellFormed
  named : ∀ t, c.sandboxRecreate = some t → t.WellFormed →
    ∃ agent, c.sandboxIdentity = .selected { name := t.sandboxName, agent }
  unjournaled : c.sandboxRecreate = none → c'.sandboxRecreate = none

lemma parseSchema_serialize_inv {c' : OnboardCheckpoint}
    (h : parseSchema urls (serializeCheckpoint c)
      (some (c.gatewayAuthority.toJson CheckpointGatewayAuthority.toJson))
      (some (ofOption CheckpointSandboxRecreateTransaction.toJson c.sandboxRecreate)) = some c') :
    c.ReadsBack c' := by
  obtain ⟨sessionId, -, h⟩ := parse_bind_inv h
  obtain ⟨updatedAt, -, h⟩ := parse_bind_inv h
  obtain ⟨machineState, -, h⟩ := parse_bind_inv h
  obtain ⟨identity, hidentity, h⟩ := parse_bind_inv h
  obtain ⟨webSearch, hwebSearch, h⟩ := parse_bind_inv h
  obtain ⟨messaging, -, h⟩ := parse_bind_inv h
  obtain ⟨resource, -, h⟩ := parse_bind_inv h
  obtain ⟨authority, -, h⟩ := parse_bind_inv h
  obtain ⟨groups, hgroups, h⟩ := parse_bind_inv h
  obtain ⟨bindings, -, h⟩ := parse_bind_inv h
  obtain ⟨recreate, hrecreate, h⟩ := parse_bind_inv h
  obtain ⟨hmatches, h⟩ := parse_guard_inv h
  cases h
  have hidentityWf : c.sandboxIdentity.All CheckpointSandboxIdentity.WellFormed :=
    (parseCheckpointDecision_toJson_inv hidentity).imp fun _ ⟨_, hv⟩ =>
      parseSandboxIdentityValue_toJson_inv hv
  refine ⟨hidentityWf, ?_, parseEffectGroups_toJson_inv hgroups, ?_, ?_⟩
  · exact (parseCheckpointDecision_toJson_inv hwebSearch).imp fun _ ⟨_, hv⟩ =>
      normalizeWebSearchConfig_toJson_inv hv
  · intro t ht hwf
    -- both the identity and the journal read back as they are, so the rule is about them
    have hsame : identity = c.sandboxIdentity := some.inj (hidentity.symm.trans
      (parseCheckpointDecision_toJson_id
        (hidentityWf.imp fun _ => parseSandboxIdentityValue_toJson)))
    rw [ht] at hrecreate
    have hjournal : recreate = some t := some.inj (hrecreate.symm.trans
      (readSandboxRecreate_toJson (o := some t) fun u hu => some.inj hu ▸ hwf))
    rw [hjournal, all_some, recreateMatches, hsame] at hmatches
    cases hidentityEq : c.sandboxIdentity with
    | unset => rw [hidentityEq] at hmatches; cases hmatches
    | declined => rw [hidentityEq] at hmatches; cases hmatches
    | selected i =>
      rw [hidentityEq] at hmatches
      cases hauthority : authority with
      | unset => rw [hauthority] at hmatches; cases hmatches
      | declined => rw [hauthority] at hmatches; cases hmatches
      | selected a =>
        rw [hauthority] at hmatches
        simp only [Bool.and_eq_true, beq_iff_eq] at hmatches
        exact ⟨i.agent, by rw [← hmatches.1.1]⟩
  · intro hnone
    rw [hnone] at hrecreate; exact (some.inj hrecreate).symm

lemma parseStoredCheckpoint_serialize_inv {c' : OnboardCheckpoint}
    (h : parseStoredCheckpoint urls (some (serializeCheckpoint c)) = some c') : c.ReadsBack c' := by
  unfold parseStoredCheckpoint at h
  split at h
  · next c'' hc'' =>
    cases h
    obtain ⟨raw, hraw, hparse⟩ := inspectCheckpoint_eq_loaded hc''
    cases hraw; exact parseSchema_serialize_inv hparse
  · cases h

end NemoClaw.Onboard
