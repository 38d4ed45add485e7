import NemoClaw.Onboard.CheckpointWrites
import NemoClaw.Onboard.SessionRecovery
import NemoClaw.Security.SensitiveText

/- Writing a session to disk and reading it back.

A session that was read has fields that the normaliser accepts as they are, so they come
back. Four things are worked on again at every read: the failure's message and the errors
of the steps are redacted, the endpoint is redacted as a URL, and the messaging plan, which
is written in a compact form, is parsed.

What is proved:
  1. `normalizeSession_normal` — what holds of every session that was read.
  2. `normalizeSession_rereadAs` — the session that is made of a session that was read, in
     closed form: the four things worked on again, all else as it was.
  3. `normalizeSession_serialize` — so from disk it is the same session exactly if the four
     are unchanged.
  4. `normalizeSession_drifts` — the redaction of a text need not be, nor the plan.

Correspondence (state/onboard-session.ts ↔ Lean): definitions keep the source's names. The
redactions and the plan's parser and compaction are those of the environment.
-/
namespace NemoClaw.Onboard

open Js Js.Json List

/-- What the normaliser establishes, beside what its cross-field checks do. -/
structure Session.Normal (env : Env) (s : Session) : Prop where
  admissible : s.core.Admissible
  machine : SnapshotFits env s.sessionId s.machine
  checkpoint : ∀ c, s.checkpoint = some c → c.Kept env.urls
  failure : ∀ f, s.failure = some f → f.step.getD "" ≠ "" ∨ f.message.getD "" ≠ ""
  routerPid : ∀ n, s.routerPid = some n → 0 < n
  webSearchConfig : ∀ c, s.webSearchConfig = some c → c.WellFormed ∧ c.Normal
  sandboxName : s.sandboxPromptProgress.sandboxName →
    s.sandboxName.any isValidSandboxName
  wechatConfig : ∀ w, s.wechatConfig = some w → parseWechatConfig (some w.toJson) = some w
  hashes : ∀ h, s.migratedLegacyValueHashes = some h →
    readStringRecord (some (.obj (h.map fun kv => (kv.1, .str kv.2)))) = some h

section Normal

variable {env : Env} {amb : Ambient} {v : Option Json} {s : Session}

lemma sanitizeFailure_nonempty {now : IsoTimestamp} {input : Option Json} {f : SessionFailure}
    (h : sanitizeFailure env now input = some f) :
    f.step.getD "" ≠ "" ∨ f.message.getD "" ≠ "" := by
  obtain ⟨fields, -, h⟩ := parse_bind_inv h
  obtain ⟨hnonempty, h⟩ := parse_guard_inv h
  rw [← Option.some.inj h]; exact hnonempty

lemma parseWechatConfig_toJson {input : Option Json} {w : WechatConfig}
    (h : parseWechatConfig input = some w) : parseWechatConfig (some w.toJson) = some w := by
  obtain ⟨fields, -, h⟩ := parse_bind_inv h
  obtain ⟨hsome, h⟩ := parse_guard_inv h
  have hw := Option.some.inj h
  have hnonempty : ∀ key : String, NullOr (· != "") (readNonEmpty (fields.get? key)) := by
    intro key x hx; exact bne_iff_ne.mpr (readNonEmpty_eq_some hx).2
  obtain ⟨accountId, baseUrl, userId⟩ := w
  obtain ⟨haccount, hbase, huser⟩ := WechatConfig.mk.inj hw
  rw [haccount, hbase, huser] at hsome
  have haccount' : NullOr (· != "") accountId := haccount ▸ hnonempty "accountId"
  have hbase' : NullOr (· != "") baseUrl := hbase ▸ hnonempty "baseUrl"
  have huser' : NullOr (· != "") userId := huser ▸ hnonempty "userId"
  have hread : ∀ {o : Option String}, NullOr (· != "") o →
      readNonEmpty (o.map Json.str) = o := by
    intro o ho
    cases o with
    | none => rfl
    | some x => exact readNonEmpty_str (bne_iff_ne.mp (ho x rfl))
  have hget : ∀ (a b c : Option Json),
      (Json.obj (optField "accountId" a ++ optField "baseUrl" b ++ optField "userId" c)).get?
          "accountId" = a ∧
        (Json.obj (optField "accountId" a ++ optField "baseUrl" b ++ optField "userId" c)).get?
          "baseUrl" = b ∧
        (Json.obj (optField "accountId" a ++ optField "baseUrl" b ++ optField "userId" c)).get?
          "userId" = c := by
    intro a b c
    cases a <;> cases b <;> cases c <;> exact ⟨rfl, rfl, rfl⟩
  obtain ⟨hgetAccount, hgetBase, hgetUser⟩ :=
    hget (accountId.map .str) (baseUrl.map .str) (userId.map .str)
  unfold parseWechatConfig WechatConfig.toJson
  refine parse_bind rfl ?_
  simp only [hgetAccount, hgetBase, hgetUser, hread haccount', hread hbase', hread huser']
  exact parse_guard hsome rfl

lemma readStringRecord_ofRecord {input : Option Json} {h : List (String × String)}
    (hread : readStringRecord input = some h) :
    readStringRecord (some (.obj (h.map fun kv => (kv.1, .str kv.2)))) = some h := by
  have hplain : ∀ kv ∈ h, kv.1 ≠ "__proto__" := by
    unfold readStringRecord at hread
    split at hread
    · rw [← Option.some.inj hread]
      intro kv hkv
      obtain ⟨member, -, hmember⟩ := mem_filterMap.mp hkv
      split at hmember
      · cases hmember
      · next hkey =>
        obtain ⟨x, -, rfl⟩ := Option.map_eq_some_iff.mp hmember; exact hkey
    · cases hread
  clear hread
  show some ((h.map fun kv => (kv.1, Json.str kv.2)).filterMap fun kv =>
    if kv.1 = "__proto__" then none else (readString (some kv.2)).map fun s => (kv.1, s)) = some h
  congr 1
  induction h with
  | nil => rfl
  | cons kv rest ih =>
    have hkey := hplain kv mem_cons_self
    rw [map_cons, filterMap_cons_some (b := kv) (by simp [hkey])]
    rw [ih fun kv' hkv' => hplain kv' (mem_cons_of_mem _ hkv')]

lemma parseStoredCheckpoint_kept {c : OnboardCheckpoint}
    (h : parseStoredCheckpoint env.urls v = some c) : c.Kept env.urls := by
  unfold parseStoredCheckpoint at h
  split at h
  · next c' hc' =>
    cases h; exact Parsed.kept ⟨v, .inl hc'⟩
  · cases h

/-- What holds of every session that was read. -/
theorem normalizeSession_normal (h : normalizeSession env amb v = some s) : s.Normal env := by
  have hadmissible := normalizeSession_admissible h
  have hmachine := normalizeSession_fits h
  obtain ⟨data, provenance, effort, intent, retirement, rfl⟩ := normalizeSession_draft h
  exact {
    admissible := hadmissible
    machine := hmachine
    checkpoint := fun c hc => parseStoredCheckpoint_kept (v := data.get? "checkpoint") hc
    failure := fun f hf =>
      sanitizeFailure_nonempty (show sanitizeFailure env _ (data.get? "failure") = some f from hf)
    routerPid := fun n hn => by simpa using (Option.filter_eq_some_iff.mp hn).2
    webSearchConfig := fun c hc => by
      obtain ⟨c', -, hc'⟩ := Option.bind_eq_some_iff.mp hc
      exact ⟨normalizeWebSearchConfig_wellFormed hc', normalizeWebSearchConfig_normal hc'⟩
    sandboxName := fun hname => by
      have hvalid : (readString (some (ofString? (readString (data.get? "sandboxName"))))).any
          isValidSandboxName := (Bool.and_eq_true_iff.mp hname).2
      rw [readString_ofString?] at hvalid; exact hvalid
    wechatConfig := fun w hw =>
      parseWechatConfig_toJson (show parseWechatConfig (data.get? "wechatConfig") = some w from hw)
    hashes := fun hashes hh =>
      readStringRecord_ofRecord
        (show readStringRecord (data.get? "migratedLegacyValueHashes") = some hashes from hh) }

end Normal

/-! ## Reading a session again -/

attribute [ext] Session

/-- A failure with its message redacted once more; one that then says nothing is dropped. -/
def rereadFailure (env : Env) (f : SessionFailure) : Option SessionFailure :=
  let message := env.redactSensitiveText (some (ofString? f.message))
  if (f.step.getD "") ≠ "" ∨ (message.getD "") ≠ "" then some { f with message } else none

/-- The plan as the normaliser parses it: once from the file, once for the new session. -/
def rereadPlan (env : Env) (plan : Option Json) : Option Json :=
  (env.parseSandboxMessagingPlan (some (plan.getD .null)) none).bind fun plan =>
    env.parseSandboxMessagingPlan (some plan) none

def messagingChoice (env : Env) (sandboxName : Option String) (plan : Option Json) : Bool :=
  isNull (some (plan.getD .null)) || sandboxName.any fun name =>
    (env.parseSandboxMessagingPlan (some (plan.getD .null)) (some name)).isSome

def Session.rereadAs (env : Env) (plan : Option Json) (s : Session) : Session :=
  { s with
    failure := s.failure.bind (rereadFailure env)
    endpointUrl := s.endpointUrl.bind env.redactUrl
    messagingPlan := rereadPlan env plan
    sandboxPromptProgress := { s.sandboxPromptProgress with
      messaging := s.sandboxPromptProgress.messaging && messagingChoice env s.sandboxName plan &&
        messagingChoice env s.sandboxName
          (env.parseSandboxMessagingPlan (some (plan.getD .null)) none) }
    steps := fun n => { s.steps n with
      error := env.redactSensitiveText (some (ofString? (s.steps n).error)) } }

section Reread

variable {env : Env} {s : Session}

lemma sanitizeFailure_toJson (now : IsoTimestamp) (o : Option SessionFailure) :
    sanitizeFailure env now (some (ofOption SessionFailure.toJson o)) =
      o.bind (rereadFailure env) := by
  cases o with
  | none => rfl
  | some f =>
  have hstep : readString (some (ofString? f.step)) = f.step := readString_ofString? f.step
  have hread : sanitizeFailure env now (some f.toJson) =
      (guard ((f.step.getD "") ≠ "" ∨
        ((env.redactSensitiveText (some (ofString? f.message))).getD "") ≠ "") >>= fun _ =>
        some { f with message := env.redactSensitiveText (some (ofString? f.message)) }) := by
    show (guard (((readString (some (ofString? f.step))).getD "") ≠ "" ∨
        ((env.redactSensitiveText (some (ofString? f.message))).getD "") ≠ "") >>= fun _ =>
        some (SessionFailure.mk (readString (some (ofString? f.step)))
          (env.redactSensitiveText (some (ofString? f.message))) f.recordedAt
          f.interrupted)) = _
    rw [hstep]
  show sanitizeFailure env now (some f.toJson) = rereadFailure env f
  rw [hread]
  unfold rereadFailure
  simp only
  split
  · next htold => exact parse_guard htold rfl
  · next htold =>
    rw [guard, if_neg htold]; rfl

lemma parseWebSearchConfig_kept {c : WebSearchConfig} (h : c.WellFormed ∧ c.Normal) :
    normalizeWebSearchConfig (some c.toJson) = some c := by
  rw [normalizeWebSearchConfig_toJson h.1, WebSearchConfig.withProvider_eq_self.mpr h.2]

lemma parseSandboxPromptProgress_toJson (env : Env) {p : SandboxPromptProgress}
    {sandboxName : Option String} {webSearchConfig : Option WebSearchConfig} (plan : Option Json)
    (resourceProfile : Option CheckpointResourceProfile)
    (hname : p.sandboxName → sandboxName.any isValidSandboxName)
    (hweb : ∀ c, webSearchConfig = some c → c.WellFormed ∧ c.Normal) :
    parseSandboxPromptProgress env (some p.toJson)
        { sandboxName := some (ofString? sandboxName)
          webSearchConfig := some (ofOption WebSearchConfig.toJson webSearchConfig)
          messagingPlan := some (plan.getD .null)
          resourceProfile := some (ofOption CheckpointResourceProfile.toJson resourceProfile) } =
      { p with messaging := p.messaging && messagingChoice env sandboxName plan } := by
  have hsandbox : (isTrue (some (.bool p.sandboxName)) &&
      (readString (some (ofString? sandboxName))).any isValidSandboxName) = p.sandboxName := by
    rw [readString_ofString?]
    cases hp : p.sandboxName with
    | false => rfl
    | true => simpa [Js.isTrue] using hname hp
  have hwebSearch : (isTrue (some (.bool p.webSearch)) && true &&
      (isNull (some (ofOption WebSearchConfig.toJson webSearchConfig)) ||
        (parseWebSearchConfig
          (some (ofOption WebSearchConfig.toJson webSearchConfig))).isSome)) = p.webSearch := by
    cases webSearchConfig with
    | none => simp [Js.isTrue, ofOption, isNull]
    | some c =>
      have hparse : parseWebSearchConfig (some c.toJson) = some c :=
        parseWebSearchConfig_kept (hweb c rfl)
      simp [Js.isTrue, ofOption, hparse]
  have hmessaging : (isTrue (some (.bool p.messaging)) && true &&
      (isNull (some (plan.getD .null)) || (readString (some (ofString? sandboxName))).any fun name =>
        (env.parseSandboxMessagingPlan (some (plan.getD .null)) (some name)).isSome)) =
      (p.messaging && messagingChoice env sandboxName plan) := by
    rw [readString_ofString?, Bool.and_true]; rfl
  have hresource : (isTrue (some (.bool p.resourceProfile)) && true &&
      (isNull (some (ofOption CheckpointResourceProfile.toJson resourceProfile)) ||
        (parseSessionResourceProfile
          (some (ofOption CheckpointResourceProfile.toJson resourceProfile))).isSome)) =
      p.resourceProfile := by
    cases resourceProfile with
    | none => simp [Js.isTrue, ofOption, isNull]
    | some r =>
      have hparse : parseSessionResourceProfile (some r.toJson) = some r :=
        parseResourceProfileValue_toJson r
      simp [Js.isTrue, ofOption, hparse]
  show SandboxPromptProgress.mk _ _ _ _ = _
  exact congr (congr (congr (congrArg SandboxPromptProgress.mk hsandbox) hwebSearch) hmessaging)
    hresource

lemma parseStepState_reread (step : StepState) :
    parseStepState env (some step.toJson) =
      some { step with error := env.redactSensitiveText (some (ofString? step.error)) } := by
  have hstatus : readStepStatus (some (.str step.status.id)) = some step.status := by
    cases step.status <;> rfl
  refine parse_bind rfl (parse_bind hstatus ?_)
  show some (StepState.mk step.status (readString (some (ofString? step.startedAt)))
    (readString (some (ofString? step.completedAt))) _) = _
  rw [readString_ofString?, readString_ofString?]; rfl

lemma normalizedSteps_reread (steps : StepName → StepState) :
    normalizedSteps env (some (.obj (StepName.all.map fun n => (n.key, (steps n).toJson)))) =
      fun n => { steps n with
        error := env.redactSensitiveText (some (ofString? (steps n).error)) } := by
  funext n
  have hlookup : (Json.obj (StepName.all.map fun m => (m.key, (steps m).toJson))).get? n.key =
      some (steps n).toJson := by
    cases n <;> rfl
  simp only [normalizedSteps, readObject_obj, Option.bind_some, hlookup, parseStepState_reread,
    Option.getD_some]

lemma parseSessionResourceProfile_toJson (o : Option CheckpointResourceProfile) :
    parseSessionResourceProfile (some (ofOption CheckpointResourceProfile.toJson o)) = o := by
  cases o with
  | none => rfl
  | some r => exact parseResourceProfileValue_toJson r

lemma checkpoint_reread {o : Option OnboardCheckpoint}
    (h : ∀ c, o = some c → c.Kept env.urls) :
    parseStoredCheckpoint env.urls (some (ofOption serializeCheckpoint o)) = o := by
  cases o with
  | none => rfl
  | some c =>
    obtain ⟨hwf, hsearch⟩ := h c rfl
    exact (parseStoredCheckpoint_serialize hwf).trans
      (congrArg some (canonical_eq_self.mpr hsearch))

lemma parseWebSearchConfig_ofOption {o : Option WebSearchConfig}
    (h : ∀ c, o = some c → c.WellFormed ∧ c.Normal) :
    parseWebSearchConfig (some (ofOption WebSearchConfig.toJson o)) = o := by
  cases o with
  | none => rfl
  | some c => exact parseWebSearchConfig_kept (h c rfl)

lemma sandboxPromptProgress_reread (h : s.Normal env) (plan : Option Json) :
    parseSandboxPromptProgress env
        (some (parseSandboxPromptProgress env (some s.sandboxPromptProgress.toJson)
          { sandboxName := some (ofString? s.sandboxName)
            webSearchConfig := some (ofOption WebSearchConfig.toJson s.webSearchConfig)
            messagingPlan := some (plan.getD .null)
            resourceProfile :=
              some (ofOption CheckpointResourceProfile.toJson s.resourceProfile) }).toJson)
        { sandboxName := some (ofString? (readString (some (ofString? s.sandboxName))))
          webSearchConfig := some (ofOption WebSearchConfig.toJson (parseWebSearchConfig
            (some (ofOption WebSearchConfig.toJson s.webSearchConfig))))
          messagingPlan :=
            some ((env.parseSandboxMessagingPlan (some (plan.getD .null)) none).getD .null)
          resourceProfile := some (ofOption CheckpointResourceProfile.toJson
            (parseSessionResourceProfile
              (some (ofOption CheckpointResourceProfile.toJson s.resourceProfile)))) } =
      (s.rereadAs env plan).sandboxPromptProgress := by
  have hfirst := parseSandboxPromptProgress_toJson env plan s.resourceProfile h.sandboxName
    h.webSearchConfig
  have hsecond := parseSandboxPromptProgress_toJson env (p := { s.sandboxPromptProgress with
      messaging := s.sandboxPromptProgress.messaging && messagingChoice env s.sandboxName plan })
    (env.parseSandboxMessagingPlan (some (plan.getD .null)) none) s.resourceProfile h.sandboxName
    h.webSearchConfig
  rw [hfirst, readString_ofString?, parseSessionResourceProfile_toJson,
    parseWebSearchConfig_ofOption h.webSearchConfig, hsecond]
  rfl

lemma draftSession_toolDisclosure (amb : Ambient) (data : Json)
    (provenance : Option ServingProfileProvenance) (effort : Option ReasoningEffort)
    (intent : Option StationExpressResumeIntent) (retirement : Option String) :
    (draftSession env amb data provenance effort intent retirement).toolDisclosure =
      normalizeSessionToolDisclosure (data.get? "toolDisclosure") := rfl

lemma readStringArray_ofOption (o : Option (List String)) :
    readStringArray (some (ofOption ofStrings o)) = o := by
  cases o with
  | none => rfl
  | some xs => exact readStringArray_ofStrings xs

lemma redraft_rereadAs (h : s.Normal env) (amb : Ambient) (plan : Option Json) :
    ({ s with messagingPlan := plan } : Session).redraft env amb =
      { s.rereadAs env plan with machine := createMachineSnapshot .init (some s.startedAt) 0 } := by
  have hsame := redraft_same env amb (s := { s with messagingPlan := plan })
    (fun i hi => (h.admissible.intent i hi).wellFormed)
    fun g hg => (h.admissible.retirement g hg).wellFormed
  apply Session.ext
  case resumable => exact hsame.resumable
  case lastStepStarted => exact readString_ofString? s.lastStepStarted
  case lastCompletedStep => exact readString_ofString? s.lastCompletedStep
  case failure => exact sanitizeFailure_toJson (amb.clock 1) s.failure
  case agent => exact readString_ofString? s.agent
  case sandboxName => exact readString_ofString? s.sandboxName
  case provider => exact hsame.provider
  case model => exact hsame.model
  case stationExpressIntent => exact hsame.intent
  case stationExpressReceiptRetirement => exact hsame.retirement
  case endpointUrl =>
    show (readString (some (ofString? s.endpointUrl))).bind env.redactUrl = _
    rw [readString_ofString?]; rfl
  case credentialEnv => exact readString_ofString? s.credentialEnv
  case hermesAuthMethod =>
    show readHermesAuthMethod (some (ofOption (fun m => .str m.id) s.hermesAuthMethod)) =
      s.hermesAuthMethod
    cases s.hermesAuthMethod with
    | none => rfl
    | some m => cases m <;> rfl
  case preferredInferenceApi => exact readString_ofString? s.preferredInferenceApi
  case compatibleEndpointReasoning => exact readString_ofString? s.compatibleEndpointReasoning
  case nimContainer => exact readString_ofString? s.nimContainer
  case routerPid =>
    show (readPositiveInteger (some (ofOption ofNat s.routerPid))).filter (0 < ·) = s.routerPid
    cases hpid : s.routerPid with
    | none => rfl
    | some n => simp [ofOption, readPositiveInteger, h.routerPid n hpid]
  case routerCredentialHash => exact readString_ofString? s.routerCredentialHash
  case webSearchConfig =>
    show ((some (parseWebSearchConfig
      (some (ofOption WebSearchConfig.toJson s.webSearchConfig)))).join.bind fun c =>
        normalizeWebSearchConfig (some c.toJson)) = s.webSearchConfig
    cases hc : s.webSearchConfig with
    | none => rfl
    | some c =>
    have hparse : parseWebSearchConfig (some c.toJson) = some c :=
      parseWebSearchConfig_kept (h.webSearchConfig c hc)
    show ((some (parseWebSearchConfig (some c.toJson))).join.bind fun c =>
      normalizeWebSearchConfig (some c.toJson)) = some c
    rw [hparse]; exact hparse
  case resourceProfile => exact parseSessionResourceProfile_toJson s.resourceProfile
  case toolDisclosure =>
    have hread : ({ s with messagingPlan := plan } : Session).toJson.get? "toolDisclosure" =
        some (.str s.toolDisclosure.id) := rfl
    rw [Session.redraft, draftSession_toolDisclosure, hread]
    show _ = s.toolDisclosure; cases s.toolDisclosure <;> decide
  case hermesToolGateways => exact readStringArray_ofOption s.hermesToolGateways
  case policyPresets => exact readStringArray_ofOption s.policyPresets
  case stagedCredentialProviders =>
    show (readStringArray (some (ofStrings s.stagedCredentialProviders))).getD [] = _
    rw [readStringArray_ofStrings]; rfl
  case migratedLegacyValueHashes =>
    show readStringRecord (some (ofOption
      (fun h => .obj (h.map fun kv => (kv.1, .str kv.2))) s.migratedLegacyValueHashes)) =
      s.migratedLegacyValueHashes
    cases hh : s.migratedLegacyValueHashes with
    | none => rfl
    | some hashes => exact h.hashes hashes hh
  case telegramConfig =>
    show parseTelegramConfig (some (ofOption
      (fun b => .obj [("requireMention", .bool b)]) s.telegramConfig)) = s.telegramConfig
    cases s.telegramConfig <;> rfl
  case wechatConfig =>
    show parseWechatConfig (some (ofOption WechatConfig.toJson s.wechatConfig)) = s.wechatConfig
    cases hw : s.wechatConfig with
    | none => rfl
    | some w => exact h.wechatConfig w hw
  case metadata =>
    show SessionMetadata.mk s.metadata.gatewayName
      (readString (some (ofString? s.metadata.fromDockerfile))) = s.metadata
    rw [readString_ofString?]
  case checkpoint => exact checkpoint_reread h.checkpoint
  case sandboxPromptProgress => exact sandboxPromptProgress_reread h plan
  case steps => exact normalizedSteps_reread s.steps
  all_goals rfl

theorem normalizeSession_rereadAs (h : s.Normal env) (amb : Ambient) (plan : Option Json) :
    normalizeSession env amb (some ({ s with messagingPlan := plan } : Session).toJson) =
      some (s.rereadAs env plan) := by
  have hmachine : parseMachineSnapshot env (some s.machine.toJson) s.sessionId = some s.machine :=
    parseMachineSnapshot_fits h.machine
  have hid : (({ s with messagingPlan := plan } : Session).redraft env amb).sessionId =
      s.sessionId := rfl
  rw [normalizeSession_redraft env amb (s := { s with messagingPlan := plan }) h.admissible,
    withMachine_toJson (s := { s with messagingPlan := plan }) hid hmachine,
    redraft_rereadAs h amb plan]
  rfl

lemma normalizeSession_compacted (h : s.Normal env) (amb : Ambient) :
    normalizeSession env amb (some (serializeSessionForDisk env s)) =
      some (s.rereadAs env
        (s.messagingPlan.map env.compactSandboxMessagingPlanForPersistence)) :=
  normalizeSession_rereadAs h amb _

end Reread

/-- What is worked on at every read is unchanged by it, with this plan in the file. -/
structure Session.Stable (env : Env) (plan : Option Json) (s : Session) : Prop where
  failure : ∀ f, s.failure = some f →
    env.redactSensitiveText (some (ofString? f.message)) = f.message
  endpointUrl : ∀ url, s.endpointUrl = some url → env.redactUrl url = some url
  messagingPlan : rereadPlan env plan = s.messagingPlan
  messaging : s.sandboxPromptProgress.messaging →
    messagingChoice env s.sandboxName plan ∧
      messagingChoice env s.sandboxName
        (env.parseSandboxMessagingPlan (some (plan.getD .null)) none)
  steps : ∀ n, env.redactSensitiveText (some (ofString? (s.steps n).error)) = (s.steps n).error

section Stable

variable {env : Env} {s : Session}

lemma rereadFailure_eq_self {f : SessionFailure}
    (htold : f.step.getD "" ≠ "" ∨ f.message.getD "" ≠ "") :
    rereadFailure env f = some f ↔
      env.redactSensitiveText (some (ofString? f.message)) = f.message := by
  unfold rereadFailure
  constructor
  · intro hf
    simp only at hf
    split at hf
    · exact congrArg SessionFailure.message (Option.some.inj hf)
    · cases hf
  · intro hmessage
    simp only [hmessage]
    rw [if_pos htold]

lemma bind_eq_self {α : Type} {o : Option α} {f : α → Option α} :
    o.bind f = o ↔ ∀ x, o = some x → f x = some x := by
  cases o <;> simp

lemma Session.rereadAs_eq_self (h : s.Normal env) (plan : Option Json) :
    s.rereadAs env plan = s ↔ s.Stable env plan := by
  constructor
  · intro heq
    have hfailure : s.failure.bind (rereadFailure env) = s.failure :=
      congrArg Session.failure heq
    have hmessaging : (s.sandboxPromptProgress.messaging &&
        messagingChoice env s.sandboxName plan && messagingChoice env s.sandboxName
          (env.parseSandboxMessagingPlan (some (plan.getD .null)) none)) =
        s.sandboxPromptProgress.messaging :=
      congrArg (fun s : Session => s.sandboxPromptProgress.messaging) heq
    refine ⟨?_, ?_, congrArg Session.messagingPlan heq, ?_, ?_⟩
    · intro f hf
      exact (rereadFailure_eq_self (h.failure f hf)).mp (bind_eq_self.mp hfailure f hf)
    · exact bind_eq_self.mp (congrArg Session.endpointUrl heq)
    · intro hm
      rw [hm] at hmessaging; simpa [and_assoc] using hmessaging
    · intro n; exact congrArg (fun s : Session => (s.steps n).error) heq
  · intro hstable
    apply Session.ext
    case failure =>
      refine bind_eq_self.mpr ?_
      intro f hf; exact (rereadFailure_eq_self (h.failure f hf)).mpr (hstable.failure f hf)
    case endpointUrl => exact bind_eq_self.mpr hstable.endpointUrl
    case messagingPlan => exact hstable.messagingPlan
    case sandboxPromptProgress =>
      have hmessaging : (s.sandboxPromptProgress.messaging &&
          messagingChoice env s.sandboxName plan && messagingChoice env s.sandboxName
            (env.parseSandboxMessagingPlan (some (plan.getD .null)) none)) =
          s.sandboxPromptProgress.messaging := by
        cases hm : s.sandboxPromptProgress.messaging with
        | false => rfl
        | true =>
          obtain ⟨hchoice, hparsed⟩ := hstable.messaging hm
          simp [hchoice, hparsed]
      unfold Session.rereadAs; simp only [hmessaging]
    case steps =>
      funext n
      show StepState.mk _ _ _ _ = s.steps n
      rw [hstable.steps n]
    all_goals rfl

lemma Session.Normal.withUpdatedAt (h : s.Normal env) (t : String) :
    ({ s with updatedAt := t } : Session).Normal env :=
  { admissible := h.admissible
    machine := h.machine
    checkpoint := h.checkpoint
    failure := h.failure
    routerPid := h.routerPid
    webSearchConfig := h.webSearchConfig
    sandboxName := h.sandboxName
    wechatConfig := h.wechatConfig
    hashes := h.hashes }

lemma loadSession_saved (h : s.Normal env) (b c : Ambient) (store : SessionStore) :
    loadSession env c (store.write env (sessionToSave env b s)) = some
      { (s.rereadAs env s.messagingPlan).rereadAs env ((rereadPlan env s.messagingPlan).map
          env.compactSandboxMessagingPlanForPersistence) with
        updatedAt := ((b.part 2).clock 0).val } := by
  have hreread : normalizeSession env (b.part 0) (some s.toJson) =
      some (s.rereadAs env s.messagingPlan) := normalizeSession_rereadAs h (b.part 0) s.messagingPlan
  have hsaved : sessionToSave env b s =
      { s.rereadAs env s.messagingPlan with updatedAt := ((b.part 2).clock 0).val } := by
    unfold sessionToSave
    rw [hreread]; rfl
  have hnormal : (s.rereadAs env s.messagingPlan).Normal env := normalizeSession_normal hreread
  show normalizeSession env c (some (serializeSessionForDisk env (sessionToSave env b s))) = _
  rw [hsaved, normalizeSession_compacted (hnormal.withUpdatedAt _) c]; rfl

/-- A session that was read is accepted again from disk, with the failure, the errors of the
steps, the endpoint and the plan worked on once more and all else as it was. It is the same
session exactly if these are unchanged; then it is also what is loaded after it is saved, but
for the time of the update. -/
theorem normalizeSession_serialize {a : Ambient} {v : Option Json}
    (h : normalizeSession env a v = some s) (b c : Ambient) (store : SessionStore) :
    normalizeSession env b (some (serializeSessionForDisk env s)) =
        some (s.rereadAs env
          (s.messagingPlan.map env.compactSandboxMessagingPlanForPersistence)) ∧
      (normalizeSession env b (some (serializeSessionForDisk env s)) = some s ↔
        s.Stable env (s.messagingPlan.map env.compactSandboxMessagingPlanForPersistence)) ∧
      loadSession env c (store.write env (sessionToSave env b s)) = some
        { (s.rereadAs env s.messagingPlan).rereadAs env ((rereadPlan env s.messagingPlan).map
            env.compactSandboxMessagingPlanForPersistence) with
          updatedAt := ((b.part 2).clock 0).val } ∧
      (s.Stable env s.messagingPlan →
        s.Stable env (s.messagingPlan.map env.compactSandboxMessagingPlanForPersistence) →
        loadSession env c (store.write env (sessionToSave env b s)) =
          some { s with updatedAt := ((b.part 2).clock 0).val }) := by
  have hnormal := normalizeSession_normal h
  have hread := normalizeSession_compacted hnormal b
  have hsaved := loadSession_saved hnormal b c store
  refine ⟨hread, ?_, hsaved, ?_⟩
  · rw [hread, Option.some.injEq]; exact Session.rereadAs_eq_self hnormal _
  intro hmemory hdisk
  have hplan : rereadPlan env s.messagingPlan = s.messagingPlan := hmemory.messagingPlan
  rw [hsaved, hplan, (Session.rereadAs_eq_self hnormal s.messagingPlan).mpr hmemory,
    (Session.rereadAs_eq_self hnormal _).mpr hdisk]

end Stable

def bareFile (failure plan : Json) : Json :=
  .obj [("version", ofNat 1), ("failure", failure), ("messagingPlan", plan)]

def messageFailure (message : String) : Json := .obj [("message", .str message)]

lemma sanitizeFailure_message {env : Env} {now : IsoTimestamp} {message redacted : String}
    (h : env.redactSensitiveText (some (.str message)) = some redacted) (hne : redacted ≠ "") :
    sanitizeFailure env now (some (messageFailure message)) =
      some ⟨none, some redacted, now.val, false⟩ := by
  have hget : env.redactSensitiveText ((messageFailure message).get? "message") = some redacted := h
  have hnonempty : (env.redactSensitiveText ((messageFailure message).get? "message")).getD "" ≠
      "" := by
    rw [hget]; exact hne
  refine parse_bind rfl (parse_guard (.inr hnonempty) ?_)
  exact congrArg (fun found => some (⟨none, found, now.val, false⟩ : SessionFailure)) hget

section Bare

variable (env : Env) (amb : Ambient) (failure plan : Json)

lemma normalizeSession_bareFile :
    normalizeSession env amb (some (bareFile failure plan)) =
      some (withMachine env (bareFile failure plan)
        (draftSession env amb (bareFile failure plan) none none none none)) := by
  have hbinding : bindingConsistent
      (draftSession env amb (bareFile failure plan) none none none none) := by
    rw [bindingConsistent_iff]
    intro i hi; cases hi
  refine parse_bind rfl (parse_guard (readNat_ofNat 1) (parse_bind rfl (parse_bind rfl ?_)))
  refine parse_bind rfl (parse_bind rfl (parse_guard (.inl rfl) (parse_guard (.inl rfl) ?_)))
  exact parse_guard hbinding rfl

lemma normalizeSession_bareFile_reread :
    ∃ s, normalizeSession env amb (some (bareFile failure plan)) = some s ∧
      s.failure = sanitizeFailure env (amb.clock 1) (some failure) ∧
      s.messagingPlan = rereadPlan env (some plan) ∧
      (normalizeSession env amb (some (serializeSessionForDisk env s)) = some s →
        s.Stable env (s.messagingPlan.map env.compactSandboxMessagingPlanForPersistence)) := by
  have hread := normalizeSession_bareFile env amb failure plan
  refine ⟨_, hread, rfl, rfl, ?_⟩
  intro hsame
  have hnormal := normalizeSession_normal hread
  rw [normalizeSession_compacted hnormal amb] at hsame
  exact (Session.rereadAs_eq_self hnormal _).mp (Option.some.inj hsame)

end Bare

/-- The lists of a plan that its compact form leaves out. -/
def derivedPlanFields : List String := ["agentRender", "buildSteps", "stateUpdates", "healthChecks"]

/-- The plan's parser, for plans without channels and credential bindings. -/
def parseBarePlan (v : Option Json) (_sandboxName : Option String) : Option Json :=
  match v with
  | some (.obj fields) =>
    let missing := derivedPlanFields.filter fun key => (fields.lookup key).isNone
    some (.obj (fields ++ missing.map fun key => (key, .arr [])))
  | _ => none

/-- The compact form of plans without channels and credential bindings. -/
def compactBarePlan : Json → Json
  | .obj fields => .obj (fields.filter fun kv => !derivedPlanFields.contains kv.1)
  | plan => plan

/-- An environment that redacts as the code does. -/
def driftEnv : Env :=
  { plainEnv with
    redactSensitiveText := NemoClaw.Security.redactSensitiveText
    parseSandboxMessagingPlan := parseBarePlan
    compactSandboxMessagingPlanForPersistence := compactBarePlan }

/-- A plan without channels, with a rendering for an agent. -/
def barePlan : Json :=
  .obj [("schemaVersion", ofNat 1), ("sandboxName", .str "demo"), ("agent", .str "openclaw"),
    ("workflow", .str "onboard"), ("disabledChannels", .arr []),
    ("networkPolicy", .obj [("presets", .arr []), ("entries", .arr [])]), ("channels", .arr []),
    ("credentialBindings", .arr []), ("agentRender", .arr [.obj [("channelId", .str "telegram")]]),
    ("buildSteps", .arr []), ("stateUpdates", .arr []), ("healthChecks", .arr [])]

/-- A message with a key right before the word `TOKEN`. -/
def keyMessage : String := "AKIAABCDEFGHIJKLMNOPTOKEN abcdefghij"

open NemoClaw.Security in
lemma redactSensitiveText_once :
    NemoClaw.Security.redactSensitiveText (some (.str keyMessage)) =
      some "<REDACTED>TOKEN abcdefghij" := by
  have hcontext : contextPatterns.all (Pattern.absent · (units keyMessage)) := by decide +kernel
  show some (String.ofList (ofUnits ((redactUnits (units keyMessage)).take 240))) = _
  rw [redactUnits_of_absent (by decide +kernel), foldl_append, foldl_append,
    foldl_of_absent hcontext]
  decide +kernel

open NemoClaw.Security in
lemma redactSensitiveText_twice :
    NemoClaw.Security.redactSensitiveText (some (.str "<REDACTED>TOKEN abcdefghij")) =
      some "<REDACTED>TOKEN <REDACTED>" := by
  have htoken : (contextPatterns.take 2).foldl
      (fun result r => replaceAll true r (fun _ => redacted) result)
      (units "<REDACTED>TOKEN abcdefghij") = units "<REDACTED>TOKEN <REDACTED>" := by
    decide +kernel
  show some (String.ofList (ofUnits ((redactUnits (units _)).take 240))) = _
  rw [redactUnits_of_absent (by decide +kernel), ← take_append_drop 2 contextPatterns,
    append_assoc, append_assoc, foldl_append, htoken, foldl_of_absent (by decide +kernel)]
  decide +kernel

theorem normalizeSession_serialize_bare :
    ∃ s, normalizeSession driftEnv (plainAmbient "s") (some (bareFile .null barePlan)) = some s ∧
      normalizeSession driftEnv (plainAmbient "t") (some (serializeSessionForDisk driftEnv s)) =
        some (s.rereadAs driftEnv (s.messagingPlan.map compactBarePlan)) :=
  have hread := normalizeSession_bareFile driftEnv (plainAmbient "s") .null barePlan
  ⟨_, hread, (normalizeSession_serialize hread (plainAmbient "t") (plainAmbient "t") ⟨none, []⟩).1⟩

/-- The replacement of a key leaves the word `TOKEN` on its own, and the next read redacts what
follows it. The rendering in a plan is not written to disk. -/
theorem normalizeSession_drifts :
    (∃ s, normalizeSession driftEnv (plainAmbient "s") (some (bareFile (messageFailure keyMessage) .null)) =
        some s ∧
      normalizeSession driftEnv (plainAmbient "s") (some (serializeSessionForDisk driftEnv s)) ≠
        some s) ∧
    ∃ s, normalizeSession driftEnv (plainAmbient "s") (some (bareFile .null barePlan)) = some s ∧
      normalizeSession driftEnv (plainAmbient "s") (some (serializeSessionForDisk driftEnv s)) ≠
        some s := by
  constructor
  · obtain ⟨s, hs, hfailure, -, hstable⟩ :=
      normalizeSession_bareFile_reread driftEnv (plainAmbient "s") (messageFailure keyMessage) .null
    refine ⟨s, hs, ?_⟩
    intro hsame
    have hread : sanitizeFailure driftEnv newYear (some (messageFailure keyMessage)) =
        some ⟨none, some "<REDACTED>TOKEN abcdefghij", newYear.val, false⟩ :=
      sanitizeFailure_message redactSensitiveText_once (by decide)
    have hagain : NemoClaw.Security.redactSensitiveText _ = _ :=
      (hstable hsame).failure _ (hfailure.trans hread)
    rw [ofString?, redactSensitiveText_twice] at hagain; simp at hagain
  · obtain ⟨s, hs, -, hplan, hstable⟩ :=
      normalizeSession_bareFile_reread driftEnv (plainAmbient "s") .null barePlan
    refine ⟨s, hs, ?_⟩
    intro hsame
    have hkept := (hstable hsame).messagingPlan
    rw [hplan] at hkept
    have hfirst : (rereadPlan driftEnv (some barePlan)).bind (·.get? "agentRender") =
        some (.arr [.obj [("channelId", .str "telegram")]]) := rfl
    have hagain : (rereadPlan driftEnv ((rereadPlan driftEnv (some barePlan)).map
        compactBarePlan)).bind (·.get? "agentRender") = some (.arr []) := rfl
    have hdrift := hfirst.symm.trans ((congrArg (Option.bind · _) hkept).symm.trans hagain)
    simp at hdrift

end NemoClaw.Onboard
