import NemoClaw.Onboard.Session

/- Which sessions the normaliser accepts, and what it keeps of them.

`Session.core` is the part of a session its decisions rest on. A session is
admissible when it satisfies the normaliser's cross-field rules; these are the
only reason for which a session in memory can be refused.

What is proved:
  1. `normalizeSession_admissible` — a session read from any file is admissible.
  2. `normalizeSession_toJson` — an admissible session is accepted again with
     its core unchanged; so is the object written to disk for it.
  3. `normalizeSession_reread` — whether a file is accepted, and with which
     checkpoint, does not depend on the clock.
-/
namespace NemoClaw.Onboard

open Js Js.Json

/-- The fields that decide whether a session is kept, and the machine's state and
revision. -/
structure SessionCore where
  sessionId : String
  resumable : Bool
  status : String
  mode : String
  provider : Option String
  model : Option String
  stationExpressIntent : Option StationExpressResumeIntent
  stationExpressReceiptRetirement : Option String
  providerStatus : StepStatus
  machineState : OnboardMachineState
  revision : Nat
  deriving DecidableEq

def Session.core (s : Session) : SessionCore :=
  { sessionId := s.sessionId
    resumable := s.resumable
    status := s.status
    mode := s.mode
    provider := s.provider
    model := s.model
    stationExpressIntent := s.stationExpressIntent
    stationExpressReceiptRetirement := s.stationExpressReceiptRetirement
    providerStatus := (s.steps .providerSelection).status
    machineState := s.machine.state
    revision := s.machine.revision }

namespace SessionCore

/-- Provider selection against the intent, as in `bindingConsistent`. -/
def Bound (c : SessionCore) (intent : StationExpressResumeIntent) : Prop :=
  match intent.boundModel with
  | some served =>
    c.providerStatus = .complete ∧ c.provider = some "vllm-local" ∧ c.model = some served
  | none => c.providerStatus ≠ .complete ∧ c.provider = none ∧ c.model = none

structure IntentOk (c : SessionCore) (intent : StationExpressResumeIntent) : Prop where
  wellFormed : intent.WellFormed
  resumable : c.resumable
  mode : c.mode = "non-interactive"
  status : c.status = "in_progress" ∨ c.status = "failed"
  bound : c.Bound intent

structure RetirementOk (c : SessionCore) (generation : String) : Prop where
  wellFormed : isReceiptGeneration generation
  status : c.status = "complete"
  resumable : c.resumable = false
  noIntent : c.stationExpressIntent = none

/-- The cross-field rules of `normalizeSession`. -/
structure Admissible (c : SessionCore) : Prop where
  intent : ∀ i, c.stationExpressIntent = some i → c.IntentOk i
  retirement : ∀ g, c.stationExpressReceiptRetirement = some g → c.RetirementOk g

end SessionCore

lemma bindingConsistent_iff (s : Session) :
    bindingConsistent s ↔ ∀ i, s.stationExpressIntent = some i → s.core.Bound i := by
  unfold bindingConsistent
  cases hi : s.stationExpressIntent with
  | none => simp
  | some intent =>
  have hb : (s.core.Bound intent ↔ ∀ i, some intent = some i → s.core.Bound i) :=
    ⟨fun h i hi => Option.some.inj hi ▸ h, fun h => h intent rfl⟩
  rw [← hb]
  unfold SessionCore.Bound
  cases hbound : intent.boundModel <;> simp [Session.core, hbound]

/-! ## Reading a session back -/

lemma readOrReject_of_eq {α : Type} {parse : Option Json → Option α} {f : α → Json}
    {o : Option α} (hnull : parse (some .null) = none)
    (h : ∀ a, o = some a → parse (some (f a)) = some a) :
    readOrReject parse (some (ofOption f o)) = some o := by
  cases o with
  | none => simp [ofOption, readOrReject, hnull, isNull]
  | some a => simp [ofOption, readOrReject, h a rfl]

lemma parseServingProfileProvenance_val (p : ServingProfileProvenance) :
    parseServingProfileProvenance (some p.val) = some p := by
  simp [parseServingProfileProvenance, p.property]

lemma normalizeReasoningEffort_id (e : ReasoningEffort) :
    normalizeReasoningEffort (some (.str e.id)) = some e := by
  cases e <;> decide

variable (env : Env) {s : Session} {v : Option Json}

lemma parseStepState_toJson (s : StepState) :
    ∃ s', parseStepState env (some s.toJson) = some s' ∧ s'.status = s.status := by
  have hstatus : readStepStatus (some (.str s.status.id)) = some s.status := by
    cases s.status <;> rfl
  exact ⟨_, parse_bind rfl (parse_bind hstatus rfl), rfl⟩

lemma normalizedSteps_toJson (steps : StepName → StepState) (n : StepName) :
    (normalizedSteps env
      (some (.obj (StepName.all.map fun m => (m.key, (steps m).toJson)))) n).status =
      (steps n).status := by
  obtain ⟨s', hs', hstatus⟩ := parseStepState_toJson env (steps n)
  have hlookup : (Json.obj (StepName.all.map fun m => (m.key, (steps m).toJson))).get? n.key =
      some (steps n).toJson := by
    cases n <;> rfl
  simp only [normalizedSteps, readObject_obj, Option.bind_some, hlookup, hs', Option.getD_some,
    hstatus]

lemma parseMachineSnapshot_toJson (m : OnboardMachineSnapshot) (sessionId : String) :
    ∃ m', parseMachineSnapshot env (some m.toJson) sessionId = some m' ∧
      m'.state = m.state ∧ m'.revision = m.revision := by
  refine ⟨_, parse_bind rfl (parse_guard (readNat_ofNat 1)
    (parse_bind (readMachineState_id m.state) rfl)), rfl, ?_⟩
  show ((readNat (some (ofNat m.revision))).getD 0) = m.revision; simp

/-- The draft that the normaliser makes of a session in memory. -/
def Session.redraft (env : Env) (amb : Ambient) (s : Session) : Session :=
  draftSession env amb s.toJson s.servingProfileProvenance s.compatibleEndpointReasoningEffort
    s.stationExpressIntent s.stationExpressReceiptRetirement

/-- The draft keeps everything that the normaliser's checks look at. -/
structure SameDraft (draft s : Session) : Prop where
  sessionId : draft.sessionId = s.sessionId
  resumable : draft.resumable = s.resumable
  status : draft.status = s.status
  mode : draft.mode = s.mode
  provider : draft.provider = s.provider
  model : draft.model = s.model
  intent : draft.stationExpressIntent = s.stationExpressIntent
  retirement : draft.stationExpressReceiptRetirement = s.stationExpressReceiptRetirement
  steps : ∀ n, (draft.steps n).status = (s.steps n).status

lemma redraft_same (amb : Ambient) (hintent : ∀ i, s.stationExpressIntent = some i → i.WellFormed)
    (hretirement : NullOr isReceiptGeneration s.stationExpressReceiptRetirement) :
    SameDraft (s.redraft env amb) s := by
  refine ⟨rfl, ?_, rfl, rfl, ?_, ?_, ?_, ?_, ?_⟩
  · show (!(readBool (some (.bool s.resumable)) == some false)) = s.resumable
    cases s.resumable <;> rfl
  · exact readString_ofString? s.provider
  · exact readString_ofString? s.model
  · show (s.stationExpressIntent.bind fun i =>
      parseStationExpressResumeIntent (some i.toJson)) = s.stationExpressIntent
    cases hi : s.stationExpressIntent with
    | none => rfl
    | some i => exact parseStationExpressResumeIntent_toJson (hintent i hi)
  · show s.stationExpressReceiptRetirement.filter (fun g => isReceiptGeneration g) =
      s.stationExpressReceiptRetirement
    cases hg : s.stationExpressReceiptRetirement with
    | none => rfl
    | some g => simp [hretirement g hg]
  · exact normalizedSteps_toJson env s.steps

lemma readOrReject_session (hintent : ∀ i, s.stationExpressIntent = some i → i.WellFormed)
    (hretirement : NullOr isReceiptGeneration s.stationExpressReceiptRetirement) :
    readOrReject parseServingProfileProvenance (s.toJson.get? "servingProfileProvenance") =
        some s.servingProfileProvenance ∧
      readOrReject normalizeReasoningEffort
        (s.toJson.get? "compatibleEndpointReasoningEffort") =
        some s.compatibleEndpointReasoningEffort ∧
      readOrReject parseStationExpressResumeIntent (s.toJson.get? "stationExpressIntent") =
        some s.stationExpressIntent ∧
      readOrReject (fun v => (readString v).filter fun g => isReceiptGeneration g)
        (s.toJson.get? "stationExpressReceiptRetirement") =
        some s.stationExpressReceiptRetirement := by
  refine ⟨?_, ?_, ?_, ?_⟩
  · exact readOrReject_of_eq rfl fun p _ => parseServingProfileProvenance_val p
  · exact readOrReject_of_eq rfl fun e _ => normalizeReasoningEffort_id e
  · exact readOrReject_of_eq rfl fun i hi => parseStationExpressResumeIntent_toJson (hintent i hi)
  · show readOrReject _ (some (ofString? s.stationExpressReceiptRetirement)) = _
    have hjson : ofString? s.stationExpressReceiptRetirement =
        ofOption Json.str s.stationExpressReceiptRetirement := by
      cases s.stationExpressReceiptRetirement <;> rfl
    rw [hjson]
    refine readOrReject_of_eq rfl ?_
    intro g hg; simp [hretirement g hg]

/-- The session with its messaging plan as it is written to disk. -/
def Session.compacted (env : Env) (s : Session) : Session :=
  { s with messagingPlan := s.messagingPlan.map env.compactSandboxMessagingPlanForPersistence }

lemma normalizeSession_redraft (amb : Ambient) (h : s.core.Admissible) :
    normalizeSession env amb (some s.toJson) =
      some (withMachine env s.toJson (s.redraft env amb)) := by
  have hintent : ∀ i, s.stationExpressIntent = some i → i.WellFormed :=
    fun i hi => (h.intent i hi).wellFormed
  have hretirement : NullOr isReceiptGeneration s.stationExpressReceiptRetirement :=
    fun g hg => (h.retirement g hg).wellFormed
  obtain ⟨hprov, heffort, hint, hret⟩ := readOrReject_session hintent hretirement
  have hsame := redraft_same env amb hintent hretirement
  have hallowed : intentAllowed s.toJson (s.redraft env amb) := by
    unfold intentAllowed
    rw [hsame.intent, hsame.mode]
    cases hintentEq : s.stationExpressIntent with
    | none => exact .inl rfl
    | some i =>
    obtain ⟨-, hres, hmode, hstatus, -⟩ := h.intent i hintentEq
    refine .inr ⟨hres, hmode, ?_⟩
    rcases hstatus with hin | hfailed
    · exact .inl (congrArg some hin)
    · exact .inr (congrArg some hfailed)
  have hretire : retirementAllowed (s.redraft env amb) := by
    unfold retirementAllowed
    rw [hsame.intent, hsame.retirement, hsame.resumable, hsame.status]
    cases hgeq : s.stationExpressReceiptRetirement with
    | none => exact .inl rfl
    | some g => obtain ⟨-, hs, hr, hn⟩ := h.retirement g hgeq; exact .inr ⟨hs, hr, hn⟩
  have hbinding : bindingConsistent (s.redraft env amb) := by
    rw [bindingConsistent_iff]
    intro i hieq
    rw [hsame.intent] at hieq
    have hbound := (h.intent i hieq).bound
    unfold SessionCore.Bound Session.core at hbound ⊢
    simp only [hsame.steps, hsame.provider, hsame.model]; exact hbound
  refine parse_bind rfl (parse_guard (readNat_ofNat 1) (parse_bind hprov ?_))
  refine parse_bind heffort (parse_bind hint (parse_bind hret ?_))
  exact parse_guard hallowed (parse_guard hretire (parse_guard hbinding rfl))

lemma withMachine_toJson {env : Env} {draft : Session} (hid : draft.sessionId = s.sessionId)
    {m : OnboardMachineSnapshot}
    (hm : parseMachineSnapshot env (some s.machine.toJson) s.sessionId = some m) :
    withMachine env s.toJson draft = { draft with machine := m } := by
  have hmachine : parseMachineSnapshot env (s.toJson.get? "machine") draft.sessionId = some m := by
    rw [hid]; exact hm
  unfold withMachine
  rw [hmachine]; rfl

theorem normalizeSession_toJson (amb : Ambient) (h : s.core.Admissible) :
    ∃ s', normalizeSession env amb (some s.toJson) = some s' ∧ s'.core = s.core ∧
      s'.checkpoint = parseStoredCheckpoint env.urls
        (some (ofOption serializeCheckpoint s.checkpoint)) := by
  have hsame := redraft_same env amb (fun i hi => (h.intent i hi).wellFormed)
    fun g hg => (h.retirement g hg).wellFormed
  obtain ⟨m, hm, hstate, hrevision⟩ := parseMachineSnapshot_toJson env s.machine s.sessionId
  refine ⟨{ s.redraft env amb with machine := m }, ?_, ?_, rfl⟩
  · rw [normalizeSession_redraft env amb h, withMachine_toJson hsame.sessionId hm]
  · simp only [Session.core, hsame.sessionId, hsame.resumable, hsame.status, hsame.mode,
      hsame.provider, hsame.model, hsame.intent, hsame.retirement, hsame.steps, hstate, hrevision]

theorem normalizeSession_admissible {env : Env} {amb : Ambient}
    (h : normalizeSession env amb v = some s) : s.core.Admissible := by
  obtain ⟨data, -, h⟩ := parse_bind_inv h
  obtain ⟨-, h⟩ := parse_guard_inv h
  obtain ⟨provenance, -, h⟩ := parse_bind_inv h
  obtain ⟨effort, -, h⟩ := parse_bind_inv h
  obtain ⟨intent, -, h⟩ := parse_bind_inv h
  obtain ⟨retirement, -, h⟩ := parse_bind_inv h
  obtain ⟨hallowed, h⟩ := parse_guard_inv h
  obtain ⟨hretire, h⟩ := parse_guard_inv h
  obtain ⟨hbinding, h⟩ := parse_guard_inv h
  cases h
  rw [bindingConsistent_iff] at hbinding
  refine ⟨?_, ?_⟩
  · intro i hi
    have hparsed : (intent.bind fun i => parseStationExpressResumeIntent (some i.toJson)) =
        some i := hi
    obtain ⟨i', -, hi'⟩ := Option.bind_eq_some_iff.mp hparsed
    rcases hallowed with hnone | ⟨hres, hmode, hstatus⟩
    · have hnone' : (intent.bind fun i => parseStationExpressResumeIntent (some i.toJson)) =
          none := hnone
      rw [hparsed] at hnone'
      cases hnone'
    · refine ⟨parseStationExpressResumeIntent_wellFormed hi', ?_, hmode, ?_, hbinding i hi⟩
      · show (!(readBool (data.get? "resumable") == some false))
        rw [readBool_of_isTrue hres]; rfl
      · show (readString (data.get? "status")).getD _ = _ ∨
          (readString (data.get? "status")).getD _ = _
        rcases hstatus with hin | hfailed
        · exact .inl (by rw [hin]; rfl)
        · exact .inr (by rw [hfailed]; rfl)
  · intro g hg
    have hfilter : retirement.filter (fun g => isReceiptGeneration g) = some g := hg
    rcases hretire with hnone | ⟨hstatus, hres, hn⟩
    · have hnone' : retirement.filter (fun g => isReceiptGeneration g) = none := hnone
      rw [hfilter] at hnone'
      cases hnone'
    · exact ⟨(Option.filter_eq_some_iff.mp hfilter).2, hstatus, hres, hn⟩

/-- Whether a file is accepted, and with which checkpoint, does not depend on the clock. -/
theorem normalizeSession_reread {env : Env} {a : Ambient} (b : Ambient)
    (h : normalizeSession env a v = some s) :
    ∃ s', normalizeSession env b v = some s' ∧ s'.checkpoint = s.checkpoint := by
  obtain ⟨data, hdata, h⟩ := parse_bind_inv h
  obtain ⟨hversion, h⟩ := parse_guard_inv h
  obtain ⟨provenance, hprov, h⟩ := parse_bind_inv h
  obtain ⟨effort, heffort, h⟩ := parse_bind_inv h
  obtain ⟨intent, hintent, h⟩ := parse_bind_inv h
  obtain ⟨retirement, hret, h⟩ := parse_bind_inv h
  obtain ⟨hallowed, h⟩ := parse_guard_inv h
  obtain ⟨hretire, h⟩ := parse_guard_inv h
  obtain ⟨hbinding, h⟩ := parse_guard_inv h
  cases h
  refine ⟨withMachine env data (draftSession env b data provenance effort intent retirement),
    ?_, rfl⟩
  exact parse_bind hdata (parse_guard hversion (parse_bind hprov (parse_bind heffort
    (parse_bind hintent (parse_bind hret (parse_guard hallowed (parse_guard hretire
    (parse_guard hbinding rfl))))))))

lemma normalizeSession_draft {env : Env} {amb : Ambient} (h : normalizeSession env amb v = some s) :
    ∃ data provenance effort intent retirement,
      s = withMachine env data (draftSession env amb data provenance effort intent retirement) := by
  obtain ⟨data, -, h⟩ := parse_bind_inv h
  obtain ⟨-, h⟩ := parse_guard_inv h
  obtain ⟨provenance, -, h⟩ := parse_bind_inv h
  obtain ⟨effort, -, h⟩ := parse_bind_inv h
  obtain ⟨intent, -, h⟩ := parse_bind_inv h
  obtain ⟨retirement, -, h⟩ := parse_bind_inv h
  obtain ⟨-, h⟩ := parse_guard_inv h
  obtain ⟨-, h⟩ := parse_guard_inv h
  obtain ⟨-, h⟩ := parse_guard_inv h
  exact ⟨data, provenance, effort, intent, retirement, (Option.some.inj h).symm⟩

lemma normalizeSession_checkpoint {env : Env} {amb : Ambient} {c : OnboardCheckpoint}
    (h : normalizeSession env amb v = some s) (hc : s.checkpoint = some c) :
    c.WellFormed env.urls := by
  obtain ⟨data, provenance, effort, intent, retirement, rfl⟩ := normalizeSession_draft h
  exact parseStoredCheckpoint_wellFormed (v := data.get? "checkpoint") hc

end NemoClaw.Onboard
