import NemoClaw.Onboard.Checkpoint

/- The resume intent of a DGX Station or Spark Express run: a secret-free record
of the installer's choices, parsed by its exact set of keys.

A Station intent starts unbound and is bound, once, to the model that provider
selection served; a Spark intent is never bound. What is proved:
`parseStationExpressResumeIntent_toJson` — a well-formed intent parses back to
itself, and `parseStationExpressResumeIntent_wellFormed` — only those are ever
parsed.

Correspondence (station-express-resume.ts, inference/vllm-models.ts ↔ Lean):
definitions keep the source's names. Of a vLLM model definition only the
fields these functions read are kept.
-/
namespace NemoClaw.Onboard

open Js Js.Json

inductive VllmPlatform where
  | spark
  | station
  | linux
  deriving DecidableEq

structure VllmModelDef where
  id : String
  envValue : String
  servedModelId : Option String
  platforms : List VllmPlatform
  deriving DecidableEq

def vllmModels : List VllmModelDef :=
  [⟨"Qwen/Qwen3.6-27B-FP8", "qwen3.6-27b", none, [.spark, .station, .linux]⟩,
   ⟨"deepseek-ai/DeepSeek-R1-Distill-Llama-70B", "deepseek-r1-distill-70b", none,
    [.spark, .station, .linux]⟩,
   ⟨"nvidia/NVIDIA-Nemotron-3-Nano-4B-FP8", "nemotron-3-nano-4b", none,
    [.spark, .station, .linux]⟩,
   ⟨"deepseek-ai/DeepSeek-V4-Flash", "deepseek-v4-flash", none, [.station]⟩,
   ⟨"nvidia/NVIDIA-Nemotron-3-Ultra-550B-A55B-NVFP4", "nemotron-3-ultra-550b-a55b",
    some "nvidia/nemotron-3-ultra-550b-a55b", [.station]⟩,
   ⟨"nvidia/Qwen3.6-35B-A3B-NVFP4", "qwen3.6-35b-a3b-nvfp4", none, [.spark]⟩]

/-- `selectVllmModelFromEnv` with its exception caught: an empty request and an
unknown one both give no model. -/
def selectVllmModelFromEnv (value : String) : Option VllmModelDef :=
  let requested := jsToLowerCase (jsTrim value)
  if requested = "" then none
  else vllmModels.find? fun model =>
    jsToLowerCase model.envValue == requested || jsToLowerCase model.id == requested

def stationModel (value : String) : Option VllmModelDef :=
  (selectVllmModelFromEnv value).filter fun m => VllmPlatform.station ∈ m.platforms

def sparkModel (value : String) : Option VllmModelDef :=
  (selectVllmModelFromEnv value).filter fun m => VllmPlatform.spark ∈ m.platforms

/-- Whether the value names the model's checkpoint, ignoring case. -/
def identifiesCheckpoint (model : VllmModelDef) (value : String) : Bool :=
  ([some model.envValue, some model.id, model.servedModelId].filterMap fun c => c).any
    fun candidate => jsToLowerCase candidate == jsToLowerCase value

/-- Letters, digits, dot, underscore, colon, slash and dash, and not empty. -/
def isSafeModelId (s : String) : Bool :=
  s != "" && s.toList.all fun c => isAlphaNum c || c ∈ ['.', '_', ':', '/', '-']

def maxServedModelLength : Nat := 512

def isServedModel (s : String) : Bool :=
  s != "" && decide (jsLength s ≤ maxServedModelLength) && isTrimmed s && isSafeModelId s

/-- `isValidStationExpressReceiptGeneration` on strings: 32 lower-case hex digits. -/
def isReceiptGeneration (s : String) : Bool := isLowerHexOf 32 s

/-! ## Intents -/

structure StationResumeIntent where
  model : String
  sandboxName : String
  receiptGeneration : Option String
  servedModel : Option String
  checkpointModel : Option String
  deriving DecidableEq

structure SparkResumeIntent where
  model : Option String
  sandboxName : String
  deriving DecidableEq

inductive StationExpressResumeIntent where
  | station (intent : StationResumeIntent)
  | spark (intent : SparkResumeIntent)
  deriving DecidableEq

namespace StationExpressResumeIntent

def boundModel : StationExpressResumeIntent → Option String
  | spark _ => none
  | station i =>
    match i.servedModel, i.checkpointModel with
    | some served, some checkpoint =>
      if served ≠ "" ∧ checkpoint ≠ "" then some served else none
    | _, _ => none

def toJson : StationExpressResumeIntent → Json
  | station i =>
    .obj ([("version", ofNat 1), ("model", .str i.model), ("sandboxName", .str i.sandboxName)] ++
      optField "receiptGeneration" (i.receiptGeneration.map .str) ++
      optField "servedModel" (i.servedModel.map .str) ++
      optField "checkpointModel" (i.checkpointModel.map .str))
  | spark i =>
    .obj ([("version", ofNat 1), ("kind", .str "spark"), ("sandboxName", .str i.sandboxName)] ++
      optField "model" (i.model.map .str))

end StationExpressResumeIntent

def joinedKeys (value : Json) : String := joinComma (sortedKeys value.keys)

def unboundIntentKeys : String := "model,sandboxName,version"
def unboundReceiptIntentKeys : String := "model,receiptGeneration,sandboxName,version"
def boundIntentKeys : String := "checkpointModel,model,sandboxName,servedModel,version"
def boundReceiptIntentKeys : String :=
  "checkpointModel,model,receiptGeneration,sandboxName,servedModel,version"
def sparkIntentKeys : String := "kind,sandboxName,version"
def sparkIntentKeysWithModel : String := "kind,model,sandboxName,version"

/-- A value that is exactly the canonical `envValue` of the model it selects. -/
def readModel (select : String → Option VllmModelDef) (v : Option Json) :
    Option VllmModelDef := do
  let value ← readString v
  let model ← select value
  guard (value = model.envValue)
  return model

/-- `validSandboxName`. -/
def readSandboxName (v : Option Json) : Option String :=
  (readString v).filter fun s => isValidSandboxName s

def parseSparkResumeIntent (value : Json) (hasModel : Bool) :
    Option StationExpressResumeIntent := do
  guard (readNat (value.get? "version") = some 1)
  guard (readString (value.get? "kind") = some "spark")
  let sandboxName ← readSandboxName (value.get? "sandboxName")
  if hasModel then
    let model ← readModel sparkModel (value.get? "model")
    return .spark { model := some model.envValue, sandboxName }
  else
    return .spark { model := none, sandboxName }

/-- The receipt generation of an intent whose keys say that it has one. -/
def readReceipt (hasReceipt : Bool) (v : Option Json) : Option (Option String) :=
  if hasReceipt then (((readString v).filter fun s => isReceiptGeneration s)).map some
  else some none

def readBinding (isBound : Bool) (model : VllmModelDef) (served checkpoint : Option Json) :
    Option (Option String × Option String) :=
  if isBound then do
    let servedModel ← readString served
    guard (isServedModel servedModel)
    let checkpointModel ← readString checkpoint
    guard (identifiesCheckpoint model checkpointModel)
    return (some servedModel, some checkpointModel)
  else some (none, none)

def parseStationResumeIntent (value : Json) (hasReceipt isBound : Bool) :
    Option StationExpressResumeIntent := do
  guard (readNat (value.get? "version") = some 1)
  let model ← readModel stationModel (value.get? "model")
  let sandboxName ← readSandboxName (value.get? "sandboxName")
  let receiptGeneration ← readReceipt hasReceipt (value.get? "receiptGeneration")
  let binding ← readBinding isBound model (value.get? "servedModel") (value.get? "checkpointModel")
  return .station
    { model := model.envValue, sandboxName, receiptGeneration,
      servedModel := binding.1, checkpointModel := binding.2 }

/-- The branch of the parser that the joined keys select. -/
def parseIntentWithKeys (value : Json) (keys : String) : Option StationExpressResumeIntent :=
  if keys = sparkIntentKeys then parseSparkResumeIntent value false
  else if keys = sparkIntentKeysWithModel then parseSparkResumeIntent value true
  else if keys = unboundIntentKeys then parseStationResumeIntent value false false
  else if keys = unboundReceiptIntentKeys then parseStationResumeIntent value true false
  else if keys = boundIntentKeys then parseStationResumeIntent value false true
  else if keys = boundReceiptIntentKeys then parseStationResumeIntent value true true
  else none

def parseStationExpressResumeIntent (value : Option Json) :
    Option StationExpressResumeIntent := do
  let value ← readObject value
  parseIntentWithKeys value (joinedKeys value)

/-- Unbound, or bound to a served model and a name of the model's checkpoint. -/
def StationResumeIntent.BindingOk (i : StationResumeIntent) (m : VllmModelDef) : Prop :=
  (i.servedModel = none ∧ i.checkpointModel = none) ∨
  ∃ s c, i.servedModel = some s ∧ i.checkpointModel = some c ∧ isServedModel s ∧
    identifiesCheckpoint m c

structure StationResumeIntent.WellFormed (i : StationResumeIntent) : Prop where
  model : ∃ m, stationModel i.model = some m ∧ i.model = m.envValue ∧ i.BindingOk m
  sandboxName : isValidSandboxName i.sandboxName
  receipt : NullOr isReceiptGeneration i.receiptGeneration

structure SparkResumeIntent.WellFormed (i : SparkResumeIntent) : Prop where
  model : ∀ s, i.model = some s → ∃ m, sparkModel s = some m ∧ s = m.envValue
  sandboxName : isValidSandboxName i.sandboxName

def StationExpressResumeIntent.WellFormed : StationExpressResumeIntent → Prop
  | .station i => i.WellFormed
  | .spark i => i.WellFormed

variable {m : VllmModelDef} {v : Option Json} {i : StationExpressResumeIntent}

lemma readModel_str {select : String → Option VllmModelDef} {s : String} (h : select s = some m)
    (henv : s = m.envValue) : readModel select (some (.str s)) = some m :=
  parse_bind rfl (parse_bind h (parse_guard henv rfl))

lemma readModel_eq_some {select : String → Option VllmModelDef} (h : readModel select v = some m) :
    select m.envValue = some m := by
  obtain ⟨s, -, h⟩ := parse_bind_inv h
  obtain ⟨m', hm', h⟩ := parse_bind_inv h
  obtain ⟨henv, h⟩ := parse_guard_inv h
  cases h
  rw [← henv]; exact hm'

lemma readSandboxName_str {s : String} (h : isValidSandboxName s) :
    readSandboxName (some (.str s)) = some s := by
  simp [readSandboxName, h]

lemma readSandboxName_eq_some {s : String} (h : readSandboxName v = some s) :
    isValidSandboxName s := by
  simp only [readSandboxName, Option.filter_eq_some_iff] at h; exact h.2

lemma parseSparkResumeIntent_wellFormed {value : Json} {hasModel : Bool}
    (h : parseSparkResumeIntent value hasModel = some i) : i.WellFormed := by
  obtain ⟨-, h⟩ := parse_guard_inv h
  obtain ⟨-, h⟩ := parse_guard_inv h
  obtain ⟨name, hname, h⟩ := parse_bind_inv h
  split at h
  · obtain ⟨m, hm, h⟩ := parse_bind_inv h
    cases h
    refine ⟨?_, readSandboxName_eq_some hname⟩
    intro s hs
    cases hs; exact ⟨m, readModel_eq_some hm, rfl⟩
  · cases h; exact ⟨fun s hs => (by cases hs), readSandboxName_eq_some hname⟩

lemma readReceipt_eq_some {hasReceipt : Bool} {o : Option String}
    (h : readReceipt hasReceipt v = some o) : NullOr isReceiptGeneration o := by
  intro s hs
  subst hs
  unfold readReceipt at h
  split at h
  · obtain ⟨s', hs', h⟩ := Option.map_eq_some_iff.mp h
    cases h; exact (Option.filter_eq_some_iff.mp hs').2
  · cases h

lemma readBinding_eq_some {isBound : Bool} {w : Option Json} {b : Option String × Option String}
    (h : readBinding isBound m v w = some b) (i : StationResumeIntent)
    (hserved : i.servedModel = b.1) (hcheckpoint : i.checkpointModel = b.2) : i.BindingOk m := by
  unfold readBinding at h
  split at h
  · obtain ⟨s, -, h⟩ := parse_bind_inv h
    obtain ⟨hs, h⟩ := parse_guard_inv h
    obtain ⟨c, -, h⟩ := parse_bind_inv h
    obtain ⟨hc, h⟩ := parse_guard_inv h
    cases h; exact .inr ⟨s, c, hserved, hcheckpoint, hs, hc⟩
  · cases h; exact .inl ⟨hserved, hcheckpoint⟩

lemma parseStationResumeIntent_wellFormed {value : Json} {hasReceipt isBound : Bool}
    (h : parseStationResumeIntent value hasReceipt isBound = some i) : i.WellFormed := by
  obtain ⟨-, h⟩ := parse_guard_inv h
  obtain ⟨m, hm, h⟩ := parse_bind_inv h
  obtain ⟨name, hname, h⟩ := parse_bind_inv h
  obtain ⟨receipt, hreceipt, h⟩ := parse_bind_inv h
  obtain ⟨binding, hbinding, h⟩ := parse_bind_inv h
  cases h
  exact {
    model := ⟨m, readModel_eq_some hm, rfl, readBinding_eq_some hbinding _ rfl rfl⟩
    sandboxName := readSandboxName_eq_some hname
    receipt := readReceipt_eq_some hreceipt }

theorem parseStationExpressResumeIntent_wellFormed (h : parseStationExpressResumeIntent v = some i) :
    i.WellFormed := by
  obtain ⟨value, -, h⟩ := parse_bind_inv h
  unfold parseIntentWithKeys at h
  split at h
  · exact parseSparkResumeIntent_wellFormed h
  split at h
  · exact parseSparkResumeIntent_wellFormed h
  split at h
  · exact parseStationResumeIntent_wellFormed h
  split at h
  · exact parseStationResumeIntent_wellFormed h
  split at h
  · exact parseStationResumeIntent_wellFormed h
  split at h
  · exact parseStationResumeIntent_wellFormed h
  · cases h

/-! ## Reading an intent back

The keys of a well-formed intent decide the branch of the parser; each of the six
key sets is compared once. -/

lemma parseSparkResumeIntent_toJson {i : SparkResumeIntent} (h : i.WellFormed) :
    parseSparkResumeIntent (StationExpressResumeIntent.spark i).toJson i.model.isSome =
      some (.spark i) := by
  obtain ⟨model, name⟩ := i
  refine parse_guard (readNat_ofNat 1) (parse_guard rfl ?_)
  refine parse_bind (readSandboxName_str h.sandboxName) ?_
  cases model with
  | none => rfl
  | some s =>
  obtain ⟨m, hm, henv⟩ := h.model s rfl
  refine parse_bind (readModel_str hm henv) ?_
  rw [henv]; rfl

lemma parseStationResumeIntent_toJson {i : StationResumeIntent} (h : i.WellFormed) :
    parseStationResumeIntent (StationExpressResumeIntent.station i).toJson
      i.receiptGeneration.isSome i.servedModel.isSome = some (.station i) := by
  obtain ⟨model, name, receipt, served, checkpoint⟩ := i
  obtain ⟨⟨m, hm, henv, hbinding⟩, hname, hreceipt⟩ := h
  simp only at hm henv hname hreceipt
  have hreceiptRead : readReceipt receipt.isSome
      ((StationExpressResumeIntent.station
        ⟨model, name, receipt, served, checkpoint⟩).toJson.get? "receiptGeneration") =
      some receipt := by
    cases receipt with
    | none => rfl
    | some r => simp [readReceipt, StationExpressResumeIntent.toJson, List.lookup_cons, optField,
        hreceipt r rfl]
  have hbindingRead : readBinding served.isSome m
      ((StationExpressResumeIntent.station
        ⟨model, name, receipt, served, checkpoint⟩).toJson.get? "servedModel")
      ((StationExpressResumeIntent.station
        ⟨model, name, receipt, served, checkpoint⟩).toJson.get? "checkpointModel") =
      some (served, checkpoint) := by
    rcases hbinding with ⟨rfl, rfl⟩ | ⟨s, c, rfl, rfl, hs, hc⟩
    · rfl
    have hserved : (StationExpressResumeIntent.station
        ⟨model, name, receipt, some s, some c⟩).toJson.get? "servedModel" = some (.str s) := by
      cases receipt <;> rfl
    have hcheckpoint : (StationExpressResumeIntent.station
        ⟨model, name, receipt, some s, some c⟩).toJson.get? "checkpointModel" =
        some (.str c) := by
      cases receipt <;> rfl
    rw [hserved, hcheckpoint]
    exact parse_bind rfl (parse_guard hs (parse_bind rfl (parse_guard hc rfl)))
  refine parse_guard (readNat_ofNat 1) (parse_bind (readModel_str hm henv) ?_)
  refine parse_bind (readSandboxName_str hname) ?_
  refine parse_bind hreceiptRead (parse_bind hbindingRead ?_)
  rw [← henv]; rfl

lemma parseStationExpressResumeIntent_of_keys {value : Json} {keys : String}
    (hobject : readObject (some value) = some value) (hkeys : joinedKeys value = keys) :
    parseStationExpressResumeIntent (some value) = parseIntentWithKeys value keys := by
  rw [parseStationExpressResumeIntent, hobject, ← hkeys]; rfl

lemma parseStationExpressResumeIntent_spark {i : SparkResumeIntent} (h : i.WellFormed) :
    parseStationExpressResumeIntent (some (StationExpressResumeIntent.spark i).toJson) =
      some (.spark i) := by
  have hparse := parseSparkResumeIntent_toJson h
  obtain ⟨model, name⟩ := i
  cases model with
  | none =>
    have hkeys : joinComma (sortedKeys ["version", "kind", "sandboxName"]) =
        sparkIntentKeys := by decide
    exact Eq.trans (parseStationExpressResumeIntent_of_keys rfl hkeys) hparse
  | some s =>
    have hkeys : joinComma (sortedKeys ["version", "kind", "sandboxName", "model"]) =
        sparkIntentKeysWithModel := by decide
    exact Eq.trans (parseStationExpressResumeIntent_of_keys rfl hkeys) hparse

lemma parseStationExpressResumeIntent_station {i : StationResumeIntent} (h : i.WellFormed) :
    parseStationExpressResumeIntent (some (StationExpressResumeIntent.station i).toJson) =
      some (.station i) := by
  have hparse := parseStationResumeIntent_toJson h
  obtain ⟨m, -, -, hbinding⟩ := h.model
  obtain ⟨model, name, receipt, served, checkpoint⟩ := i
  -- the two optional groups of keys give four key sets
  rcases hbinding with ⟨hs, hc⟩ | ⟨s, c, hs, hc, -, -⟩
  · simp only at hs hc
    subst hs hc
    cases receipt with
    | none =>
      have hkeys : joinComma (sortedKeys ["version", "model", "sandboxName"]) =
          unboundIntentKeys := by decide
      exact Eq.trans (parseStationExpressResumeIntent_of_keys rfl hkeys) hparse
    | some r =>
      have hkeys : joinComma (sortedKeys
          ["version", "model", "sandboxName", "receiptGeneration"]) =
          unboundReceiptIntentKeys := by decide
      exact Eq.trans (parseStationExpressResumeIntent_of_keys rfl hkeys) hparse
  · simp only at hs hc
    subst hs hc
    cases receipt with
    | none =>
      have hkeys : joinComma (sortedKeys
          ["version", "model", "sandboxName", "servedModel", "checkpointModel"]) =
          boundIntentKeys := by decide
      exact Eq.trans (parseStationExpressResumeIntent_of_keys rfl hkeys) hparse
    | some r =>
      have hkeys : joinComma (sortedKeys ["version", "model", "sandboxName",
          "receiptGeneration", "servedModel", "checkpointModel"]) =
          boundReceiptIntentKeys := by decide
      exact Eq.trans (parseStationExpressResumeIntent_of_keys rfl hkeys) hparse

theorem parseStationExpressResumeIntent_toJson (h : i.WellFormed) :
    parseStationExpressResumeIntent (some i.toJson) = some i := by
  cases i with
  | spark i => exact parseStationExpressResumeIntent_spark h
  | station i => exact parseStationExpressResumeIntent_station h

end NemoClaw.Onboard
