import NemoClaw.Js.Call
import NemoClaw.Js.CanonicalText
import NemoClaw.Js.Text

/- The compare-and-swap that publishes a rebuilt sandbox (`registry/rebuild-authority.ts`).

A rebuild captures what the row of a sandbox was: the identity it replaces, and a digest
of the whole row. It may publish its replacement only while the row still has that
authority; the digest is of a canonical JSON text, so what must not have changed is
everything in the row but the order of properties and undefined ones.

What is proved:
  1. `captureSandboxRebuildAuthority_same` — rows that are the same in that sense have one
     authority.
  2. `swap_commits_iff` — a replacement that passes its checks is published exactly if the
     row is still the captured one.
  3. `swapSandboxRebuildAuthorityInRegistry_exact` — and nothing else in the registry
     changes.
  4. `swap_inherited` — a removed sandbox named like a method of every object makes it
     throw.

Correspondence (registry/rebuild-authority.ts, registry/workload.ts ↔ Lean): definitions
keep the source's names. A copy of a value is the value. Of `cloneSandboxWorkloadReceipt`
the reading of a managed receipt is here; whether the texts in it pass their patterns and
the startup profile decodes is the parameter `receiptAccepted`. A property of another type
than the declared one is read as undefined.
-/
namespace NemoClaw

open Js Js.Value List

/-- A row in memory, whose properties may be undefined. The driver is a text, null or
undefined, as declared. -/
structure MemoryEntry where
  fields : List (String × Value)
  keys : (fields.map (·.1)).Nodup
  values : ∀ kv ∈ fields, kv.2.Plain
  driver : (∃ s, (Value.obj fields).get "openshellDriver" = .str s) ∨
    (Value.obj fields).get "openshellDriver" = .null ∨
    (Value.obj fields).get "openshellDriver" = .other

namespace MemoryEntry

def toValue (entry : MemoryEntry) : Value := .obj entry.fields

def get (entry : MemoryEntry) (key : String) : Value := entry.toValue.get key

lemma plain (entry : MemoryEntry) : entry.toValue.Plain :=
  .obj entry.fields entry.keys entry.values

/-- The same row up to the order of its properties, at every depth, and undefined ones. -/
def SameRow (entry entry' : MemoryEntry) : Prop := entry.toValue.Same entry'.toValue

lemma SameRow.get {entry entry' : MemoryEntry} (h : entry.SameRow entry') (key : String) :
    (entry.get key).Same (entry'.get key) := by
  cases h with
  | obj _ _ hall => exact hall key

end MemoryEntry

structure MemoryRegistry where
  sandboxes : List (String × MemoryEntry)
  others : List (String × Value)

structure ManagedWorkloadReceipt where
  reference : String
  platform : Option String
  release : String
  sourceRevision : String
  sourceCohort : String
  encodedProfile : String
  startupProfileSha256 : String
  credentialProxyReplayRequired : Bool
  corporateCaB64 : Option String
  deriving DecidableEq

def bool? : Value → Option Bool
  | .bool b => some b
  | _ => none

/-- A property that may be undefined. -/
def optionalString : Value → Option (Option String)
  | .other => some none
  | .str s => some (some s)
  | _ => none

def readManagedReceipt (value : Value) : Option ManagedWorkloadReceipt := do
  guard ((value.get "schemaVersion").number? = some 1)
  guard ((value.get "kind").string? = some "managed-image")
  guard (bool? (value.get "shared") = some true)
  let reference ← (value.get "reference").string?
  let platform ← optionalString (value.get "platform")
  let release ← (value.get "release").string?
  let sourceRevision ← (value.get "sourceRevision").string?
  let sourceCohort ← (value.get "sourceCohort").string?
  guard ((value.get "capabilityContractVersion").number? = some 1)
  guard ((value.get "startupProfileContractVersion").number? = some 1)
  let startupProfileSha256 ← (value.get "startupProfileSha256").string?
  let credentialProxyReplayRequired ← bool? (value.get "credentialProxyReplayRequired")
  let encodedProfile ← (value.get "encodedProfile").string?
  let corporateCaB64 ← optionalString (value.get "corporateCaB64")
  return { reference, platform, release, sourceRevision, sourceCohort, encodedProfile,
           startupProfileSha256, credentialProxyReplayRequired, corporateCaB64 }

def optText (key : String) : Option String → List (String × Value)
  | none => []
  | some s => [(key, .str s)]

def ManagedWorkloadReceipt.toValue (receipt : ManagedWorkloadReceipt) : Value :=
  .obj ([("schemaVersion", .num 1), ("kind", .str "managed-image"),
      ("reference", .str receipt.reference)] ++ optText "platform" receipt.platform ++
    [("release", .str receipt.release), ("sourceRevision", .str receipt.sourceRevision),
      ("sourceCohort", .str receipt.sourceCohort), ("capabilityContractVersion", .num 1),
      ("startupProfileContractVersion", .num 1),
      ("encodedProfile", .str receipt.encodedProfile),
      ("startupProfileSha256", .str receipt.startupProfileSha256),
      ("credentialProxyReplayRequired", .bool receipt.credentialProxyReplayRequired)] ++
    optText "corporateCaB64" receipt.corporateCaB64 ++ [("shared", .bool true)])

/-- What the module is given: the hash, how numbers are written, and which receipts pass. -/
structure AuthorityApi where
  sha256 : String → String
  numberText : ℚ → String
  receiptAccepted : ManagedWorkloadReceipt → Bool

/-! ## Capturing an authority -/

def maxAuthorityBytes : ℕ := 4096

/-- `boundedIdentity`: the text, if it is one. -/
def boundedIdentity (value : Value) : Option String :=
  value.string?.filter fun s =>
    jsTrim s ≠ "" ∧ '\x00' ∉ s.toList ∧ byteLength s ≤ maxAuthorityBytes

def authorityError (message : String) : String :=
  "Invalid sandbox rebuild authority: " ++ message

def orThrow {α : Type} (value : Option α) (message : String) : Except String α :=
  match value with
  | some a => .ok a
  | none => .error (authorityError message)

def managedImageRepositories : List (String × String) :=
  [("openclaw", "ghcr.io/nvidia/nemoclaw/openclaw-sandbox"),
    ("hermes", "ghcr.io/nvidia/nemoclaw/hermes-sandbox"),
    ("langchain-deepagents-code", "ghcr.io/nvidia/nemoclaw/langchain-deepagents-code-sandbox")]

structure SandboxRebuildAuthority where
  sandboxName : String
  providerId : String
  recordedDriver : Option String
  lifecycleGeneration : String
  liveIdentityFingerprint : String
  entryRevisionSha256 : String
  workload : ManagedWorkloadReceipt
  deriving DecidableEq

section Authority

variable (api : AuthorityApi)

def clonedManagedReceipt (value : Value) : Except String ManagedWorkloadReceipt :=
  orThrow ((readManagedReceipt value).filter api.receiptAccepted)
    "a managed replacement requires a valid durable workload receipt"

def receiptAgent (agent : Value) (workload : ManagedWorkloadReceipt) : Option String :=
  agent.string?.filter fun agent => (managedImageRepositories.lookup agent).any fun repository =>
    (repository ++ "@sha256:").toList.isPrefixOf workload.reference.toList

def requireReceiptAgent (agent : Value) (workload : ManagedWorkloadReceipt) (label : String) :
    Except String String :=
  orThrow (receiptAgent agent workload)
    (label ++ " agent does not match its managed workload receipt")

def sandboxEntryRevision (entry : MemoryEntry) : String :=
  api.sha256 (canonicalJson api.numberText entry.toValue)

def captureSandboxRebuildAuthority (entry : MemoryEntry) (providerId : String) :
    Except String SandboxRebuildAuthority := do
  let sandboxName ← orThrow (boundedIdentity (entry.get "name"))
    "sandbox name is missing or too large"
  let providerId ← orThrow (boundedIdentity (.str providerId))
    "provider identity is missing or too large"
  require (bool? (entry.get "pendingRouteReservation") ≠ some true)
    (authorityError "route reservations cannot be rebuilt")
  let lifecycleGeneration ← orThrow (boundedIdentity (entry.get "lifecycleGeneration"))
    "lifecycle generation is missing or invalid"
  let liveIdentityFingerprint ←
    orThrow (boundedIdentity (entry.get "lifecycleLiveIdentityFingerprint"))
      "live identity fingerprint is missing or invalid"
  let workload ← clonedManagedReceipt api (entry.get "workload")
  let _ ← requireReceiptAgent (entry.get "agent") workload "authoritative"
  require ((entry.get "imageTag").string? = some workload.reference)
    (authorityError "image reference does not match the managed workload receipt")
  return { sandboxName
           providerId
           recordedDriver := (entry.get "openshellDriver").string?
           lifecycleGeneration
           liveIdentityFingerprint
           entryRevisionSha256 := sandboxEntryRevision api entry
           workload }

def sandboxRebuildAuthorityMatchesEntry (authority : SandboxRebuildAuthority)
    (entry : MemoryEntry) : Bool :=
  match captureSandboxRebuildAuthority api entry authority.providerId with
  | .ok current => current = authority
  | .error _ => false

end Authority

def isScalar : Value → Bool
  | .arr _ => false
  | .obj _ => false
  | _ => true

lemma plain_of_scalar {value : Value} (h : isScalar value) : value.Plain := by
  cases value with
  | null => exact .null
  | bool b => exact .bool b
  | num q => exact .num q
  | str s => exact .str s
  | other => exact .other
  | arr xs => cases h
  | obj fields => cases h

lemma ManagedWorkloadReceipt.plain (receipt : ManagedWorkloadReceipt) : receipt.toValue.Plain := by
  obtain ⟨reference, platform, release, sourceRevision, sourceCohort, encodedProfile,
    startupProfileSha256, credentialProxyReplayRequired, corporateCaB64⟩ := receipt
  refine .obj _ ?_ fun kv hkv => plain_of_scalar ?_
  · cases platform <;> cases corporateCaB64
    all_goals
      simp [optText]
  · revert kv
    cases platform <;> cases corporateCaB64
    all_goals exact fun kv hkv => all_eq_true (p := fun kv => isScalar kv.2) |>.mp rfl kv hkv

namespace MemoryEntry

/-- `{ ...entry, workload }`. -/
def withWorkload (entry : MemoryEntry) (workload : ManagedWorkloadReceipt) : MemoryEntry where
  fields := setOwn entry.fields "workload" workload.toValue
  keys := nodup_setOwn entry.keys _ _
  values := by
    intro kv hkv
    cases mem_setOwn hkv with
    | inl hnew =>
      rw [hnew]
      exact workload.plain
    | inr hold => exact entry.values kv hold
  driver := by
    have hdriver : (Value.obj (setOwn entry.fields "workload" workload.toValue)).get
        "openshellDriver" = (Value.obj entry.fields).get "openshellDriver" := by
      show ((setOwn _ _ _).lookup _).getD _ = _
      rw [lookup_setOwn, if_neg (by decide)]
      rfl
    rw [hdriver]
    exact entry.driver

/-- A copy of `Object.prototype`. -/
def empty : MemoryEntry := ⟨[], nodup_nil, fun _ h => absurd h not_mem_nil, .inr (.inr rfl)⟩

end MemoryEntry

section Swap

variable (api : AuthorityApi)

def validateReplacement (expected : SandboxRebuildAuthority) (replacement : MemoryEntry) :
    Except String MemoryEntry := do
  require ((replacement.get "name").string? = some expected.sandboxName)
    (authorityError "replacement changed the sandbox name")
  require (bool? (replacement.get "pendingRouteReservation") ≠ some true)
    (authorityError "replacement is only a route reservation")
  require ((replacement.get "openshellDriver").string? = some expected.providerId)
    (authorityError "replacement does not record the selected provider identity")
  require ((boundedIdentity (replacement.get "lifecycleGeneration")).any
      (· ≠ expected.lifecycleGeneration))
    (authorityError "replacement must have a distinct lifecycle generation")
  require ((boundedIdentity (replacement.get "lifecycleLiveIdentityFingerprint")).any
      (· ≠ expected.liveIdentityFingerprint))
    (authorityError "replacement must have a distinct live identity fingerprint")
  let workload ← clonedManagedReceipt api (replacement.get "workload")
  let _ ← requireReceiptAgent (replacement.get "agent") workload "replacement"
  require ((replacement.get "imageTag").string? = some workload.reference)
    (authorityError "replacement image reference does not match its managed workload receipt")
  return replacement.withWorkload workload

inductive SandboxRebuildAuthoritySwapResult where
  | committed (entry : MemoryEntry)
  | staleAuthority (entry : Option MemoryEntry)

/-- What `registry.sandboxes[name]` finds. -/
inductive FoundRow where
  | row (entry : MemoryEntry)
  | absent
  | objectPrototype
  | inheritedFunction

def MemoryRegistry.find (registry : MemoryRegistry) (name : String) : FoundRow :=
  match registry.sandboxes.lookup name with
  | some entry => .row entry
  | none =>
    if name = "__proto__" then .objectPrototype
    else if name ∈ objectPrototypeKeys then .inheritedFunction
    else .absent

/-- What an object inherits has no lifecycle generation, so a copy of it is returned; but a
function cannot be copied. -/
def swapSandboxRebuildAuthorityInRegistry (registry : MemoryRegistry)
    (expected : SandboxRebuildAuthority) (replacementInput : MemoryEntry) :
    Except String (MemoryRegistry × SandboxRebuildAuthoritySwapResult) := do
  let replacement ← validateReplacement api expected replacementInput
  match registry.find expected.sandboxName with
  | .row current =>
    if sandboxRebuildAuthorityMatchesEntry api expected current then
      .ok ({ registry with
        sandboxes := setOwn registry.sandboxes expected.sandboxName replacement },
        .committed replacement)
    else .ok (registry, .staleAuthority (some current))
  | .absent => .ok (registry, .staleAuthority none)
  | .objectPrototype => .ok (registry, .staleAuthority (some .empty))
  | .inheritedFunction => .error "function could not be cloned."

end Swap

/-! ## Rows that are the same are read alike -/

variable {v w : Value}

section

variable (h : v.Same w)
include h

lemma get_same (key : String) : (v.get key).Same (w.get key) := by
  cases h with
  | obj _ _ hall => exact hall key
  | _ => exact .other

lemma string?_same : v.string? = w.string? := by
  cases h <;> rfl

lemma number?_same : v.number? = w.number? := by
  cases h <;> rfl

lemma bool?_same : bool? v = bool? w := by
  cases h <;> rfl

lemma optionalString_same : optionalString v = optionalString w := by
  cases h <;> rfl

lemma boundedIdentity_same : boundedIdentity v = boundedIdentity w := by
  unfold boundedIdentity
  rw [string?_same h]

lemma readManagedReceipt_same : readManagedReceipt v = readManagedReceipt w := by
  have hstring : ∀ key, (v.get key).string? = (w.get key).string? :=
    fun key => string?_same (get_same h key)
  have hnumber : ∀ key, (v.get key).number? = (w.get key).number? :=
    fun key => number?_same (get_same h key)
  have hbool : ∀ key, bool? (v.get key) = bool? (w.get key) :=
    fun key => bool?_same (get_same h key)
  have hoptional : ∀ key, optionalString (v.get key) = optionalString (w.get key) :=
    fun key => optionalString_same (get_same h key)
  unfold readManagedReceipt; simp only [hstring, hnumber, hbool, hoptional]

end

section Capture

variable {api : AuthorityApi} {entry current captured : MemoryEntry} {providerId : String}
  {expected : SandboxRebuildAuthority}

lemma requireReceiptAgent_same {v w : Value} (h : v.Same w) (workload : ManagedWorkloadReceipt)
    (label : String) : requireReceiptAgent v workload label = requireReceiptAgent w workload label := by
  unfold requireReceiptAgent receiptAgent
  rw [string?_same h]

theorem captureSandboxRebuildAuthority_same (h : current.SameRow captured) (providerId : String) :
    captureSandboxRebuildAuthority api current providerId =
      captureSandboxRebuildAuthority api captured providerId := by
  have hbounded : ∀ key, boundedIdentity (current.get key) = boundedIdentity (captured.get key) :=
    fun key => boundedIdentity_same (h.get key)
  have hreceipt : readManagedReceipt (current.get "workload") =
      readManagedReceipt (captured.get "workload") := readManagedReceipt_same (h.get _)
  have hrevision : sandboxEntryRevision api current = sandboxEntryRevision api captured :=
    congrArg api.sha256 (sameText _ _ current.plain captured.plain h)
  unfold captureSandboxRebuildAuthority clonedManagedReceipt
  simp only [hbounded, hreceipt, hrevision, bool?_same (h.get "pendingRouteReservation"),
    string?_same (h.get "imageTag"), string?_same (h.get "openshellDriver"),
    requireReceiptAgent_same (h.get "agent")]

lemma orThrow_eq_ok {α : Type} {value : Option α} {message : String} {a : α}
    (h : orThrow value message = .ok a) : value = some a := by
  cases value with
  | none => cases h
  | some b => rw [Except.ok.inj h]

lemma boundedIdentity_eq {value : Value} {s : String} (h : boundedIdentity value = some s) :
    value.string? = some s :=
  (Option.filter_eq_some_iff.mp h).1

lemma captureSandboxRebuildAuthority_ok
    (h : captureSandboxRebuildAuthority api entry providerId = .ok expected) :
    expected.providerId = providerId ∧
      expected.entryRevisionSha256 = sandboxEntryRevision api entry := by
  obtain ⟨name, -, h⟩ := except_bind_inv h
  obtain ⟨provider, hprovider, h⟩ := except_bind_inv h
  obtain ⟨-, h⟩ := require_bind_inv h
  obtain ⟨generation, -, h⟩ := except_bind_inv h
  obtain ⟨fingerprint, -, h⟩ := except_bind_inv h
  obtain ⟨workload, -, h⟩ := except_bind_inv h
  obtain ⟨agent, -, h⟩ := except_bind_inv h
  obtain ⟨-, h⟩ := require_bind_inv h
  have hstring := boundedIdentity_eq (orThrow_eq_ok hprovider)
  rw [← Except.ok.inj h]; exact ⟨(Option.some.inj hstring).symm, rfl⟩

/-- No other text of these two rows has the hash of the captured one. -/
def NoCollision (api : AuthorityApi) (captured current : MemoryEntry) : Prop :=
  sandboxEntryRevision api current = sandboxEntryRevision api captured →
    canonicalJson api.numberText current.toValue = canonicalJson api.numberText captured.toValue

lemma matchesEntry_iff (htext : NumberText api.numberText)
    (hcaptured : captureSandboxRebuildAuthority api captured providerId = .ok expected)
    (hfree : NoCollision api captured current) :
    sandboxRebuildAuthorityMatchesEntry api expected current ↔
      current.SameRow captured := by
  obtain ⟨hprovider, hrevision⟩ := captureSandboxRebuildAuthority_ok hcaptured
  unfold sandboxRebuildAuthorityMatchesEntry
  rw [hprovider]
  constructor
  · intro h
    cases hcurrent : captureSandboxRebuildAuthority api current providerId with
    | error e => rw [hcurrent] at h; cases h
    | ok authority =>
      rw [hcurrent] at h
      have hequal : authority = expected := of_decide_eq_true h
      have hrevision' := (captureSandboxRebuildAuthority_ok hcurrent).2
      rw [hequal, hrevision] at hrevision'
      exact (canonicalJson_eq_iff htext current.plain captured.plain rfl rfl).mp
        (hfree hrevision'.symm)
  · intro h
    rw [captureSandboxRebuildAuthority_same h, hcaptured]; exact decide_eq_true rfl

end Capture

/-- `next` is the registry with `entry` for the row of `name`, and nothing else changed. -/
structure ReplacesRow (registry : MemoryRegistry) (name : String) (entry : MemoryEntry)
    (next : MemoryRegistry) : Prop where
  row : next.sandboxes.lookup name = some entry
  keys : next.sandboxes.map (·.1) = registry.sandboxes.map (·.1)
  otherRows : ∀ other, other ≠ name → next.sandboxes.lookup other = registry.sandboxes.lookup other
  others : next.others = registry.others

section Swaps

variable {api : AuthorityApi} {registry : MemoryRegistry} {expected : SandboxRebuildAuthority}
  {replacement valid captured current : MemoryEntry} {providerId name : String}

lemma replacesRow (hown : registry.sandboxes.lookup name = some current) (entry : MemoryEntry) :
    ReplacesRow registry name entry
      { registry with sandboxes := setOwn registry.sandboxes name entry } where
  row := by
    rw [lookup_setOwn, if_pos rfl]
  keys := keys_setOwn_own hown entry
  otherRows := by
    intro other hne
    rw [lookup_setOwn, if_neg hne]
  others := rfl

lemma find_row (hown : registry.sandboxes.lookup name = some current) :
    registry.find name = .row current := by
  unfold MemoryRegistry.find
  rw [hown]

lemma swap_invalid {e : String} (h : validateReplacement api expected replacement = .error e) :
    swapSandboxRebuildAuthorityInRegistry api registry expected replacement = .error e := by
  unfold swapSandboxRebuildAuthorityInRegistry
  rw [h]; rfl

section

variable (hvalid : validateReplacement api expected replacement = .ok valid)
include hvalid

lemma swap_row (hown : registry.sandboxes.lookup expected.sandboxName = some current) :
    swapSandboxRebuildAuthorityInRegistry api registry expected replacement =
      if sandboxRebuildAuthorityMatchesEntry api expected current then
        .ok ({ registry with
          sandboxes := setOwn registry.sandboxes expected.sandboxName valid }, .committed valid)
      else .ok (registry, .staleAuthority (some current)) := by
  unfold swapSandboxRebuildAuthorityInRegistry
  rw [hvalid, find_row hown]; rfl

lemma swap_absent (hown : registry.sandboxes.lookup expected.sandboxName = none)
    (hname : expected.sandboxName ∉ objectPrototypeKeys ∨ expected.sandboxName = "__proto__") :
    ∃ entry, swapSandboxRebuildAuthorityInRegistry api registry expected replacement =
      .ok (registry, .staleAuthority entry) := by
  unfold swapSandboxRebuildAuthorityInRegistry MemoryRegistry.find
  rw [hvalid, hown]
  cases hname with
  | inl hnot =>
    have hproto : expected.sandboxName ≠ "__proto__" := by
      intro h; exact hnot (h ▸ by decide)
    refine ⟨none, ?_⟩
    simp only [if_neg hproto, if_neg hnot]; rfl
  | inr hproto =>
    refine ⟨some .empty, ?_⟩
    simp only [if_pos hproto]; rfl

theorem swap_inherited (hown : registry.sandboxes.lookup expected.sandboxName = none)
    (hname : expected.sandboxName ∈ objectPrototypeKeys)
    (hproto : expected.sandboxName ≠ "__proto__") :
    swapSandboxRebuildAuthorityInRegistry api registry expected replacement =
      .error "function could not be cloned." := by
  unfold swapSandboxRebuildAuthorityInRegistry MemoryRegistry.find
  rw [hvalid, hown]; simp only [if_neg hproto, if_pos hname]; rfl

lemma swap_commits_own {next : MemoryRegistry} {entry : MemoryEntry}
    (h : swapSandboxRebuildAuthorityInRegistry api registry expected replacement =
      .ok (next, .committed entry)) :
    ∃ current, registry.sandboxes.lookup expected.sandboxName = some current := by
  cases hown : registry.sandboxes.lookup expected.sandboxName with
  | some current => exact ⟨current, rfl⟩
  | none =>
  by_cases hname : expected.sandboxName ∈ objectPrototypeKeys
  · by_cases hproto : expected.sandboxName = "__proto__"
    · obtain ⟨stale, hstale⟩ := swap_absent hvalid hown (.inr hproto)
      rw [hstale] at h; cases h
    · rw [swap_inherited hvalid hown hname hproto] at h; cases h
  · obtain ⟨stale, hstale⟩ := swap_absent hvalid hown (.inl hname)
    rw [hstale] at h; cases h

end

theorem swap_commits_iff (htext : NumberText api.numberText)
    (hcaptured : captureSandboxRebuildAuthority api captured providerId = .ok expected)
    (hfree : ∀ current, registry.sandboxes.lookup expected.sandboxName = some current →
      NoCollision api captured current)
    (hvalid : validateReplacement api expected replacement = .ok valid) :
    (∃ next entry, swapSandboxRebuildAuthorityInRegistry api registry expected replacement =
        .ok (next, .committed entry)) ↔
      ∃ current, registry.sandboxes.lookup expected.sandboxName = some current ∧
        current.SameRow captured := by
  constructor
  · intro ⟨next, entry, h⟩
    obtain ⟨current, hown⟩ := swap_commits_own hvalid h
    refine ⟨current, hown, (matchesEntry_iff htext hcaptured (hfree current hown)).mp ?_⟩
    rw [swap_row hvalid hown] at h
    split at h
    · assumption
    · cases h
  · intro ⟨current, hown, hsame⟩
    have hcommit := swap_row hvalid hown
    rw [if_pos ((matchesEntry_iff htext hcaptured (hfree current hown)).mpr hsame)] at hcommit
    exact ⟨_, valid, hcommit⟩

lemma swap_committed {next : MemoryRegistry} {entry : MemoryEntry}
    (hvalid : validateReplacement api expected replacement = .ok valid)
    (h : swapSandboxRebuildAuthorityInRegistry api registry expected replacement =
      .ok (next, .committed entry)) :
    entry = valid ∧ ReplacesRow registry expected.sandboxName valid next := by
  obtain ⟨current, hown⟩ := swap_commits_own hvalid h
  rw [swap_row hvalid hown] at h
  split at h
  · cases h; exact ⟨rfl, replacesRow hown valid⟩
  · cases h

lemma swap_stale (htext : NumberText api.numberText)
    (hcaptured : captureSandboxRebuildAuthority api captured providerId = .ok expected)
    (hfree : ∀ current, registry.sandboxes.lookup expected.sandboxName = some current →
      NoCollision api captured current)
    (hvalid : validateReplacement api expected replacement = .ok valid)
    (hfound : (∃ current, registry.sandboxes.lookup expected.sandboxName = some current) ∨
      expected.sandboxName ∉ objectPrototypeKeys)
    (hchanged : ∀ current, registry.sandboxes.lookup expected.sandboxName = some current →
      ¬ current.SameRow captured) :
    ∃ entry, swapSandboxRebuildAuthorityInRegistry api registry expected replacement =
      .ok (registry, .staleAuthority entry) := by
  cases hown : registry.sandboxes.lookup expected.sandboxName with
  | some current =>
    refine ⟨some current, ?_⟩
    rw [swap_row hvalid hown, if_neg]
    exact fun h => hchanged current hown
      ((matchesEntry_iff htext hcaptured (hfree current hown)).mp h)
  | none =>
    refine swap_absent hvalid hown (.inl (hfound.resolve_left ?_))
    intro ⟨current, hsome⟩
    rw [hown] at hsome; cases hsome

/-- A replacement that does not pass its checks is refused before the registry is read. One
that does is published exactly if the row is still the captured one, up to the order of
properties and undefined ones; then nothing but that row changes, and otherwise the registry
is returned as it was, if the name is that of a row or of nothing. -/
theorem swapSandboxRebuildAuthorityInRegistry_exact (htext : NumberText api.numberText)
    (hcaptured : captureSandboxRebuildAuthority api captured providerId = .ok expected)
    (hfree : ∀ current, registry.sandboxes.lookup expected.sandboxName = some current →
      NoCollision api captured current) (replacement : MemoryEntry) :
    (∀ e, validateReplacement api expected replacement = .error e →
      swapSandboxRebuildAuthorityInRegistry api registry expected replacement = .error e) ∧
    ∀ valid, validateReplacement api expected replacement = .ok valid →
      ((∃ next entry, swapSandboxRebuildAuthorityInRegistry api registry expected replacement =
          .ok (next, .committed entry)) ↔
        ∃ current, registry.sandboxes.lookup expected.sandboxName = some current ∧
          current.SameRow captured) ∧
      (∀ next entry, swapSandboxRebuildAuthorityInRegistry api registry expected replacement =
          .ok (next, .committed entry) →
        entry = valid ∧ ReplacesRow registry expected.sandboxName valid next) ∧
      ((∃ current, registry.sandboxes.lookup expected.sandboxName = some current) ∨
          expected.sandboxName ∉ objectPrototypeKeys →
        (∀ current, registry.sandboxes.lookup expected.sandboxName = some current →
          ¬ current.SameRow captured) →
        ∃ entry, swapSandboxRebuildAuthorityInRegistry api registry expected replacement =
          .ok (registry, .staleAuthority entry)) := by
  refine ⟨fun e => swap_invalid, fun valid hvalid => ⟨?_, ?_, ?_⟩⟩
  · exact swap_commits_iff htext hcaptured hfree hvalid
  · exact fun next entry => swap_committed hvalid
  · exact swap_stale htext hcaptured hfree hvalid

end Swaps

/-- Natural numbers in decimal, others by their place in a list of all numbers. -/
def listedText (q : ℚ) : String :=
  if q = q.num.toNat then Nat.repr q.num.toNat else "-" ++ Nat.repr (Encodable.encode q)

lemma dash_ne_repr (text : String) (n : ℕ) : "-" ++ text ≠ Nat.repr n := by
  intro h
  have hdash : '-' ∈ (Nat.repr n).toList := by
    rw [← h, String.toList_append]; exact mem_append_left _ mem_cons_self
  have hdigit := isDigit_of_mem_repr hdash
  revert hdigit; decide

lemma listedText_numberText : NumberText listedText where
  injective := by
    intro q r h
    unfold listedText at h
    split at h
    · next hq =>
      split at h
      · next hr => rw [hq, hr, repr_injective h]
      · exact absurd h.symm (dash_ne_repr _ _)
    · split at h
      · exact absurd h (dash_ne_repr _ _)
      · exact Encodable.encode_injective (repr_injective (String.append_right_inj _ |>.mp h))
  chars := by
    intro q c hc
    unfold listedText at hc
    unfold isNumberChar
    split at hc
    · rw [isDigit_of_mem_repr hc]; rfl
    rw [String.toList_append] at hc
    cases mem_append.mp hc with
    | inl hdash => rw [mem_singleton.mp hdash]; decide
    | inr hdigit => rw [isDigit_of_mem_repr hdigit]; rfl
  nonempty := by
    intro q
    unfold listedText
    split
    · rw [Nat.toList_repr]; exact Nat.toDigits_ne_nil
    · rw [String.toList_append]; exact cons_ne_nil _ _

def hermesReceipt : ManagedWorkloadReceipt where
  reference := "ghcr.io/nvidia/nemoclaw/hermes-sandbox@sha256:" ++
    "aaaaaaaaaaaaaaaaaaaaaaaaaaaaaaaaaaaaaaaaaaaaaaaaaaaaaaaaaaaaaaaa"
  platform := none
  release := "v0.0.100"
  sourceRevision := "bbbbbbbbbbbbbbbbbbbbbbbbbbbbbbbbbbbbbbbb"
  sourceCohort := "ghrun-100-1"
  encodedProfile :=
    "eyJhZ2VudCI6Imhlcm1lcyIsImFnZW50Q29uZmlnIjp7ImFnZW50IjoiaGVybWVzIiwid2ViU2Vh" ++
    "cmNoIjp7ImVuYWJsZWQiOmZhbHNlLCJwcm92aWRlciI6InRhdmlseSJ9fSwiY29ycG9yYXRlQ2Ei" ++
    "OnsiYnVuZGxlU2hhMjU2IjpudWxsfSwiZGFzaGJvYXJkIjp7ImFnZW50IjoiaGVybWVzIiwiaW50" ++
    "ZXJuYWxQb3J0IjpudWxsLCJtb2RlIjoiZGlzYWJsZWQiLCJwdWJsaWNQb3J0IjpudWxsLCJ0dWlF" ++
    "bmFibGVkIjpmYWxzZSwidXJsIjoiaHR0cDovLzEyNy4wLjAuMToxODc4OSJ9LCJpbmZlcmVuY2Ui" ++
    "OnsiYXBpIjoib3BlbmFpLWNvbXBsZXRpb25zIiwiY29tcGF0aWJpbGl0eSI6bnVsbCwiaW5wdXRN" ++
    "b2RhbGl0aWVzIjpudWxsLCJtb2RlbCI6Im52aWRpYS9uZW1vdHJvbi0zLXVsdHJhLTU1MGItYTU1" ++
    "YiIsInByaW1hcnlNb2RlbFJlZiI6bnVsbCwicm91dGVQcm92aWRlciI6ImluZmVyZW5jZSIsInJv" ++
    "dXRlZEJhc2VVcmwiOiJodHRwczovL2luZmVyZW5jZS5sb2NhbC92MSIsInVwc3RyZWFtRW5kcG9p" ++
    "bnRVcmwiOm51bGwsInVwc3RyZWFtUHJvdmlkZXIiOiJudmlkaWEifSwibWVzc2FnaW5nIjp7InBs" ++
    "YW4iOm51bGx9LCJwcm94eSI6eyJob3N0SHR0cFVybCI6bnVsbCwiaG9zdEh0dHBzVXJsIjpudWxs" ++
    "LCJob3N0Tm9Qcm94eSI6W10sIm1hbmFnZWRIb3N0IjoiMTAuMjAwLjAuMSIsIm1hbmFnZWRQb3J0" ++
    "IjozMTI4fSwic2NoZW1hVmVyc2lvbiI6MiwidG9vbHMiOnsiZGlzY2xvc3VyZSI6InByb2dyZXNz" ++
    "aXZlIiwiZW5hYmxlZEdhdGV3YXlzIjpbXX0sInR1bmluZyI6eyJjb250ZXh0V2luZG93IjoxMzEw" ++
    "NzIsIm1heFRva2VucyI6bnVsbCwicmVhc29uaW5nIjpudWxsLCJyZWFzb25pbmdFZmZvcnQiOm51" ++
    "bGx9fQ"
  startupProfileSha256 := "3523b19f1f1bd87161aae47ef5ec559af009281f7cb2812c22cb8cdb65980fef"
  credentialProxyReplayRequired := false
  corporateCaB64 := none

def hermesFields (generation identity : String) : List (String × Value) :=
  [("name", .str "my-hermes"), ("agent", .str "hermes"), ("openshellDriver", .str "docker"),
    ("lifecycleGeneration", .str generation), ("lifecycleLiveIdentityFingerprint", .str identity),
    ("imageTag", .str hermesReceipt.reference), ("workload", hermesReceipt.toValue)]

def hermesEntry (generation identity : String) : MemoryEntry where
  fields := hermesFields generation identity
  keys := by
    show List.Nodup ["name", "agent", "openshellDriver", "lifecycleGeneration",
      "lifecycleLiveIdentityFingerprint", "imageTag", "workload"]
    decide
  values := by
    intro kv hkv
    rcases mem_append (s := (hermesFields generation identity).take 6) |>.mp hkv with h | h
    · exact plain_of_scalar (all_eq_true (p := fun kv => isScalar kv.2) |>.mp rfl kv h)
    · rw [mem_singleton.mp h]
      exact hermesReceipt.plain
  driver := .inl ⟨"docker", rfl⟩

/-- The hash of the first generation's row, and its receipt. -/
def hermesApi : AuthorityApi where
  sha256 := fun _ => "f2a8b8895d820fab3e94122ada7e43dc2c96d33404b3b3c6a7e3effc026cc11d"
  numberText := listedText
  receiptAccepted := fun receipt => receipt = hermesReceipt

def hermesAuthority : SandboxRebuildAuthority where
  sandboxName := "my-hermes"
  providerId := "docker"
  recordedDriver := some "docker"
  lifecycleGeneration := "generation-1"
  liveIdentityFingerprint := "live-1"
  entryRevisionSha256 := "f2a8b8895d820fab3e94122ada7e43dc2c96d33404b3b3c6a7e3effc026cc11d"
  workload := hermesReceipt

def hermesRegistry : MemoryRegistry where
  sandboxes := [("my-hermes", hermesEntry "generation-1" "live-1")]
  others := [("defaultSandbox", .str "my-hermes")]

lemma hermesReceipt_cloned :
    clonedManagedReceipt hermesApi hermesReceipt.toValue = .ok hermesReceipt := by
  have hread : readManagedReceipt hermesReceipt.toValue = some hermesReceipt := rfl
  have haccepted : hermesApi.receiptAccepted hermesReceipt := by
    simp only [hermesApi, decide_true]
  unfold clonedManagedReceipt
  rw [hread, Option.filter_some, if_pos haccepted]; rfl

lemma hermesAuthority_captured : captureSandboxRebuildAuthority hermesApi
    (hermesEntry "generation-1" "live-1") "docker" = .ok hermesAuthority := by
  refine except_bind_ok (a := "my-hermes") (by decide +kernel) ?_
  refine except_bind_ok (a := "docker") (by decide +kernel) ?_
  refine require_bind_ok (by decide +kernel) ?_
  refine except_bind_ok (a := "generation-1") (by decide +kernel) ?_
  refine except_bind_ok (a := "live-1") (by decide +kernel) ?_
  refine except_bind_ok hermesReceipt_cloned (except_bind_ok (a := "hermes") ?_ ?_)
  · decide +kernel
  · exact require_bind_ok (by decide +kernel) rfl

lemma hermesEntry_sameRow (generation identity : String) :
    (hermesEntry generation identity).SameRow (hermesEntry generation identity) :=
  (canonicalJson_eq_iff listedText_numberText (hermesEntry generation identity).plain
    (hermesEntry generation identity).plain rfl rfl).mp rfl

/-- The second generation is published in place of the first. -/
theorem swap_generation_two : ∃ next entry, swapSandboxRebuildAuthorityInRegistry hermesApi
    hermesRegistry hermesAuthority (hermesEntry "generation-2" "live-2") =
      .ok (next, .committed entry) := by
  have hfree : ∀ current, hermesRegistry.sandboxes.lookup hermesAuthority.sandboxName =
      some current → NoCollision hermesApi (hermesEntry "generation-1" "live-1") current := by
    intro current hcurrent _
    rw [← Option.some.inj hcurrent]
  have hvalid : validateReplacement hermesApi hermesAuthority
      (hermesEntry "generation-2" "live-2") =
      .ok ((hermesEntry "generation-2" "live-2").withWorkload hermesReceipt) := by
    refine require_bind_ok (by decide +kernel) (require_bind_ok (by decide +kernel) ?_)
    refine require_bind_ok (by decide +kernel) (require_bind_ok (by decide +kernel) ?_)
    refine require_bind_ok (by decide +kernel) (except_bind_ok hermesReceipt_cloned ?_)
    refine except_bind_ok (a := "hermes") (by decide +kernel) ?_
    exact require_bind_ok (by decide +kernel) rfl
  exact ((swapSandboxRebuildAuthorityInRegistry_exact listedText_numberText
    hermesAuthority_captured hfree _).2 _ hvalid).1.mpr
      ⟨hermesEntry "generation-1" "live-1", rfl, hermesEntry_sameRow _ _⟩

/-- A replacement of the same generation is refused, though the row is the captured one. -/
theorem swap_same_generation :
    captureSandboxRebuildAuthority hermesApi (hermesEntry "generation-1" "live-1") "docker" =
        .ok hermesAuthority ∧
      (∃ current, hermesRegistry.sandboxes.lookup hermesAuthority.sandboxName = some current ∧
        current.SameRow (hermesEntry "generation-1" "live-1")) ∧
      swapSandboxRebuildAuthorityInRegistry hermesApi hermesRegistry hermesAuthority
          (hermesEntry "generation-1" "live-2") =
        .error (authorityError "replacement must have a distinct lifecycle generation") :=
  ⟨hermesAuthority_captured, ⟨_, rfl, hermesEntry_sameRow _ _⟩, rfl⟩

end NemoClaw
