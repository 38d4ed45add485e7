import NemoClaw.Js.Call
import NemoClaw.Js.ParseJson
import NemoClaw.Js.Text
import NemoClaw.Lib.Base64

/- The request with which a managed startup is applied as root.

A request names the agent, its encoded profile with the fingerprint of the profile, and the
bundle of corporate certificates, if the profile has one. It is sent as one line of JSON,
and a line is accepted only if it is the one that would be sent.

Correspondence (src/lib/onboard/managed-startup/root-apply.ts ↔ Lean): the functions keep
their names. What profile.ts does with a profile, and the digest of a bundle, are the
parameter `Profiles`; a thrown error is its message.

What is proved: `parse_serialize`, that a request that is sent is the one that is received.
-/
namespace NemoClaw.ManagedStartup

open Js

structure Profiles (P : Type) where
  decodeManagedStartupProfile : String → Except String P
  fingerprintManagedStartupProfile : P → String
  agent : P → String
  bundleSha256 : P → Option String
  sha256Hex : List UInt8 → String

def managedStartupRootApplyMaxBytes : ℕ := 320 * 1024

def maxCorporateCaEncodedBytes : ℕ := 4 * ((128 * 1024 + 2) / 3)

/-- `MANAGED_STARTUP_PROFILE_MAX_ENCODED_BYTES`, of 64 KiB. -/
def managedStartupProfileMaxEncodedBytes : ℕ := (64 * 1024 + 2) / 3 * 4

def managedStartupAgents : List String := ["openclaw", "hermes", "langchain-deepagents-code"]

structure ManagedStartupRootApplyRequest where
  schemaVersion : ℕ
  agent : String
  encodedProfile : String
  profileFingerprint : String
  corporateCaB64 : Option String
  deriving DecidableEq

def invalid (message : String) : String :=
  "Managed startup root application request is invalid: " ++ message

def orFail {α : Type} (value : Option α) (message : String) : Except String α :=
  match value with
  | some a => .ok a
  | none => .error message

def exactAgent (value : Option Json) : Except String String :=
  orFail ((readString value).filter (· ∈ managedStartupAgents)) (invalid "agent is unsupported")

/-- `Buffer.from(text, "base64").toString("base64") === text`, of a standard text. -/
def isCanonicalBase64 (text : String) : Bool :=
  Base64.isStandard text.toList && Base64.encode (Base64.decode text.toList) == text.toList

/-- A bundle that is small enough and canonical. -/
def isBundleText (text : String) : Bool :=
  text ≠ "" && jsLength text ≤ maxCorporateCaEncodedBytes && isCanonicalBase64 text

section Api

variable {P : Type} (profiles : Profiles P)

def createManagedStartupRootApplyRequest (agent encodedProfile : String)
    (corporateCaB64 : Option String) : Except String ManagedStartupRootApplyRequest := do
  let agent ← exactAgent (some (.str agent))
  require (encodedProfile ≠ "" ∧ jsLength encodedProfile ≤ managedStartupProfileMaxEncodedBytes)
    (invalid "encoded profile exceeds its bounded transport")
  let profile ← profiles.decodeManagedStartupProfile encodedProfile
  require (profiles.agent profile = agent)
    (invalid ("profile targets " ++ profiles.agent profile ++ ", expected " ++ agent))
  require (corporateCaB64.all isBundleText)
    (invalid "corporate CA is not canonical bounded base64")
  require ((profiles.bundleSha256 profile).isSome = corporateCaB64.isSome)
    (invalid "corporate CA transport does not match the profile")
  require (∀ text ∈ corporateCaB64,
      some (profiles.sha256Hex (Base64.decode text.toList)) = profiles.bundleSha256 profile)
    (invalid "corporate CA does not match the profile digest")
  pure {
    schemaVersion := 1
    agent, encodedProfile
    profileFingerprint := profiles.fingerprintManagedStartupProfile profile
    corporateCaB64
  }

/-- The line that is sent. -/
def requestText (request : ManagedStartupRootApplyRequest) : String :=
  objectText [("agent", quote request.agent),
    ("corporateCaB64", quoteOrNull request.corporateCaB64),
    ("encodedProfile", quote request.encodedProfile),
    ("profileFingerprint", quote request.profileFingerprint),
    ("schemaVersion", toString request.schemaVersion)] ++ "\n"

def serializeManagedStartupRootApplyRequest (request : ManagedStartupRootApplyRequest) :
    Except String String := do
  let normalized ← createManagedStartupRootApplyRequest profiles request.agent
    request.encodedProfile request.corporateCaB64
  require (request.schemaVersion = 1 ∧
      request.profileFingerprint = normalized.profileFingerprint ∧
      isLowerHexOf 64 request.profileFingerprint)
    (invalid "schema version or profile fingerprint is invalid")
  let serialized := requestText normalized
  require (byteLength serialized ≤ managedStartupRootApplyMaxBytes)
    (invalid "serialized request exceeds its bounded transport")
  pure serialized

def expectedKeys : List String :=
  ["agent", "corporateCaB64", "encodedProfile", "profileFingerprint", "schemaVersion"]

/-- `Object.keys(record).sort().join(",")` is that of the names. -/
def hasExactKeys (record : Json) (names : List String) : Bool :=
  joinComma (sortedKeys record.keys) == joinComma (sortedKeys names)

/-- A string or `null`. -/
def readNullableString : Option Json → Option (Option String)
  | some .null => some none
  | some (.str s) => some (some s)
  | _ => none

/-- The profile, its fingerprint and the bundle of a record that has the schema. -/
def readRequestRecord (record : Json) : Option (String × String × Option String) := do
  guard (hasExactKeys record expectedKeys)
  guard (readInteger (record.get? "schemaVersion") = some 1)
  let encodedProfile ← readString (record.get? "encodedProfile")
  let profileFingerprint ← readString (record.get? "profileFingerprint")
  let corporateCaB64 ← readNullableString (record.get? "corporateCaB64")
  some (encodedProfile, profileFingerprint, corporateCaB64)

def parseManagedStartupRootApplyRequest (text : String) :
    Except String ManagedStartupRootApplyRequest := do
  require (text ≠ "" ∧ byteLength text ≤ managedStartupRootApplyMaxBytes)
    (invalid "serialized request is empty or too large")
  let record ← orFail (parseJson text) (invalid "serialized request is not valid JSON")
  require (record.isObject) (invalid "serialized request must be an object")
  let (encodedProfile, profileFingerprint, corporateCaB64) ← orFail (readRequestRecord record)
    (invalid "serialized request has an invalid schema")
  let agent ← exactAgent (record.get? "agent")
  let request ← createManagedStartupRootApplyRequest profiles agent encodedProfile corporateCaB64
  require (profileFingerprint = request.profileFingerprint ∧
      isLowerHexOf 64 profileFingerprint)
    (invalid "profile fingerprint does not match the encoded profile")
  let serialized ← serializeManagedStartupRootApplyRequest profiles request
  require (serialized = text) (invalid "serialized request is not canonical")
  pure request

end Api

section Transport

variable {P : Type} {profiles : Profiles P} {request : ManagedStartupRootApplyRequest}

lemma exactAgent_str {agent : String} {a : String}
    (h : exactAgent (some (.str agent)) = .ok a) : a = agent := by
  by_cases hagent : agent ∈ managedStartupAgents
  · simpa [exactAgent, readString, Option.filter, hagent, orFail, eq_comm] using h
  · simp [exactAgent, readString, Option.filter, hagent, orFail] at h

lemma create_inv {agent encodedProfile : String} {corporateCaB64 : Option String}
    (h : createManagedStartupRootApplyRequest profiles agent encodedProfile corporateCaB64 =
      .ok request) :
    exactAgent (some (.str agent)) = .ok agent ∧ request.schemaVersion = 1 ∧
      request.agent = agent ∧ request.encodedProfile = encodedProfile ∧
      request.corporateCaB64 = corporateCaB64 := by
  obtain ⟨agent', hagent, h⟩ := except_bind_inv h
  have hsame := exactAgent_str hagent
  rw [hsame] at hagent h
  obtain ⟨-, h⟩ := require_bind_inv h
  obtain ⟨profile, -, h⟩ := except_bind_inv h
  obtain ⟨-, h⟩ := require_bind_inv h
  obtain ⟨-, h⟩ := require_bind_inv h
  obtain ⟨-, h⟩ := require_bind_inv h
  obtain ⟨-, h⟩ := require_bind_inv h
  cases h; exact ⟨hagent, rfl, rfl, rfl, rfl⟩

/-- A request that is sent is the one that would be made of its parts. -/
lemma serialize_inv {text : String}
    (h : serializeManagedStartupRootApplyRequest profiles request = .ok text) :
    createManagedStartupRootApplyRequest profiles request.agent request.encodedProfile
        request.corporateCaB64 = .ok request ∧
      isLowerHexOf 64 request.profileFingerprint ∧ text = requestText request ∧
      byteLength text ≤ managedStartupRootApplyMaxBytes := by
  obtain ⟨normalized, hcreate, h⟩ := except_bind_inv h
  obtain ⟨⟨hversion, hfingerprint, hhex⟩, h⟩ := require_bind_inv h
  obtain ⟨hlength, h⟩ := require_bind_inv h
  cases h
  obtain ⟨-, hversion', hagent, hprofile, hca⟩ := create_inv hcreate
  have hsame : normalized = request := by
    obtain ⟨version, agent, profile, fingerprint, ca⟩ := request
    obtain ⟨version', agent', profile', fingerprint', ca'⟩ := normalized
    simp only at hversion hfingerprint hversion' hagent hprofile hca
    rw [hversion, hfingerprint, hversion', hagent, hprofile, hca]
  rw [hsame] at hcreate hlength ⊢; exact ⟨hcreate, hhex, rfl, hlength⟩

/-- The record that is received. -/
def requestFields (request : ManagedStartupRootApplyRequest) : List Written :=
  [⟨"agent", quote request.agent, .str request.agent⟩,
    ⟨"corporateCaB64", quoteOrNull request.corporateCaB64, Json.ofString? request.corporateCaB64⟩,
    ⟨"encodedProfile", quote request.encodedProfile, .str request.encodedProfile⟩,
    ⟨"profileFingerprint", quote request.profileFingerprint, .str request.profileFingerprint⟩,
    ⟨"schemaVersion", "1", .num 1⟩]

lemma reads_quoteOrNull {depth : ℕ} (s : Option String) :
    Reads (depth + 1) (quoteOrNull s) (Json.ofString? s) := by
  cases s with
  | none => exact reads_null
  | some s => exact reads_quote s

lemma parseJson_requestText (hversion : request.schemaVersion = 1) :
    parseJson (requestText request) = some (Written.object (requestFields request)) := by
  have htext : requestText request = Written.objectText (requestFields request) ++ "\n" := by
    unfold requestText
    rw [hversion]; rfl
  rw [htext]
  refine parseJson_objectText ?_ (by simp [requestFields]) rfl
  intro field hfield depth
  simp only [requestFields, List.mem_cons, List.not_mem_nil, or_false] at hfield
  rcases hfield with rfl | rfl | rfl | rfl | rfl
  · exact reads_quote _
  · exact reads_quoteOrNull _
  · exact reads_quote _
  · exact reads_quote _
  · exact reads_one

lemma readRequestRecord_fields (request : ManagedStartupRootApplyRequest) :
    readRequestRecord (Written.object (requestFields request)) =
      some (request.encodedProfile, request.profileFingerprint, request.corporateCaB64) := by
  have hkeys : hasExactKeys (Written.object (requestFields request)) expectedKeys := by
    exact beq_self_eq_true _
  have hversion : readInteger ((Written.object (requestFields request)).get? "schemaVersion") =
      some 1 := rfl
  have hca : readNullableString ((Written.object (requestFields request)).get? "corporateCaB64") =
      some request.corporateCaB64 := by
    show readNullableString (some (Json.ofString? request.corporateCaB64)) = _
    cases request.corporateCaB64 <;> rfl
  unfold readRequestRecord
  rw [hkeys, hversion, hca]; rfl

theorem parse_serialize {text : String}
    (h : serializeManagedStartupRootApplyRequest profiles request = .ok text) :
    parseManagedStartupRootApplyRequest profiles text = .ok request := by
  obtain ⟨hcreate, hhex, rfl, hlength⟩ := serialize_inv h
  obtain ⟨hagent, hversion, -⟩ := create_inv hcreate
  have hne : requestText request ≠ "" := by
    intro hempty
    have htext := congrArg String.length hempty; simp [requestText] at htext
  have hrecord : (Written.object (requestFields request)).get? "agent" =
      some (.str request.agent) := rfl
  unfold parseManagedStartupRootApplyRequest
  rw [parseJson_requestText hversion]
  refine require_bind_ok ⟨hne, hlength⟩ (except_bind_ok rfl (require_bind_ok rfl ?_))
  rw [readRequestRecord_fields, hrecord]
  refine except_bind_ok rfl (except_bind_ok hagent (except_bind_ok hcreate ?_))
  exact require_bind_ok ⟨rfl, hhex⟩ (except_bind_ok h (require_bind_ok rfl rfl))

end Transport

end NemoClaw.ManagedStartup
