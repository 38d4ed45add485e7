import NemoClaw.Js.Order
import NemoClaw.Security.PrivateNetworks

/- Endpoints on a private network that the operator trusts.

The preflight resolves an endpoint and, for a trusted host with a private address, issues a
capability for the host and all its addresses. A consumer hands host, addresses and
capability back, and the assertion checks them by itself.

Correspondence (security/trusted-private-endpoint.ts ↔ Lean): definitions keep the
source's names. `Except` has the message of what is thrown. `urlHostname` is
`new URL(endpointUrl).hostname`, with `none` for an invalid URL, and `lookup` the resolver.
The set of the issued capabilities is a list; an object that was not issued is a capability
that is not in it. Lengths and lower case are exact on ASCII texts, which is all that is
accepted.

What is proved: a capability that the preflight yields is accepted for its host and its
addresses, and pins have one canonical form, whatever the order they come in.
-/
namespace NemoClaw.Security

open Js IpAddress List String

/-- `/[\\/?#@*]/`, and `%`, which is tested with it. -/
def isHostDelimiter (c : Char) : Bool := c ∈ ['\\', '/', '?', '#', '@', '*', '%']

def isLabelEnd (c : Char) : Bool := isLower c || isDigit c

/-- A label of a host name: `/^[a-z0-9](?:[a-z0-9-]*[a-z0-9])?$/`, of 63 characters at most. -/
def isLabel (label : List Char) : Bool :=
  label.length ≤ 63 && label.head?.any isLabelEnd && label.getLast?.any isLabelEnd &&
    label.all fun c => isLabelEnd c || c = '-'

/-- `/^\d+(?:\.\d+){3}$/`. -/
def isFourNumbers (cs : List Char) : Bool :=
  let parts := cs.splitOn '.'
  parts.length = 4 && parts.all fun part => part ≠ [] && part.all isDigit

def trustedHostError (value problem : String) : String :=
  "trusted private host \"" ++ value ++ "\" " ++ problem

/-- The exact host name that a text without brackets stands for. -/
def normalizeHostText (value : String) : Except String String := do
  require (¬("://".toList <:+: value.toList ∨ value.toList.any isHostDelimiter ∨
      startsWith '.' value))
    (trustedHostError value "must be an exact hostname or IP literal")
  let normalized := jsToLowerCase (dropDot value)
  require (normalized ≠ "" ∧ endsWith '.' normalized = false)
    (trustedHostError value "is malformed")
  if isIP normalized ≠ none then normalizeIpLiteral normalized
  else
    require (':' ∉ normalized.toList) (trustedHostError value "must not include a port")
    require (isFourNumbers normalized.toList = false)
      (trustedHostError value "is not a valid IP literal")
    require (jsLength normalized ≤ 253) (trustedHostError value "is too long")
    require ((normalized.toList.splitOn '.').all isLabel) (trustedHostError value "is malformed")
    pure normalized

def normalizeTrustedPrivateHost (raw : String) : Except String String := do
  let value := jsTrim raw
  require (value ≠ "") "trusted private host must not be empty"
  if startsWith '[' value || endsWith ']' value then
    require (startsWith '[' value && endsWith ']' value) (trustedHostError value "is malformed")
    let address := jsToLowerCase (stripBrackets value)
    require (isIP address = some .v6) (trustedHostError value "is not an IPv6 literal")
    normalizeIpLiteral address
  else normalizeHostText value

def normalizeEndpointHostname (hostname : String) : Except String String :=
  let normalized := bareHostname hostname
  if isIP normalized = none then .ok normalized else normalizeIpLiteral normalized

structure TrustedPrivateEndpointPins where
  host : String
  addresses : List String

def pinOf (host address : String) : Except String String := do
  require (¬(isIP address = none ∨ '%' ∈ address.toList))
    (trustedHostError host "has a disallowed recorded address pin")
  let normalized ← normalizeIpLiteral address
  require (¬(isPrivateIp normalized ∧ ¬isOperatorTrustablePrivateIp normalized))
    (trustedHostError host "has a disallowed recorded address pin")
  pure normalized

def canonicalizeTrustedPrivateEndpointPins (host : String) (addresses : List String)
    (requireAllPrivate : Bool) : Except String TrustedPrivateEndpointPins := do
  let host ← normalizeTrustedPrivateHost host
  require (addresses ≠ []) (trustedHostError host "has no recorded address pins")
  let normalized ← addresses.mapM (pinOf host)
  require ((uniq normalized).length = normalized.length)
    (trustedHostError host "has duplicate recorded address pins")
  require (normalized.any isOperatorTrustablePrivateIp)
    (trustedHostError host "has no recorded address pin in a supported private range")
  require (¬(requireAllPrivate ∧ normalized.any (!isOperatorTrustablePrivateIp ·)))
    (trustedHostError host "has an address pin outside the supported private ranges")
  pure ⟨host, sortStrings normalized⟩

/-- An object of its own, also where its data are those of another one. -/
structure TrustedPrivateEndpointCapability where
  id : ℕ
  host : String
  addresses : List String
  deriving DecidableEq

/-- A new capability, and the set of the issued ones with it. -/
def issueTrustedPrivateEndpointCapability (issued : List TrustedPrivateEndpointCapability)
    (host : String) (addresses : List String) :
    Except String (TrustedPrivateEndpointCapability × List TrustedPrivateEndpointCapability) := do
  let normalized ← addresses.mapM normalizeIpLiteral
  let capability := ⟨issued.length, host, sortStrings (uniq normalized)⟩
  pure (capability, issued ++ [capability])

structure TrustedPrivateEndpointReplay where
  pins : TrustedPrivateEndpointPins
  trustedPrivateCapability : TrustedPrivateEndpointCapability

def assertTrustedPrivateEndpointCapability (issued : List TrustedPrivateEndpointCapability)
    (host : String) (addresses : List String) (capability : TrustedPrivateEndpointCapability)
    (requireAllPrivate : Bool) : Except String TrustedPrivateEndpointReplay := do
  require (capability ∈ issued)
    "trusted private endpoint capability was not issued by the SSRF preflight"
  let pins ← canonicalizeTrustedPrivateEndpointPins host addresses requireAllPrivate
  require (capability.host = pins.host)
    ("trusted private endpoint capability host '" ++ capability.host ++ "' does not match '" ++
      pins.host ++ "'")
  require (pins.addresses = addresses ∧ capability.addresses = pins.addresses)
    "trusted private endpoint capability addresses do not match the exact pins"
  pure ⟨pins, capability⟩

inductive ReasonCode where
  | privateAnswer
  | rejected
  | unresolved
  deriving DecidableEq

/-- How the preflight ends. `trustedPrivateEndpoint` is set where there is a capability, which
comes with the set of the issued ones. -/
inductive Preflight where
  | threw (message : String)
  | refused (reason : String) (code : ReasonCode) (offendingAddress : Option String)
  | accepted (addresses : List String)
    (granted : Option (TrustedPrivateEndpointCapability × List TrustedPrivateEndpointCapability))
  deriving DecidableEq

def privateHost (hostname : String) : Preflight :=
  .refused ("endpoint host \"" ++ hostname ++ "\" is a private/internal address") .rejected none

/-- The answers of the resolver, each normalised, up to the first one that is refused. -/
def resolvedAddresses (hostname : String) (trusted : Bool) :
    List String → Except Preflight (List String)
  | [] => .ok []
  | address :: rest =>
    if isIP address = none then
      .error (.refused ("endpoint host \"" ++ hostname ++ "\" returned a malformed DNS address")
        .rejected none)
    else
      match normalizeIpLiteral address with
      | .error message => .error (.threw message)
      | .ok normalized =>
        if isPrivateIp normalized && (!trusted || !isOperatorTrustablePrivateIp normalized) then
          .error (.refused ("endpoint host \"" ++ hostname ++
            "\" resolves to private/internal address \"" ++ normalized ++ "\"")
            .privateAnswer (some normalized))
        else (resolvedAddresses hostname trusted rest).map (normalized :: ·)

def grant (issued : List TrustedPrivateEndpointCapability) (host : String)
    (addresses pinned : List String) : Preflight :=
  match issueTrustedPrivateEndpointCapability issued host pinned with
  | .ok granted => .accepted addresses (some granted)
  | .error message => .threw message

def preflightAnswers (issued : List TrustedPrivateEndpointCapability) (hostname host : String)
    (trusted : Bool) (answers : List String) : Preflight :=
  match resolvedAddresses hostname trusted answers with
  | .error ended => ended
  | .ok resolved =>
    let canonical := sortStrings (uniq resolved)
    if trusted && resolved.any isPrivateIp then grant issued host canonical canonical
    else .accepted canonical none

def preflightHost (issued : List TrustedPrivateEndpointCapability)
    (lookup : String → Except String (List String)) (hostname host : String) (trusted : Bool) :
    Preflight :=
  if isLoopbackHostname hostname || isOpenShellManagedHost hostname then privateHost hostname
  else if isPrivateHostname hostname && !trusted then privateHost hostname
  else if isIP host ≠ none then
    if !isPrivateIp host then .accepted [] none
    else if trusted && isOperatorTrustablePrivateIp host then grant issued host [] [host]
    else privateHost hostname
  else
    match lookup host with
    | .error message =>
      .refused ("cannot resolve endpoint host \"" ++ hostname ++ "\": " ++ message) .unresolved none
    | .ok [] =>
      .refused ("endpoint host \"" ++ hostname ++ "\" did not resolve to any address")
        .unresolved none
    | .ok answers => preflightAnswers issued hostname host trusted answers

def assertEndpointResolvesPublic (issued : List TrustedPrivateEndpointCapability)
    (urlHostname : String → Option String) (lookup : String → Except String (List String))
    (endpointUrl : String) (trustedPrivateHosts : List String) : Preflight :=
  match urlHostname endpointUrl with
  | none => .refused ("\"" ++ endpointUrl ++ "\" is not a valid URL") .rejected none
  | some hostname =>
    match normalizeEndpointHostname hostname with
    | .error message => .threw message
    | .ok host =>
      match trustedPrivateHosts.mapM normalizeTrustedPrivateHost with
      | .error message => .refused message .rejected none
      | .ok trusted => preflightHost issued lookup hostname host (host ∈ trusted)

def isHostChar (c : Char) : Bool := isLower c || isDigit c || c ∈ ['-', '.', ':']

/-- A host name that `normalizeHostText` lets through, not an address. -/
structure IsHostName (name : String) : Prop where
  isIP_eq_none : isIP name = none
  fewer : isFourNumbers name.toList = false
  short : jsLength name ≤ 253
  labels : (name.toList.splitOn '.').all isLabel

/-- A host as `normalizeTrustedPrivateHost` gives it. -/
def IsTrustedHost (host : String) : Prop := IsHostName host ∨ IsLiteral host

variable {c : Char} {host : String}

lemma isLabelEnd_cases (h : isLabelEnd c) :
    isLower c ∨ isDigit c := by simpa [isLabelEnd] using h

lemma isHostChar_of_isLabel {label : List Char} (h : isLabel label) (hc : c ∈ label) :
    (isLabelEnd c || decide (c = '-')) := by
  unfold isLabel at h
  rw [Bool.and_eq_true] at h; exact all_eq_true.mp h.2 c hc

lemma IsHostName.mem_chars {name : String} (h : IsHostName name) (hc : c ∈ name.toList) :
    c = '.' ∨ isLabelEnd c ∨ c = '-' := by
  have hjoin : ['.'].intercalate (name.toList.splitOn '.') = name.toList :=
    intercalate_splitOn '.'
  rw [← hjoin] at hc
  rcases AddressText.mem_intercalate hc with hdot | ⟨label, hlabel, hmem⟩
  · exact .inl hdot
  · have hchar := isHostChar_of_isLabel (all_eq_true.mp h.labels label hlabel) hmem
    exact .inr (by simpa using hchar)

lemma IsHostName.nil_notMem {name : String} (h : IsHostName name) :
    [] ∉ name.toList.splitOn '.' := by
  intro hmem
  have hlabel := all_eq_true.mp h.labels [] hmem
  revert hlabel; decide

lemma IsHostName.colon_notMem {name : String} (h : IsHostName name) : ':' ∉ name.toList := by
  intro hmem
  have hchar := h.mem_chars hmem
  revert hchar; decide

namespace IsTrustedHost

variable {host : String} (h : IsTrustedHost host)

include h

lemma chars {c : Char} (hc : c ∈ host.toList) : isHostChar c := by
  rcases h with hname | hliteral
  · rcases hname.mem_chars hc with rfl | hend | rfl
    · decide
    · rcases isLabelEnd_cases hend with hlower | hdigit
      · simp [isHostChar, hlower]
      · simp [isHostChar, hdigit]
    · decide
  · rcases hliteral.chars c hc with hhex | rfl | rfl
    · refine AddressText.forall_isHex (p := fun c => isLowerHex c →
        isHostChar c) ?_ (AddressText.isHex_of_isLowerHex hhex) hhex
      decide
    · decide
    · decide

lemma dots : startsWith '.' host = false ∧ endsWith '.' host = false := by
  rcases h with hname | hliteral
  · simpa [startsWith, endsWith] using ends_of_nil_notMem hname.nil_notMem
  · exact hliteral.dots

lemma ne_empty : host ≠ "" := by
  rintro rfl
  rcases h with hname | hliteral
  · exact hname.nil_notMem (by simp)
  · exact hliteral.isIP_ne_none (by decide)

end IsTrustedHost

/-- A character that a normalised host cannot have, in any case. -/
def isForeign (c : Char) : Bool := isJsSpace c || isHostDelimiter c || c ∈ ['[', ']']

lemma toNat_lt_of_isHostChar (h : isHostChar c) : c.toNat < 128 := by
  have hval : c.toNat = c.val.toNat := rfl
  simp only [isHostChar, isLower, isDigit, Bool.or_eq_true, Bool.and_eq_true, decide_eq_true_eq,
    Char.le_def, UInt32.le_iff_toNat_le, mem_cons, not_mem_nil, or_false] at h
  have hlower : 'z'.val.toNat = 122 := rfl
  have hdigit : '9'.val.toNat = 57 := rfl
  rcases h with (hrange | hrange) | rfl | rfl | rfl
  · omega
  · omega
  · decide
  · decide
  · decide

lemma lowerChar_of_not_ascii (h : ¬c.toNat < 128) (hkelvin : c.val ≠ 0x212A) :
    AddressText.lowerChar c = c := by
  rw [AddressText.lowerChar, if_neg hkelvin]
  delta Char.toLower
  rw [dif_neg]
  rintro ⟨-, hupper⟩
  have hval : c.toNat = c.val.toNat := rfl
  rw [UInt32.le_iff_toNat_le] at hupper
  have hz : 'Z'.val.toNat = 90 := rfl; omega

lemma not_isForeign (h : isHostChar (AddressText.lowerChar c)) : isForeign c = false := by
  by_cases hascii : c.toNat < 128
  · have hall : ∀ n < 128, isHostChar (AddressText.lowerChar (Char.ofNat n)) →
        isForeign (Char.ofNat n) = false := by decide
    have hc := hall c.toNat hascii
    rw [Char.ofNat_toNat] at hc; exact hc h
  · by_cases hkelvin : c.val = 0x212A
    · obtain rfl : c = Char.ofNat 0x212A := Char.ext hkelvin; decide
    · rw [lowerChar_of_not_ascii hascii hkelvin] at h
      exact absurd (toNat_lt_of_isHostChar h) hascii

/-! ## A normalised host is normalised to itself -/

section Hosts

variable {value : String}

/-- The host that a text without brackets stands for, if it is one. -/
lemma not_isForeign_of_mem (h : IsTrustedHost (jsToLowerCase (dropDot value))) {c : Char}
    (hc : c ∈ value.toList) : isForeign c = false := by
  have hlower : ∀ s : String, (jsToLowerCase s).toList = s.toList.map AddressText.lowerChar :=
    fun s => toList_ofList
  have hkept : c ∈ (dropDot value).toList → isForeign c = false := by
    intro hmem
    refine not_isForeign (h.chars ?_)
    rw [hlower]; exact mem_map_of_mem hmem
  by_cases hdot : endsWith '.' value
  · have hdrop : dropDot value = .ofList value.toList.dropLast := if_pos hdot
    have hlast : value.toList.getLast? = some '.' := by simpa [endsWith] using hdot
    obtain ⟨front, hfront⟩ := List.getLast?_eq_some_iff.mp hlast
    rw [hdrop, toList_ofList, hfront, dropLast_concat] at hkept
    rw [hfront] at hc
    rcases mem_append.mp hc with hfront | hend
    · exact hkept hfront
    · rw [mem_singleton.mp hend]; decide
  · have hdrop : dropDot value = value := if_neg hdot
    rw [hdrop] at hkept; exact hkept hc

lemma jsTrim_of_forall (h : ∀ c ∈ value.toList, isJsSpace c = false) : jsTrim value = value := by
  have hnone : ∀ cs : List Char, (∀ c ∈ cs, isJsSpace c = false) → cs.dropWhile isJsSpace = cs := by
    intro cs hcs
    cases cs with
    | nil => rfl
    | cons c cs => simp [hcs c (by simp)]
  rw [jsTrim, hnone _ h, hnone _ (by simpa using h), reverse_reverse, ofList_toList]

lemma isForeign_space {c : Char} (h : isForeign c = false) : isJsSpace c = false := by
  simp only [isForeign, Bool.or_eq_false_iff] at h; exact h.1.1

lemma isForeign_delimiter {c : Char} (h : isForeign c = false) : isHostDelimiter c = false := by
  simp only [isForeign, Bool.or_eq_false_iff] at h; exact h.1.2

section

variable (h : IsTrustedHost (jsToLowerCase (dropDot value)))
include h

/-- A text does not begin with a dot where the host that it stands for does not. -/
lemma startsWith_dot : startsWith '.' value = false := by
  by_contra hstarts
  have hhead : value.toList.head? = some '.' := by simpa [startsWith] using hstarts
  obtain ⟨rest, hrest⟩ := List.head?_eq_some_iff.mp hhead
  have hlower : ∀ s : String, (jsToLowerCase s).toList = s.toList.map AddressText.lowerChar :=
    fun s => toList_ofList
  have hdots := h.dots.1
  have hne := h.ne_empty
  by_cases hdot : endsWith '.' value
  · have hdrop : dropDot value = .ofList value.toList.dropLast := if_pos hdot
    rw [hdrop, hrest] at hdots hne
    cases rest with
    | nil => exact hne (by decide)
    | cons d rest =>
      rw [startsWith, hlower, toList_ofList, dropLast_cons_cons, map_cons] at hdots
      revert hdots; simp [AddressText.lowerChar]
  · have hdrop : dropDot value = value := if_neg hdot
    rw [hdrop, startsWith, hlower, hrest, map_cons] at hdots
    revert hdots; simp [AddressText.lowerChar]

lemma normalizeHostText_of_trusted :
    normalizeHostText value = .ok (jsToLowerCase (dropDot value)) := by
  have hdelimiter : value.toList.any isHostDelimiter = false :=
    any_eq_false.mpr fun c hc => by
      simp [isForeign_delimiter (not_isForeign_of_mem h hc)]
  have hscheme : ¬"://".toList <:+: value.toList := by
    intro hmiddle
    have hslash := isForeign_delimiter (not_isForeign_of_mem h (hmiddle.subset
      (show '/' ∈ "://".toList by decide)))
    revert hslash; decide
  refine require_bind_ok ?_ (require_bind_ok ⟨h.ne_empty, h.dots.2⟩ ?_)
  · rintro (hmiddle | hany | hstarts)
    · exact hscheme hmiddle
    · simp [hdelimiter] at hany
    · simp [startsWith_dot h] at hstarts
  · rcases h with hname | hliteral
    · rw [if_neg (by simp [hname.isIP_eq_none])]
      exact require_bind_ok hname.colon_notMem (require_bind_ok hname.fewer
        (require_bind_ok hname.short (require_bind_ok hname.labels rfl)))
    · rw [if_pos hliteral.isIP_ne_none]; exact hliteral.normalized

lemma normalizeTrustedPrivateHost_of_trusted :
    normalizeTrustedPrivateHost value = .ok (jsToLowerCase (dropDot value)) := by
  have hforeign : ∀ c ∈ value.toList, isForeign c = false := fun c hc => not_isForeign_of_mem h hc
  have htrim : jsTrim value = value := jsTrim_of_forall fun c hc => isForeign_space (hforeign c hc)
  have hbrackets : ∀ c ∈ ['[', ']'], c ∉ value.toList := by
    intro c hc hmem
    have hno := hforeign c hmem
    simp only [isForeign, hc, decide_true, Bool.or_true] at hno; cases hno
  have hne : value ≠ "" := by
    rintro rfl; exact h.ne_empty (by decide)
  unfold normalizeTrustedPrivateHost
  rw [htrim]
  refine require_bind_ok hne ?_
  rw [if_neg]
  · exact normalizeHostText_of_trusted h
  · simp only [startsWith, endsWith, Bool.or_eq_true, decide_eq_true_eq, not_or]
    exact ⟨fun hhead => hbrackets '[' (by simp) (mem_of_mem_head? hhead),
      fun hlast => hbrackets ']' (by simp) (mem_of_mem_getLast? hlast)⟩

end

end Hosts

lemma IsTrustedHost.lower_dropDot (h : IsTrustedHost host) :
    jsToLowerCase (dropDot host) = host := by
  have hdrop : dropDot host = host := if_neg (by simp [h.dots.2])
  rw [hdrop]
  refine jsToLowerCase_of_forall fun c hc => ?_
  have hchar := h.chars hc
  have hall : ∀ n < 128, isHostChar (Char.ofNat n) →
      AddressText.lowerChar (Char.ofNat n) = Char.ofNat n := by decide
  have heq := hall c.toNat (toNat_lt_of_isHostChar hchar)
  rw [Char.ofNat_toNat] at heq; exact heq hchar

lemma IsTrustedHost.normalized (h : IsTrustedHost host) :
    normalizeTrustedPrivateHost host = .ok host := by
  have heq := h.lower_dropDot
  have hnormal := normalizeTrustedPrivateHost_of_trusted (heq.symm ▸ h)
  rw [heq] at hnormal; exact hnormal

lemma isTrustedHost_of_normalizeHostText {value : String} (h : normalizeHostText value = .ok host) :
    IsTrustedHost host := by
  obtain ⟨-, h⟩ := require_bind_inv h
  obtain ⟨-, h⟩ := require_bind_inv h
  split at h
  · next hip => exact .inr (isLiteral_of_normalize hip h)
  next hip =>
  obtain ⟨-, h⟩ := require_bind_inv h
  obtain ⟨hfewer, h⟩ := require_bind_inv h
  obtain ⟨hshort, h⟩ := require_bind_inv h
  obtain ⟨hlabels, h⟩ := require_bind_inv h
  cases h; exact .inl ⟨by simpa using hip, hfewer, hshort, hlabels⟩

lemma isTrustedHost_of_normalize {raw : String} (h : normalizeTrustedPrivateHost raw = .ok host) :
    IsTrustedHost host := by
  obtain ⟨-, h⟩ := require_bind_inv h
  split at h
  · obtain ⟨-, h⟩ := require_bind_inv h
    obtain ⟨hip, h⟩ := require_bind_inv h
    exact .inr (isLiteral_of_normalize (by simp [hip]) h)
  · exact isTrustedHost_of_normalizeHostText h

/-- The host of a URL: an IPv6 address in brackets, or a text with neither brackets nor
colons. -/
def IsUrlHostname (hostname : String) : Prop :=
  (∃ groups, WellFormed groups ∧ hostname = .ofList ('[' :: writeGroups groups ++ [']'])) ∨
    '[' ∉ hostname.toList ∧ ':' ∉ hostname.toList

lemma normalize_bracketed {groups : List ℕ} (h : WellFormed groups) :
    bareHostname (.ofList ('[' :: writeGroups groups ++ [']'])) = .ofList (writeGroups groups) ∧
      normalizeTrustedPrivateHost (.ofList ('[' :: writeGroups groups ++ [']'])) =
        .ok (.ofList (writeGroups groups)) := by
  have hliteral := isLiteral_writeGroups h
  have htrusted : IsTrustedHost (.ofList (writeGroups groups)) := .inr hliteral
  have hends : (startsWith '[' (.ofList ('[' :: writeGroups groups ++ [']'])) &&
      endsWith ']' (.ofList ('[' :: writeGroups groups ++ [']']))) := by
    rw [startsWith, endsWith, toList_ofList, List.getLast?_concat]; rfl
  have hstrip : stripBrackets (.ofList ('[' :: writeGroups groups ++ [']'])) =
      .ofList (writeGroups groups) := by
    rw [stripBrackets, if_pos hends, toList_ofList]; simp
  have hlower := htrusted.lower_dropDot
  have hdrop : dropDot (.ofList (writeGroups groups)) = .ofList (writeGroups groups) :=
    if_neg (by simp [htrusted.dots.2])
  have hbare : jsToLowerCase (.ofList (writeGroups groups)) = .ofList (writeGroups groups) :=
    (congrArg jsToLowerCase hdrop).symm.trans hlower
  have htrim : jsTrim (.ofList ('[' :: writeGroups groups ++ [']'])) =
      .ofList ('[' :: writeGroups groups ++ [']']) := by
    refine jsTrim_of_forall fun c hc => ?_
    rw [toList_ofList] at hc
    rcases mem_append.mp hc with hc | hc
    · rcases mem_cons.mp hc with rfl | hc
      · decide
      · refine isForeign_space (not_isForeign_of_mem (hlower.symm ▸ htrusted) ?_)
        rw [toList_ofList]; exact hc
    · rw [mem_singleton.mp hc]; decide
  have hv6 : isIP (.ofList (writeGroups groups)) = some .v6 := by
    rw [isIP, toList_ofList, readAddress_writeGroups h]; rfl
  refine ⟨by rw [bareHostname, hstrip, hlower], ?_⟩
  unfold normalizeTrustedPrivateHost
  rw [htrim]
  refine require_bind_ok (by simp [← toList_inj]) ?_
  rw [if_pos (by simp [startsWith]), hstrip, hbare]
  exact require_bind_ok hends (require_bind_ok hv6 hliteral.normalized)

lemma normalizeEndpointHostname_eq (hostname : String) :
    normalizeEndpointHostname hostname =
      if isIP (bareHostname hostname) = none then .ok (bareHostname hostname)
      else normalizeIpLiteral (bareHostname hostname) := rfl

lemma lowerChar_eq_colon (h : AddressText.lowerChar c = ':') : c = ':' := by
  by_cases hascii : c.toNat < 128
  · have hall : ∀ n < 128, AddressText.lowerChar (Char.ofNat n) = ':' → Char.ofNat n = ':' := by
      decide
    have heq := hall c.toNat hascii
    rw [Char.ofNat_toNat] at heq; exact heq h
  · by_cases hkelvin : c.val = 0x212A
    · rw [AddressText.lowerChar, if_pos hkelvin] at h; exact absurd h (by decide)
    · rwa [lowerChar_of_not_ascii hascii hkelvin] at h

/-- A text without a colon is no IPv6 address. -/
lemma isIP_ne_v6 {hostname : String} (h : ':' ∉ hostname.toList) :
    isIP (jsToLowerCase (dropDot hostname)) ≠ some .v6 := by
  intro hip
  obtain ⟨a, hread, hfamily⟩ := isIP_eq_some hip
  have hcolon := colon_mem_of_readAddress hread hfamily
  have hlower : (jsToLowerCase (dropDot hostname)).toList =
      (dropDot hostname).toList.map AddressText.lowerChar := toList_ofList
  rw [hlower] at hcolon
  obtain ⟨c, hc, hlow⟩ := mem_map.mp hcolon
  rw [lowerChar_eq_colon hlow] at hc
  refine h ?_
  unfold dropDot at hc
  split at hc
  · rw [toList_ofList] at hc; exact (dropLast_sublist _).subset hc
  · exact hc

lemma normalize_urlHostname {hostname : String} (hurl : IsUrlHostname hostname)
    (hhost : normalizeEndpointHostname hostname = .ok host) (htrusted : IsTrustedHost host) :
    normalizeTrustedPrivateHost hostname = .ok host := by
  rw [normalizeEndpointHostname_eq] at hhost
  rcases hurl with ⟨groups, hgroups, rfl⟩ | ⟨hbracket, hcolon⟩
  · obtain ⟨hbare, hnormal⟩ := normalize_bracketed hgroups
    have hliteral := isLiteral_writeGroups hgroups
    rw [hbare, if_neg hliteral.isIP_ne_none, hliteral.normalized] at hhost
    rw [hnormal, hhost]
  · have hstrip : stripBrackets hostname = hostname := by
      refine if_neg ?_
      simp only [startsWith, Bool.and_eq_true, decide_eq_true_eq, not_and]
      exact fun hhead => absurd (mem_of_mem_head? hhead) hbracket
    have hbare : bareHostname hostname = jsToLowerCase (dropDot hostname) := by
      rw [bareHostname, hstrip]
    rw [hbare] at hhost
    -- without a colon the host is a name or an IPv4 address, and stays as it is
    have hsame : host = jsToLowerCase (dropDot hostname) := by
      cases hip : isIP (jsToLowerCase (dropDot hostname)) with
      | none => rw [if_pos hip] at hhost; exact (Except.ok.inj hhost).symm
      | some family =>
        rw [if_neg (by simp [hip])] at hhost
        cases family with
        | v4 => exact Except.ok.inj (hhost.symm.trans (isLiteral_v4 hip).normalized)
        | v6 => exact absurd hip (isIP_ne_v6 hcolon)
    subst hsame; exact normalizeTrustedPrivateHost_of_trusted htrusted

/-! ## Canonical pins -/

/-- An address that can be pinned: it is public, or trustable. -/
def IsPin (address : String) : Prop :=
  IsLiteral address ∧ (isPrivateIp address → isOperatorTrustablePrivateIp address)

structure IsCanonical (addresses : List String) : Prop where
  pins : ∀ a ∈ addresses, IsPin a
  nodup : addresses.Nodup
  trustable : ∃ a ∈ addresses, isOperatorTrustablePrivateIp a
  sorted : addresses.Pairwise compareLe

lemma length_uniq_iff {α : Type} [DecidableEq α] (xs : List α) :
    (uniq xs).length = xs.length ↔ xs.Nodup := by
  induction xs with
  | nil => simp [uniq]
  | cons x xs ih =>
    have hfilter := length_filter_le (· ≠ x) (uniq xs)
    have huniq : (uniq xs).length ≤ xs.length := by
      refine ((nodup_uniq xs).subperm fun y hy => mem_uniq.mp hy).length_le
    rw [uniq, length_cons, length_cons, nodup_cons, Nat.add_right_cancel_iff]
    constructor
    · intro hlength
      have hsame : ((uniq xs).filter (· ≠ x)).length = (uniq xs).length := by omega
      refine ⟨fun hmem => ?_, ih.mp (by omega)⟩
      have hne := length_filter_eq_length_iff.mp hsame x (mem_uniq.mpr hmem)
      simp at hne
    · rintro ⟨hx, hnodup⟩
      have hsame : ((uniq xs).filter (· ≠ x)).length = (uniq xs).length :=
        length_filter_eq_length_iff.mpr fun y hy => by
          simp only [ne_eq, decide_not, Bool.not_eq_true', decide_eq_false_iff_not]
          rintro rfl; exact hx (mem_uniq.mp hy)
      rw [hsame, ih.mpr hnodup]

lemma uniq_of_nodup {α : Type} [DecidableEq α] {xs : List α} (h : xs.Nodup) : uniq xs = xs := by
  induction xs with
  | nil => rfl
  | cons x xs ih =>
    obtain ⟨hx, hnodup⟩ := nodup_cons.mp h
    rw [uniq, ih hnodup, filter_eq_self.mpr]
    intro y hy
    simp only [ne_eq, decide_not, Bool.not_eq_true', decide_eq_false_iff_not]
    rintro rfl; exact hx hy

section Pins

variable {host : String}

variable {address : String} {addresses : List String}

lemma pinOf_spec {pin : String} (h : pinOf host address = .ok pin) : IsPin pin := by
  obtain ⟨hip, h⟩ := require_bind_inv h
  obtain ⟨normalized, hnormal, h⟩ := except_bind_inv h
  obtain ⟨hallowed, h⟩ := require_bind_inv h
  cases h
  exact ⟨isLiteral_of_normalize (fun hnone => hip (.inl hnone)) hnormal,
    fun hprivate => by simpa [hprivate] using hallowed⟩

/-- What is not pinned in one spelling is pinned in none. -/
lemma allowed_of_pinOf {pin : String} (h : pinOf host address = .ok pin) :
    normalizeIpLiteral address = .ok pin ∧
      (isPrivateIp address → isOperatorTrustablePrivateIp address) := by
  obtain ⟨hip, h⟩ := require_bind_inv h
  obtain ⟨normalized, hnormal, h⟩ := except_bind_inv h
  obtain ⟨hallowed, h⟩ := require_bind_inv h
  cases h
  obtain ⟨literal, hliteral, hread⟩ := exists_normalize fun hzone => hip (.inr hzone)
  cases hliteral.symm.trans hnormal
  have hsame := inBlockList_congr (hread fun hnone => hip (.inl hnone))
  refine ⟨hnormal, fun hprivate => ?_⟩
  rw [isPrivateIp, isOperatorTrustablePrivateIp, hsame, hsame] at hallowed
  by_contra hnot; exact hallowed ⟨hprivate, hnot⟩

lemma pinOf_of_isPin (h : IsPin address) : pinOf host address = .ok address := by
  obtain ⟨hliteral, hallowed⟩ := h
  refine require_bind_ok ?_ (except_bind_ok hliteral.normalized (require_bind_ok ?_ rfl))
  · rintro (hnone | hzone)
    · exact hliteral.isIP_ne_none hnone
    · exact hliteral.percent_notMem hzone
  · rintro ⟨hprivate, hnot⟩; exact hnot (hallowed hprivate)

lemma pinOf_error {message : String} (h : pinOf host address = .error message) :
    message = trustedHostError host "has a disallowed recorded address pin" := by
  unfold pinOf require at h
  split at h
  · next hip =>
    obtain ⟨literal, hnormal, -⟩ := exists_normalize fun hzone => hip (.inr hzone)
    simp only [hnormal, bind, Except.bind] at h
    split at h
    · next hrequire =>
      split at hrequire
      · cases hrequire
      · rw [← Except.error.inj h, ← Except.error.inj hrequire]
    · cases h
  · exact (Except.error.inj h).symm

lemma mapM_pinOf (h : ∀ a ∈ addresses, IsPin a) :
    addresses.mapM (pinOf host) = .ok addresses := by
  induction addresses with
  | nil => rfl
  | cons a rest ih =>
    rw [mapM_cons]
    exact except_bind_ok (pinOf_of_isPin (h a (by simp)))
      (except_bind_ok (ih fun b hb => h b (by simp [hb])) rfl)

lemma isPin_of_mapM {pins : List String} (h : addresses.mapM (pinOf host) = .ok pins) :
    (∀ pin ∈ pins, IsPin pin) ∧ ∀ a ∈ addresses, ∃ pin ∈ pins, pinOf host a = .ok pin := by
  induction addresses generalizing pins with
  | nil => obtain rfl : pins = [] := (Except.ok.inj h).symm; simp
  | cons a rest ih =>
    rw [mapM_cons] at h
    obtain ⟨pin, hpin, h⟩ := except_bind_inv h
    obtain ⟨pins', hpins, h⟩ := except_bind_inv h
    cases h
    obtain ⟨hrest, hfound⟩ := ih hpins
    refine ⟨forall_mem_cons.mpr ⟨pinOf_spec hpin, hrest⟩,
      forall_mem_cons.mpr ⟨⟨pin, by simp, hpin⟩, fun b hb => ?_⟩⟩
    obtain ⟨q, hq, hpinned⟩ := hfound b hb
    exact ⟨q, mem_cons_of_mem _ hq, hpinned⟩

/-- All addresses are pinned, or one is refused: which one makes no difference. -/
lemma mapM_pinOf_eq (addresses : List String) :
    addresses.mapM (pinOf host) =
      if addresses.all (fun a => (pinOf host a).toOption.isSome) then
        .ok (addresses.filterMap fun a => (pinOf host a).toOption)
      else .error (trustedHostError host "has a disallowed recorded address pin") := by
  induction addresses with
  | nil => rfl
  | cons a rest ih =>
    rw [mapM_cons, ih]
    cases ha : pinOf host a with
    | error message =>
      have hmessage := pinOf_error ha
      simp [ha, hmessage, bind, Except.bind, Except.toOption]
    | ok pin =>
      have hpin : (pinOf host a).toOption = some pin := by rw [ha]; rfl
      have hmap : (a :: rest).filterMap (fun a => (pinOf host a).toOption) =
          pin :: rest.filterMap fun a => (pinOf host a).toOption :=
        filterMap_cons_some hpin
      rw [all_cons, hpin, Option.isSome_some, Bool.true_and, hmap]
      split <;> rfl

lemma mapM_pinOf_perm (host : String) {addresses' : List String} (h : addresses.Perm addresses') :
    (∃ message, addresses.mapM (pinOf host) = .error message ∧
      addresses'.mapM (pinOf host) = .error message) ∨
    ∃ pins pins', addresses.mapM (pinOf host) = .ok pins ∧
      addresses'.mapM (pinOf host) = .ok pins' ∧ pins.Perm pins' := by
  have hall : addresses.all (fun a => (pinOf host a).toOption.isSome) =
      addresses'.all (fun a => (pinOf host a).toOption.isSome) := by
    rw [Bool.eq_iff_iff, all_eq_true, all_eq_true]
    exact ⟨fun hx x hmem => hx x (h.mem_iff.mpr hmem), fun hx x hmem => hx x (h.mem_iff.mp hmem)⟩
  rw [mapM_pinOf_eq, mapM_pinOf_eq, hall]
  split
  · exact .inr ⟨_, _, rfl, rfl, h.filterMap _⟩
  · exact .inl ⟨_, rfl, rfl⟩

lemma canonicalize_spec {requireAllPrivate : Bool} {pins : TrustedPrivateEndpointPins}
    (h : canonicalizeTrustedPrivateEndpointPins host addresses requireAllPrivate = .ok pins) :
    normalizeTrustedPrivateHost host = .ok pins.host ∧ IsCanonical pins.addresses ∧
      (requireAllPrivate → ∀ a ∈ pins.addresses, isOperatorTrustablePrivateIp a) ∧
      ∀ a ∈ addresses, ∃ pin ∈ pins.addresses, pinOf pins.host a = .ok pin := by
  obtain ⟨normalHost, hhost, h⟩ := except_bind_inv h
  obtain ⟨-, h⟩ := require_bind_inv h
  obtain ⟨normalized, hmap, h⟩ := except_bind_inv h
  obtain ⟨huniq, h⟩ := require_bind_inv h
  obtain ⟨htrustable, h⟩ := require_bind_inv h
  obtain ⟨hall, h⟩ := require_bind_inv h
  cases h
  obtain ⟨hpins, hfound⟩ := isPin_of_mapM hmap
  refine ⟨hhost, ⟨fun a ha => hpins a (mem_sortStrings.mp ha), ?_, ?_, pairwise_sortStrings _⟩,
    fun hrequire a ha => ?_, fun a ha => ?_⟩
  · exact (perm_sortStrings _).nodup_iff.mpr ((length_uniq_iff _).mp huniq)
  · obtain ⟨a, ha, htrust⟩ := any_eq_true.mp htrustable
    exact ⟨a, mem_sortStrings.mpr ha, htrust⟩
  · by_contra hnot
    exact hall ⟨hrequire, any_eq_true.mpr ⟨a, mem_sortStrings.mp ha, by simpa using hnot⟩⟩
  · obtain ⟨pin, hpin, hpinned⟩ := hfound a ha
    exact ⟨pin, mem_sortStrings.mpr hpin, hpinned⟩

lemma canonicalize_of_canonical {normalHost : String} {requireAllPrivate : Bool}
    (hhost : normalizeTrustedPrivateHost host = .ok normalHost) (h : IsCanonical addresses)
    (hall : requireAllPrivate → ∀ a ∈ addresses, isOperatorTrustablePrivateIp a) :
    canonicalizeTrustedPrivateEndpointPins host addresses requireAllPrivate =
      .ok ⟨normalHost, addresses⟩ := by
  obtain ⟨a, ha, htrust⟩ := h.trustable
  refine except_bind_ok hhost (require_bind_ok (ne_nil_of_mem ha)
    (except_bind_ok (mapM_pinOf h.pins) (require_bind_ok ((length_uniq_iff _).mpr h.nodup)
    (require_bind_ok (any_eq_true.mpr ⟨a, ha, htrust⟩) (require_bind_ok ?_ ?_)))))
  · rintro ⟨hrequire, hany⟩
    obtain ⟨b, hb, hnot⟩ := any_eq_true.mp hany
    simp [hall hrequire b hb] at hnot
  · rw [sortStrings_of_pairwise h.sorted]; rfl

lemma require_congr {p q : Prop} [Decidable p] [Decidable q] (h : p ↔ q) (message : String) :
    require p message = require q message := by
  unfold require
  by_cases hp : p
  · rw [if_pos hp, if_pos (h.mp hp)]
  · rw [if_neg hp, if_neg (mt h.mpr hp)]

lemma any_perm {xs ys : List String} (h : xs.Perm ys) (p : String → Bool) :
    xs.any p = ys.any p := by
  rw [Bool.eq_iff_iff, any_eq_true, any_eq_true]
  exact exists_congr fun x => and_congr_left' h.mem_iff

lemma canonicalize_perm {addresses' : List String} (h : addresses.Perm addresses')
    (requireAllPrivate : Bool) :
    canonicalizeTrustedPrivateEndpointPins host addresses requireAllPrivate =
      canonicalizeTrustedPrivateEndpointPins host addresses' requireAllPrivate := by
  have hempty : addresses ≠ [] ↔ addresses' ≠ [] := not_congr ⟨fun heq => by
    subst heq; exact h.nil_eq.symm, fun heq => by subst heq; exact h.eq_nil⟩
  unfold canonicalizeTrustedPrivateEndpointPins
  cases hhost : normalizeTrustedPrivateHost host with
  | error message => rfl
  | ok normalHost =>
  simp only [bind, Except.bind]
  rw [require_congr hempty]
  rcases mapM_pinOf_perm normalHost h with
    ⟨message, herror, herror'⟩ | ⟨pins, pins', hok, hok', hperm⟩
  · rw [herror, herror']
  have huniq : (uniq pins).length = pins.length ↔ (uniq pins').length = pins'.length := by
    rw [length_uniq_iff, length_uniq_iff]; exact hperm.nodup_iff
  rw [hok, hok']
  simp only
  rw [require_congr huniq, any_perm hperm, any_perm hperm, sortStrings_perm hperm]

end Pins

section Agree

variable {issued after : List TrustedPrivateEndpointCapability}
  {capability : TrustedPrivateEndpointCapability} {addresses : List String}

lemma mapM_normalizeIpLiteral {literals : List String} (h : ∀ a ∈ literals, IsLiteral a) :
    literals.mapM normalizeIpLiteral = .ok literals := by
  induction literals with
  | nil => rfl
  | cons a rest ih =>
    rw [mapM_cons]
    exact except_bind_ok (h a (by simp)).normalized
      (except_bind_ok (ih fun b hb => h b (by simp [hb])) rfl)

lemma issue_of_canonical {pinned : List String} (h : IsCanonical pinned) (host : String) :
    issueTrustedPrivateEndpointCapability issued host pinned =
      .ok (⟨issued.length, host, pinned⟩, issued ++ [⟨issued.length, host, pinned⟩]) := by
  refine except_bind_ok (mapM_normalizeIpLiteral fun a ha => (h.pins a ha).1) ?_
  rw [uniq_of_nodup h.nodup, sortStrings_of_pairwise h.sorted]; rfl

lemma grant_of_canonical {host : String} {given pinned : List String} (h : IsCanonical pinned)
    (hgrant : grant issued host given pinned = .accepted addresses (some (capability, after))) :
    addresses = given ∧ capability.host = host ∧ capability.addresses = pinned ∧
      after = issued ++ [capability] := by
  unfold grant at hgrant
  rw [issue_of_canonical h] at hgrant
  cases hgrant; exact ⟨rfl, rfl, rfl, rfl⟩

variable {hostname : String} {trusted : Bool}

lemma resolvedAddresses_spec {answers resolved : List String}
    (h : resolvedAddresses hostname trusted answers = .ok resolved) : ∀ a ∈ resolved, IsPin a := by
  induction answers generalizing resolved with
  | nil => obtain rfl : resolved = [] := (Except.ok.inj h).symm; simp
  | cons answer rest ih =>
    unfold resolvedAddresses at h
    split at h
    · cases h
    next hip =>
    split at h
    · cases h
    next normalized hnormal =>
    split at h
    · cases h
    next hallowed =>
    cases hrest : resolvedAddresses hostname trusted rest with
    | error ended => rw [hrest] at h; cases h
    | ok others =>
      rw [hrest] at h
      cases h
      refine forall_mem_cons.mpr
        ⟨⟨isLiteral_of_normalize hip hnormal, fun hprivate => ?_⟩, ih hrest⟩
      simp only [hprivate, Bool.true_and, Bool.or_eq_true, Bool.not_eq_true', not_or,
        Bool.not_eq_false] at hallowed
      exact hallowed.2

lemma resolvedAddresses_error {answers : List String} {ended : Preflight}
    (h : resolvedAddresses hostname trusted answers = .error ended) :
    ended ≠ .accepted addresses (some (capability, after)) := by
  induction answers with
  | nil => cases h
  | cons answer rest ih =>
    unfold resolvedAddresses at h
    split at h
    · rw [← Except.error.inj h]; simp
    split at h
    · rw [← Except.error.inj h]; simp
    split at h
    · rw [← Except.error.inj h]; simp
    cases hrest : resolvedAddresses hostname trusted rest with
    | error ended' =>
      rw [hrest] at h
      cases h; exact ih hrest
    | ok others => rw [hrest] at h; cases h

lemma preflightAnswers_spec {host : String} {answers : List String}
    (h : preflightAnswers issued hostname host trusted answers =
      .accepted addresses (some (capability, after))) :
    trusted ∧ capability.host = host ∧ IsCanonical capability.addresses ∧
      after = issued ++ [capability] ∧ addresses = capability.addresses := by
  unfold preflightAnswers at h
  split at h
  · next ended hended => exact absurd h (resolvedAddresses_error hended)
  next resolved hresolved =>
  simp only at h
  split at h
  · next hguard =>
    obtain ⟨htrusted, hany⟩ := Bool.and_eq_true_iff.mp hguard
    obtain ⟨a, ha, hprivate⟩ := any_eq_true.mp hany
    have hpins := resolvedAddresses_spec hresolved
    have hmem : ∀ b, b ∈ sortStrings (uniq resolved) ↔ b ∈ resolved := fun b => by
      rw [mem_sortStrings, mem_uniq]
    have hcanonical : IsCanonical (sortStrings (uniq resolved)) :=
      ⟨fun b hb => hpins b ((hmem b).mp hb), (perm_sortStrings _).nodup_iff.mpr (nodup_uniq _),
        ⟨a, (hmem a).mpr ha, (hpins a ha).2 hprivate⟩, pairwise_sortStrings _⟩
    obtain ⟨rfl, hhost, haddresses, hafter⟩ := grant_of_canonical hcanonical h
    exact ⟨htrusted, hhost, haddresses ▸ hcanonical, hafter, haddresses.symm⟩
  · cases h

lemma preflightHost_spec {lookup : String → Except String (List String)} {host : String}
    (h : preflightHost issued lookup hostname host trusted =
      .accepted addresses (some (capability, after)))
    (hhost : trusted → IsTrustedHost host) :
    trusted ∧ capability.host = host ∧ IsCanonical capability.addresses ∧
      after = issued ++ [capability] ∧ (addresses = capability.addresses ∨
        addresses = [] ∧ capability.addresses = [capability.host]) := by
  unfold preflightHost privateHost at h
  split at h
  · cases h
  split at h
  · cases h
  split at h
  · next hip =>
    split at h
    · cases h
    split at h
    · next hguard =>
      obtain ⟨htrusted, htrustable⟩ := Bool.and_eq_true_iff.mp hguard
      have hliteral : IsLiteral host := by
        rcases hhost htrusted with hname | hliteral
        · exact absurd hname.isIP_eq_none hip
        · exact hliteral
      have hcanonical : IsCanonical [host] :=
        ⟨by simpa using ⟨hliteral, fun _ => htrustable⟩, by simp,
          ⟨host, by simp, htrustable⟩, by simp⟩
      obtain ⟨rfl, rfl, haddresses, hafter⟩ := grant_of_canonical hcanonical h
      exact ⟨htrusted, rfl, haddresses ▸ hcanonical, hafter, .inr ⟨rfl, haddresses⟩⟩
    · cases h
  · split at h
    · cases h
    · cases h
    · obtain ⟨htrusted, rfl, hcanonical, hafter, rfl⟩ := preflightAnswers_spec h
      exact ⟨htrusted, rfl, hcanonical, hafter, .inl rfl⟩

lemma mem_mapM_normalize {hosts trusted : List String}
    (h : hosts.mapM normalizeTrustedPrivateHost = .ok trusted) :
    ∀ host ∈ trusted, IsTrustedHost host := by
  induction hosts generalizing trusted with
  | nil => obtain rfl : trusted = [] := (Except.ok.inj h).symm; simp
  | cons raw rest ih =>
    rw [mapM_cons] at h
    obtain ⟨host, hhost, h⟩ := except_bind_inv h
    obtain ⟨others, hothers, h⟩ := except_bind_inv h
    cases h; exact forall_mem_cons.mpr ⟨isTrustedHost_of_normalize hhost, ih hothers⟩

lemma preflight_spec {urlHostname : String → Option String}
    {lookup : String → Except String (List String)} {endpointUrl : String} {hosts : List String}
    (h : assertEndpointResolvesPublic issued urlHostname lookup endpointUrl hosts =
      .accepted addresses (some (capability, after))) :
    (∃ hostname, urlHostname endpointUrl = some hostname ∧
      normalizeEndpointHostname hostname = .ok capability.host) ∧
    IsTrustedHost capability.host ∧ IsCanonical capability.addresses ∧
      after = issued ++ [capability] ∧ (addresses = capability.addresses ∨
        addresses = [] ∧ capability.addresses = [capability.host]) := by
  unfold assertEndpointResolvesPublic at h
  split at h
  · cases h
  next hostname hurl =>
  split at h
  · cases h
  next host hhost =>
  split at h
  · cases h
  next trusted htrusted =>
  have hknown : decide (host ∈ trusted) → IsTrustedHost host := fun hmem =>
    mem_mapM_normalize htrusted host (of_decide_eq_true hmem)
  obtain ⟨hmem, rfl, hcanonical, hafter, haddresses⟩ := preflightHost_spec h hknown
  exact ⟨⟨hostname, hurl, hhost⟩, hknown hmem, hcanonical, hafter, haddresses⟩

lemma assert_of_issued {later : List TrustedPrivateEndpointCapability} {host : String}
    {requireAllPrivate : Bool} (hmem : capability ∈ later)
    (hhost : normalizeTrustedPrivateHost host = .ok capability.host)
    (hcanonical : IsCanonical capability.addresses)
    (hall : requireAllPrivate → ∀ a ∈ capability.addresses,
      isOperatorTrustablePrivateIp a) :
    assertTrustedPrivateEndpointCapability later host capability.addresses capability
      requireAllPrivate = .ok ⟨⟨capability.host, capability.addresses⟩, capability⟩ :=
  require_bind_ok hmem (except_bind_ok (canonicalize_of_canonical hhost hcanonical hall)
    (require_bind_ok rfl (require_bind_ok ⟨rfl, rfl⟩ rfl)))

end Agree

/-- A capability that the preflight yields is issued, and while it is it is accepted for the
host, as the URL has it or as it is normalised, and for the addresses; these are the resolved
ones, or the host itself where it is an address. Pins are sorted without duplicates, they are
their own canonical form, their order makes no difference, and no reserved address that is not
trustable is among them in any spelling. -/
theorem preflight_agrees :
    (∀ issued urlHostname lookup endpointUrl hosts addresses capability after,
      assertEndpointResolvesPublic issued urlHostname lookup endpointUrl hosts =
        .accepted addresses (some (capability, after)) →
      after = issued ++ [capability] ∧
      (addresses = capability.addresses ∨
        addresses = [] ∧ capability.addresses = [capability.host]) ∧
      ∀ later host, capability ∈ later →
        (host = capability.host ∨ urlHostname endpointUrl = some host ∧ IsUrlHostname host) →
        assertTrustedPrivateEndpointCapability later host capability.addresses capability false =
          .ok ⟨⟨capability.host, capability.addresses⟩, capability⟩) ∧
    (∀ host addresses requireAllPrivate pins,
      canonicalizeTrustedPrivateEndpointPins host addresses requireAllPrivate = .ok pins →
      pins.addresses.Pairwise compareLe ∧ pins.addresses.Nodup ∧
      canonicalizeTrustedPrivateEndpointPins pins.host pins.addresses requireAllPrivate =
        .ok pins ∧
      (∀ a ∈ pins.addresses, isPrivateIp a → isOperatorTrustablePrivateIp a) ∧
      ∀ a ∈ addresses, (∃ pin ∈ pins.addresses, normalizeIpLiteral a = .ok pin) ∧
        (isPrivateIp a → isOperatorTrustablePrivateIp a)) ∧
    ∀ host addresses addresses' requireAllPrivate, List.Perm addresses addresses' →
      canonicalizeTrustedPrivateEndpointPins host addresses requireAllPrivate =
        canonicalizeTrustedPrivateEndpointPins host addresses' requireAllPrivate := by
  refine ⟨fun issued urlHostname lookup endpointUrl hosts addresses capability after h => ?_,
    fun host addresses requireAllPrivate pins h => ?_,
    fun host addresses addresses' requireAllPrivate h => canonicalize_perm h requireAllPrivate⟩
  · obtain ⟨⟨hostname, hurl, hnormal⟩, htrusted, hcanonical, hafter, haddresses⟩ :=
      preflight_spec h
    refine ⟨hafter, haddresses, fun later host hmem hhost => ?_⟩
    refine assert_of_issued hmem ?_ hcanonical (by simp)
    rcases hhost with rfl | ⟨hgiven, hform⟩
    · exact htrusted.normalized
    · cases hurl.symm.trans hgiven; exact normalize_urlHostname hform hnormal htrusted
  · obtain ⟨hhost, hcanonical, hall, hfound⟩ := canonicalize_spec h
    refine ⟨hcanonical.sorted, hcanonical.nodup, ?_, fun a ha => (hcanonical.pins a ha).2,
      fun a ha => ?_⟩
    · exact canonicalize_of_canonical (isTrustedHost_of_normalize hhost).normalized hcanonical hall
    · obtain ⟨pin, hpin, hpinned⟩ := hfound a ha
      obtain ⟨hnormal, hallowed⟩ := allowed_of_pinOf hpinned
      exact ⟨⟨pin, hpin, hnormal⟩, hallowed⟩

/-- Public, private and mapped answers, one of them in two spellings. -/
theorem preflight_agrees_mixed :
    ∃ (capability : TrustedPrivateEndpointCapability)
      (after : List TrustedPrivateEndpointCapability),
      assertEndpointResolvesPublic [] (fun _ => some "mcp.corp.example")
        (fun _ => .ok ["93.184.216.34", "FD00:0:0::0010", "::ffff:10.0.0.8", "fd00::10", "10.0.0.8"])
        "https://MCP.corp.example/mcp" [" MCP.CORP.EXAMPLE. "] =
          .accepted ["10.0.0.8", "93.184.216.34", "::ffff:a00:8", "fd00::10"]
            (some (capability, after)) ∧
      assertTrustedPrivateEndpointCapability after "mcp.corp.example" capability.addresses
        capability false = .ok ⟨⟨capability.host, capability.addresses⟩, capability⟩ := by
  have hruns : assertEndpointResolvesPublic [] (fun _ => some "mcp.corp.example")
      (fun _ => .ok ["93.184.216.34", "FD00:0:0::0010", "::ffff:10.0.0.8", "fd00::10", "10.0.0.8"])
      "https://MCP.corp.example/mcp" [" MCP.CORP.EXAMPLE. "] =
        .accepted ["10.0.0.8", "93.184.216.34", "::ffff:a00:8", "fd00::10"]
          (some (⟨0, "mcp.corp.example",
              ["10.0.0.8", "93.184.216.34", "::ffff:a00:8", "fd00::10"]⟩,
            [⟨0, "mcp.corp.example",
              ["10.0.0.8", "93.184.216.34", "::ffff:a00:8", "fd00::10"]⟩])) := by
    decide +kernel
  exact ⟨_, _, hruns, (preflight_agrees.1 _ _ _ _ _ _ _ _ hruns).2.2 _ _ (by simp) (.inl rfl)⟩

end NemoClaw.Security
