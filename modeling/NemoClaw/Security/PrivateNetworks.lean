import NemoClaw.Js.Call
import NemoClaw.Lib.IpAddress

/- Which addresses and host names are private.

Correspondence (private-networks.ts and trusted-private-endpoint.ts ↔ Lean):
definitions keep the source's names; the tables are those of private-networks.yaml.
A `BlockList` is its subnets. It takes an IPv4 address and the IPv6 address that it is
mapped to for one.

What is proved: `normalizeIpLiteral` writes an address in one way, and that is read as the
same address.
-/
namespace NemoClaw.Security

open Js AddressText IpAddress List

/-- `isIP`, with no family for 0. -/
def isIP (address : String) : Option Family := (readAddress address.toList).map (·.family)

def blockListOf (networks : List (String × ℕ)) : List Subnet :=
  networks.filterMap fun entry => (readAddress entry.1.toList).map (⟨·, entry.2⟩)

/-- `BlockList.check`, with the family of the address. -/
def inBlockList (blockList : List Subnet) (address : String) : Bool :=
  (readAddress address.toList).any fun a => blockList.any (·.holds a)

def privateNetworkEntries : List (String × ℕ) :=
  [ ("0.0.0.0", 8), ("10.0.0.0", 8), ("100.64.0.0", 10), ("127.0.0.0", 8), ("169.254.0.0", 16),
    ("172.16.0.0", 12), ("192.0.0.0", 24), ("192.0.2.0", 24), ("192.31.196.0", 24),
    ("192.52.193.0", 24), ("192.88.99.0", 24), ("192.168.0.0", 16), ("192.175.48.0", 24),
    ("198.18.0.0", 15), ("198.51.100.0", 24), ("203.0.113.0", 24), ("224.0.0.0", 4),
    ("240.0.0.0", 4),
    ("::", 128), ("::1", 128), ("::", 96), ("64:ff9b::", 96), ("64:ff9b:1::", 48), ("100::", 64),
    ("100:0:0:1::", 64), ("2001::", 23), ("2001:db8::", 32), ("2002::", 16),
    ("2620:4f:8000::", 48), ("3fff::", 20), ("5f00::", 16), ("fc00::", 7), ("fe80::", 10),
    ("fec0::", 10), ("ff00::", 8) ]

/-- `names`, as they are normalised. -/
def reservedNames : List String := ["localhost", "local", "internal", "metadata"]

def isPrivateIp (address : String) : Bool := inBlockList (blockListOf privateNetworkEntries) address

/-- `OPERATOR_TRUSTABLE_PRIVATE_NETWORKS`. -/
def operatorTrustableNetworks : List (String × ℕ) :=
  [("10.0.0.0", 8), ("100.64.0.0", 10), ("172.16.0.0", 12), ("192.168.0.0", 16), ("fc00::", 7)]

def isOperatorTrustablePrivateIp (address : String) : Bool :=
  inBlockList (blockListOf operatorTrustableNetworks) address

example : ["10.1.2.3", "::ffff:10.1.2.3", "::ffff:a01:203", "fd00::1", "8.8.8.8", "fe80::1"].map
    (fun a => (isPrivateIp a, isOperatorTrustablePrivateIp a)) =
    [(true, true), (true, true), (true, true), (true, true), (false, false), (true, false)] := by
  decide +kernel

def startsWith (c : Char) (value : String) : Bool := value.toList.head? = some c

def endsWith (c : Char) (value : String) : Bool := value.toList.getLast? = some c

/-- `value.slice(1, -1)`, where the value is in brackets. -/
def stripBrackets (value : String) : String :=
  if startsWith '[' value && endsWith ']' value then .ofList (value.toList.drop 1).dropLast
  else value

/-- `value.replace(/\.$/, "")`. -/
def dropDot (value : String) : String :=
  if endsWith '.' value then .ofList value.toList.dropLast else value

/-- A host name without its brackets and its last dot, in lower case. -/
def bareHostname (hostname : String) : String := jsToLowerCase (dropDot (stripBrackets hostname))

def isPrivateHostname (hostname : String) : Bool :=
  let normalised := bareHostname hostname
  (reservedNames.any fun reserved =>
    normalised = reserved || ('.' :: reserved.toList).isSuffixOf normalised.toList) ||
      isPrivateIp normalised

def isLoopbackHostname (hostname : String) : Bool :=
  let normalised := bareHostname hostname
  if normalised = "localhost" then true
  else
    match isIP normalised with
    | some .v4 => "127.".toList.isPrefixOf normalised.toList
    | some .v6 => normalised = "::1"
    | none => false

/-- `OPENSHELL_MANAGED_HOSTS`. -/
def openShellManagedHosts : List String :=
  ["inference.local", "host.openshell.internal", "host.docker.internal", "host.containers.internal"]

def isOpenShellManagedHost (hostname : String) : Bool := bareHostname hostname ∈ openShellManagedHosts

/-- The URL parser throws where a literal has a zone. -/
def normalizeIpLiteral (address : String) : Except String String :=
  if isIP address = some .v6 then
    match readGroups address.toList with
    | some groups => .ok (jsToLowerCase (.ofList (writeGroups groups)))
    | none => .error "Invalid URL"
  else .ok (jsToLowerCase address)

/-- An address literal as `normalizeIpLiteral` writes it. -/
structure IsLiteral (address : String) : Prop where
  isIP_ne_none : isIP address ≠ none
  normalized : normalizeIpLiteral address = .ok address
  chars : ∀ c ∈ address.toList, isLowerHex c ∨ c = ':' ∨ c = '.'
  dots : startsWith '.' address = false ∧ endsWith '.' address = false

lemma jsToLowerCase_of_forall {s : String} (h : ∀ c ∈ s.toList, lowerChar c = c) :
    jsToLowerCase s = s := by
  have hmap : s.toList.map lowerChar = s.toList := by
    conv_rhs => rw [← map_id s.toList]
    exact map_congr_left h
  have hlower : jsToLowerCase s = .ofList (s.toList.map lowerChar) := rfl
  rw [hlower, hmap, String.ofList_toList]

lemma lowerChar_literal {c : Char} (h : isLowerHex c ∨ c = ':' ∨ c = '.') :
    lowerChar c = c := by
  rcases h with hhex | rfl | rfl
  · exact lowerChar_of_isLowerHex hhex
  · decide
  · decide

lemma isLiteral_writeGroups {groups : List ℕ} (h : WellFormed groups) :
    IsLiteral (.ofList (writeGroups groups)) := by
  have hchars : ∀ c ∈ writeGroups groups, isLowerHex c ∨ c = ':' ∨ c = '.' := by
    intro c hc
    rcases mem_writeGroups hc with hcolon | hhex
    · exact .inr (.inl hcolon)
    · exact .inl hhex
  have hip : isIP (.ofList (writeGroups groups)) = some .v6 := by
    rw [isIP, String.toList_ofList, readAddress_writeGroups h]; rfl
  have hlower : jsToLowerCase (.ofList (writeGroups groups)) = .ofList (writeGroups groups) :=
    jsToLowerCase_of_forall fun c hc => by
      rw [String.toList_ofList] at hc; exact lowerChar_literal (hchars c hc)
  have hdot : '.' ∉ writeGroups groups := by
    intro hmem
    have hchar := mem_writeGroups hmem
    revert hchar; decide
  refine ⟨by simp [hip], ?_, by simpa [String.toList_ofList] using hchars, ?_⟩
  · rw [normalizeIpLiteral, if_pos hip, String.toList_ofList, readGroups_writeGroups h]
    exact congrArg Except.ok hlower
  · simp only [startsWith, endsWith, String.toList_ofList, decide_eq_false_iff_not]
    exact ⟨fun hhead => hdot (mem_of_mem_head? hhead),
      fun hlast => hdot (mem_of_mem_getLast? hlast)⟩

variable {address : String}

lemma isIP_eq_some {family : Family} (h : isIP address = some family) :
    ∃ a, readAddress address.toList = some a ∧ a.family = family := Option.map_eq_some_iff.mp h

lemma isLiteral_v4 (h : isIP address = some .v4) : IsLiteral address := by
  obtain ⟨a, hread, hfamily⟩ := isIP_eq_some h
  obtain ⟨quad, hquad⟩ := exists_readQuad hread hfamily
  have hchars : ∀ c ∈ address.toList, isLowerHex c ∨ c = ':' ∨ c = '.' := by
    intro c hc
    rcases (of_readQuad hquad).2 c hc with hdot | hdigit
    · exact .inr (.inr hdot)
    · exact .inl (by simp [isLowerHex, hdigit])
  refine ⟨by simp [h], ?_, hchars, by simpa [startsWith, endsWith] using ends_of_readQuad hquad⟩
  rw [normalizeIpLiteral, if_neg (by simp [h]),
    jsToLowerCase_of_forall fun c hc => lowerChar_literal (hchars c hc)]

lemma isLiteral_of_normalize {literal : String} (h : isIP address ≠ none)
    (hnormal : normalizeIpLiteral address = .ok literal) : IsLiteral literal := by
  cases hip : isIP address with
  | none => exact absurd hip h
  | some family =>
  cases family with
  | v4 => cases hnormal.symm.trans (isLiteral_v4 hip).normalized; exact isLiteral_v4 hip
  | v6 =>
    rw [normalizeIpLiteral, if_pos hip] at hnormal
    split at hnormal
    · next groups hread =>
      have hwritten := isLiteral_writeGroups (wellFormed_of_readGroups hread)
      obtain rfl := Except.ok.inj hnormal
      rw [jsToLowerCase_of_forall fun c hc => lowerChar_literal (hwritten.chars c hc)]
      exact hwritten
    · cases hnormal

/-- Without a zone, every address is normalised, to a text of the same address. -/
lemma exists_normalize (hzone : '%' ∉ address.toList) :
    ∃ literal, normalizeIpLiteral address = .ok literal ∧
      (isIP address ≠ none → readAddress literal.toList = readAddress address.toList) := by
  cases hip : isIP address with
  | none =>
    rw [normalizeIpLiteral, if_neg (by simp [hip])]
    exact ⟨_, rfl, fun hne => absurd rfl hne⟩
  | some family =>
    cases family with
    | v4 => exact ⟨address, (isLiteral_v4 hip).normalized, fun _ => rfl⟩
    | v6 =>
    obtain ⟨a, hread, hfamily⟩ := isIP_eq_some hip
    obtain ⟨hgroups, hwritten⟩ := of_readAddress_v6 hread hfamily hzone
    have hliteral := isLiteral_writeGroups (wellFormed_of_readGroups hgroups)
    rw [normalizeIpLiteral, if_pos hip, hgroups]
    refine ⟨_, rfl, fun _ => ?_⟩
    rw [jsToLowerCase_of_forall fun c hc => lowerChar_literal (hliteral.chars c hc),
      String.toList_ofList, hread, hwritten]

/-- An address is private, or trustable, in all its spellings. -/
lemma inBlockList_congr {literal : String}
    (h : readAddress literal.toList = readAddress address.toList) (blockList : List Subnet) :
    inBlockList blockList literal = inBlockList blockList address := by
  unfold inBlockList
  rw [h]

lemma IsLiteral.percent_notMem (h : IsLiteral address) : '%' ∉ address.toList := by
  intro hmem
  have hchar := h.chars _ hmem
  revert hchar; decide

end NemoClaw.Security
