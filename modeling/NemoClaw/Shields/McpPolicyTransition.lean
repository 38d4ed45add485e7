import NemoClaw.Js.Order
import NemoClaw.Policy.PresetMerge

/- The managed MCP entries of a policy that Shields restores.

A snapshot of the policy is applied again when Shields go up. The entries of managed MCP
servers in it may be stale, so they are taken out and the current ones are laid over it.
The strict composition refuses a snapshot whose managed entries are not exactly those that
were recorded for it; the one that runs at the deadline notes what is wrong and goes on.

Correspondence (shields/mcp-policy-transition.ts and shared/sandbox-name.cts ↔ Lean):
definitions keep the source's names, and each loop is a recursion on its list. Of a managed
policy, its key and its network policy are read. The loops run on the network policies of the
document, which is edited in place in the end.

What is proved: `composeManagedMcpPolicies_deadline`, that where the strict composition
succeeds the other gives the same, when the other fails, and what both produce, unless an
alias lets another section share the network policies.
-/
namespace NemoClaw.McpPolicy

open Js Js.Json Policy List

/-- `RESERVED_MANAGED_MCP_POLICY_KEY_RE`: `^mcp_bridge_`. -/
def isReservedKey (key : String) : Bool := "mcp_bridge_".toList.isPrefixOf key.toList

/-- `CANONICAL_MANAGED_MCP_POLICY_KEY_RE`: `^mcp_bridge_[a-z][a-z0-9_]{0,63}$`. -/
def isCanonicalKey (key : String) : Bool :=
  isReservedKey key &&
    match key.toList.drop "mcp_bridge_".length with
    | first :: rest =>
      isLower first && rest.all (fun c => isLower c || isDigit c || c = '_') && rest.length ≤ 63
    | [] => false

lemma isReservedKey_of_canonical {key : String} (h : isCanonicalKey key) :
    isReservedKey key := by
  exact (Bool.and_eq_true _ _ ▸ h).1

def invalidNamePreviewMaxLength : ℕ := 80

def previewUnit (unit : ℕ) : String :=
  if unit = 0x22 then "\\\""
  else if unit = 0x5C then "\\\\"
  else if 0x20 ≤ unit ∧ unit ≤ 0x7E then String.singleton (Char.ofNat unit)
  else "\\u" ++ String.ofList ((Nat.toDigits 16 unit).leftpad 4 '0')

def diagnosticPreview (raw : String) : String :=
  let units := codeUnits raw
  "\"" ++ String.join ((units.take invalidNamePreviewMaxLength).map previewUnit) ++
    if units.length > invalidNamePreviewMaxLength then "...\"" else "\""

/-! ## Documents -/

structure ExactManagedMcpPolicy where
  key : String
  networkPolicy : Json

structure ManagedMcpPolicyOmission where
  key : Option String := none
  reason : String
  deriving DecidableEq

def parsePolicyDocument (yaml : Yaml) (source label : String) :
    Except String (List (String × Json)) :=
  match yaml.parse source with
  | none => .error (label ++ " is not valid YAML")
  | some (.obj document) => .ok document
  | some _ => .error (label ++ " must be a YAML mapping")

def readNetworkPolicies (document : List (String × Json)) (label : String) :
    Except String (List (String × Json)) :=
  match document.lookup "network_policies" with
  | none => .ok []
  | some .null => .ok []
  | some (.obj policies) => .ok policies
  | some _ => .error (label ++ " network_policies must be a mapping")

/-- The loop over the saved keys: each of them is taken out. -/
def removeSnapshotKeys :
    List String → List String → List (String × Json) → Except String (List (String × Json))
  | [], _, policies => .ok policies
  | key :: rest, seen, policies =>
    if isCanonicalKey key = false ∨ key ∈ seen then
      .error "Saved Shields MCP policy ownership is invalid"
    else if (policies.lookup key).isNone then
      .error ("Saved Shields MCP policy '" ++ key ++ "' is absent from its policy snapshot")
    else removeSnapshotKeys rest (key :: seen) (deleteKey policies key)

/-- The same loop at the deadline: what is wrong with a key is noted. -/
def discardSnapshotKeys : List String → List String → List (String × Json) →
    List (String × Json) × List ManagedMcpPolicyOmission
  | [], _, policies => (policies, [])
  | key :: rest, seen, policies =>
    if isCanonicalKey key = false then
      let policies := if isReservedKey key then deleteKey policies key else policies
      let (policies, omissions) := discardSnapshotKeys rest seen policies
      (policies, ⟨some key, "Saved Shields MCP policy ownership key '" ++ key ++ "' is invalid"⟩ ::
        omissions)
    else if key ∈ seen then
      let (policies, omissions) := discardSnapshotKeys rest seen policies
      (policies, ⟨some key, "Saved Shields MCP policy '" ++ key ++
        "' appeared more than once in its ownership manifest"⟩ :: omissions)
    else
      let absent := if (policies.lookup key).isNone then
        [⟨none, "Saved Shields MCP policy '" ++ key ++
          "' was already absent from its policy snapshot"⟩] else []
      let (policies, omissions) := discardSnapshotKeys rest (key :: seen) (deleteKey policies key)
      (policies, absent ++ omissions)

/-- The loop over the keys that are left: every reserved one is taken out. -/
def discardReservedKeys (policies : List (String × Json)) :
    List (String × Json) × List ManagedMcpPolicyOmission :=
  let reserved := (ownKeys policies).filter isReservedKey
  (reserved.foldl deleteKey policies, reserved.map fun key => ⟨some key,
    "Reserved MCP policy key '" ++ key ++ "' was absent from the saved ownership manifest"⟩)

def overlayCurrentPolicies : List ExactManagedMcpPolicy → List String → List (String × Json) →
    Except String (List (String × Json))
  | [], _, policies => .ok policies
  | policy :: rest, seen, policies =>
    if isCanonicalKey policy.key = false ∨ policy.key ∈ seen then
      .error ("Managed MCP policy key '" ++ policy.key ++ "' has ambiguous ownership")
    else
      overlayCurrentPolicies rest (policy.key :: seen)
        (setOwn policies policy.key policy.networkPolicy)

def composeManagedMcpPolicies (yaml : Yaml) (targetPolicyYaml : String)
    (currentPolicies : List ExactManagedMcpPolicy) (snapshotManagedPolicyKeys : List String) :
    Except String String := do
  let target ← parsePolicyDocument yaml targetPolicyYaml "Target Shields policy"
  let targetPolicies ← readNetworkPolicies target "Target Shields policy"
  let targetPolicies ← removeSnapshotKeys snapshotManagedPolicyKeys [] targetPolicies
  match (ownKeys targetPolicies).find? isReservedKey with
  | some unclassifiedKey =>
    .error ("Reserved MCP policy key " ++ diagnosticPreview unclassifiedKey ++
      " is absent from the saved ownership manifest")
  | none =>
    let targetPolicies ← overlayCurrentPolicies currentPolicies [] targetPolicies
    pure (yaml.printEdited targetPolicyYaml target targetPolicies)

structure DeadlineManagedMcpPolicyComposition where
  yaml : String
  omissions : List ManagedMcpPolicyOmission

def composeDeadlineManagedMcpPolicies (yaml : Yaml) (targetPolicyYaml : String)
    (currentPolicies : List ExactManagedMcpPolicy) (snapshotManagedPolicyKeys : List String) :
    Except String DeadlineManagedMcpPolicyComposition := do
  let target ← parsePolicyDocument yaml targetPolicyYaml "Target Shields policy"
  let targetPolicies ← readNetworkPolicies target "Target Shields policy"
  let (targetPolicies, invalid) := discardSnapshotKeys snapshotManagedPolicyKeys [] targetPolicies
  let (targetPolicies, unclassified) := discardReservedKeys targetPolicies
  let targetPolicies ← overlayCurrentPolicies currentPolicies [] targetPolicies
  pure ⟨yaml.printEdited targetPolicyYaml target targetPolicies, invalid ++ unclassified⟩

/-- The entries of which none is managed. -/
def unmanaged (policies : List (String × Json)) : List (String × Json) :=
  policies.filter fun entry => !isReservedKey entry.1

section Left

variable {policies left : List (String × Json)} {saved seen : List String}

lemma unmanaged_deleteKey {key : String} (h : isReservedKey key) :
    unmanaged (deleteKey policies key) = unmanaged policies := by
  unfold unmanaged deleteKey
  rw [filter_filter]
  refine filter_congr fun entry _ => ?_
  by_cases hkey : entry.1 = key
  · rw [hkey, h]; rfl
  · simp [hkey]

lemma discardSnapshotKeys_of_remove (h : removeSnapshotKeys saved seen policies = .ok left) :
    discardSnapshotKeys saved seen policies = (left, []) := by
  induction saved generalizing seen policies with
  | nil => rw [← Except.ok.inj h, discardSnapshotKeys]
  | cons key rest ih =>
    rw [removeSnapshotKeys] at h
    split at h
    · cases h
    next hvalid =>
    rw [not_or] at hvalid
    split at h
    · cases h
    · next hown =>
      rw [discardSnapshotKeys, if_neg hvalid.1, if_neg hvalid.2, if_neg hown, ih h]; rfl

lemma unmanaged_discardSnapshotKeys :
    unmanaged (discardSnapshotKeys saved seen policies).1 = unmanaged policies := by
  induction saved generalizing seen policies with
  | nil => rfl
  | cons key rest ih =>
    rw [discardSnapshotKeys]
    split
    · rw [ih]
      split
      · next hreserved => exact unmanaged_deleteKey hreserved
      · rfl
    · next hcanonical =>
      split
      · exact ih
      · rw [ih, unmanaged_deleteKey]
        exact isReservedKey_of_canonical (Bool.not_eq_false _ ▸ hcanonical)

lemma foldl_deleteKey (keys : List String) :
    keys.foldl deleteKey policies = policies.filter fun entry => entry.1 ∉ keys := by
  induction keys generalizing policies with
  | nil => simp
  | cons key rest ih =>
    rw [foldl_cons, ih, deleteKey, filter_filter]
    refine filter_congr fun entry _ => ?_
    simp [Bool.and_comm]

lemma discardReservedKeys_fst : (discardReservedKeys policies).1 = unmanaged policies := by
  unfold discardReservedKeys unmanaged
  dsimp only
  rw [foldl_deleteKey]
  refine filter_congr fun entry hentry => ?_
  rw [Bool.eq_iff_iff, decide_eq_true_eq, Bool.not_eq_true', mem_filter, not_and]
  constructor
  · intro hkept
    exact Bool.eq_false_iff.mpr (hkept (mem_ownKeys (mem_map_of_mem hentry)))
  · intro hfree _
    rw [hfree]; decide

lemma discardReservedKeys_of_none (h : (ownKeys policies).find? isReservedKey = none) :
    discardReservedKeys policies = (policies, []) := by
  have hnone : (ownKeys policies).filter isReservedKey = [] :=
    filter_eq_nil_iff.mpr (List.find?_eq_none.mp h)
  unfold discardReservedKeys
  rw [hnone]; rfl

end Left

structure Unambiguous (currentPolicies : List ExactManagedMcpPolicy) : Prop where
  canonical : ∀ policy ∈ currentPolicies, isCanonicalKey policy.key
  distinct : (currentPolicies.map (·.key)).Nodup

def currentEntries (currentPolicies : List ExactManagedMcpPolicy) : List (String × Json) :=
  currentPolicies.map fun policy => (policy.key, policy.networkPolicy)

/-- The entries that are not managed, with the current ones laid over them. -/
def composedPolicies (policies : List (String × Json))
    (currentPolicies : List ExactManagedMcpPolicy) : List (String × Json) :=
  spread (unmanaged policies) (currentEntries currentPolicies)

section Overlay

variable {currentPolicies : List ExactManagedMcpPolicy} {seen : List String}
  {policies overlaid : List (String × Json)}

lemma overlayCurrentPolicies_inv
    (h : overlayCurrentPolicies currentPolicies seen policies = .ok overlaid) :
    (∀ policy ∈ currentPolicies, isCanonicalKey policy.key ∧ policy.key ∉ seen) ∧
      (currentPolicies.map (·.key)).Nodup ∧
      overlaid = spread policies (currentEntries currentPolicies) := by
  induction currentPolicies generalizing seen policies with
  | nil => cases h; exact ⟨by simp, nodup_nil, rfl⟩
  | cons policy rest ih =>
    rw [overlayCurrentPolicies] at h
    split at h
    · cases h
    next hvalid =>
    rw [not_or, Bool.not_eq_false] at hvalid
    obtain ⟨hrest, hdistinct, hoverlaid⟩ := ih h
    refine ⟨?_, nodup_cons.mpr ⟨fun hmem => ?_, hdistinct⟩, hoverlaid⟩
    · intro p hp
      rcases mem_cons.mp hp with rfl | hp
      · exact hvalid
      · exact ⟨(hrest p hp).1, fun hseen => (hrest p hp).2 (mem_cons_of_mem _ hseen)⟩
    · obtain ⟨p, hp, hkey⟩ := mem_map.mp hmem
      exact (hrest p hp).2 (hkey ▸ mem_cons_self)

lemma overlayCurrentPolicies_ok
    (hcanonical : ∀ policy ∈ currentPolicies, isCanonicalKey policy.key)
    (hdistinct : (currentPolicies.map (·.key)).Nodup)
    (hunseen : ∀ policy ∈ currentPolicies, policy.key ∉ seen) :
    overlayCurrentPolicies currentPolicies seen policies =
      .ok (spread policies (currentEntries currentPolicies)) := by
  induction currentPolicies generalizing seen policies with
  | nil => rfl
  | cons policy rest ih =>
    obtain ⟨hnew, hrest⟩ := nodup_cons.mp hdistinct
    rw [overlayCurrentPolicies, if_neg]
    · refine ih (fun p hp => hcanonical p (mem_cons_of_mem _ hp)) hrest fun p hp => ?_
      rw [mem_cons, not_or]
      refine ⟨fun heq => hnew (mem_map.mpr ⟨p, hp, heq⟩), ?_⟩
      exact hunseen p (mem_cons_of_mem _ hp)
    · rw [not_or, hcanonical policy mem_cons_self]
      exact ⟨by decide, hunseen policy mem_cons_self⟩

lemma overlayCurrentPolicies_ok_iff :
    overlayCurrentPolicies currentPolicies [] policies = .ok overlaid ↔
      Unambiguous currentPolicies ∧ overlaid = spread policies (currentEntries currentPolicies) := by
  constructor
  · intro h
    obtain ⟨hcurrent, hdistinct, hoverlaid⟩ := overlayCurrentPolicies_inv h
    exact ⟨⟨fun policy hpolicy => (hcurrent policy hpolicy).1, hdistinct⟩, hoverlaid⟩
  · rintro ⟨hcurrent, rfl⟩
    exact overlayCurrentPolicies_ok hcurrent.canonical hcurrent.distinct (by simp)

lemma nodup_currentEntries (h : Unambiguous currentPolicies) :
    ((currentEntries currentPolicies).map (·.1)).Nodup := by
  unfold currentEntries
  rw [map_map]; exact h.distinct

lemma currentEntries_of_unreserved (h : Unambiguous currentPolicies) {key : String}
    (hkey : isReservedKey key = false) : (currentEntries currentPolicies).lookup key = none := by
  cases hfound : (currentEntries currentPolicies).lookup key with
  | none => rfl
  | some value =>
    obtain ⟨policy, hpolicy, hentry⟩ := mem_map.mp (mem_of_lookup hfound)
    obtain ⟨rfl, -⟩ := Prod.mk.inj hentry
    rw [isReservedKey_of_canonical (h.canonical policy hpolicy)] at hkey; cases hkey

lemma lookup_composedPolicies (h : Unambiguous currentPolicies) (key : String) :
    (composedPolicies policies currentPolicies).lookup key =
      if isReservedKey key then (currentEntries currentPolicies).lookup key
      else policies.lookup key := by
  rw [composedPolicies, lookup_spread (nodup_currentEntries h), unmanaged,
    lookup_filter_key fun key => !isReservedKey key]
  cases hreserved : isReservedKey key with
  | true => simp
  | false => rw [currentEntries_of_unreserved h hreserved]; simp

end Overlay

def IsPolicyMapping (yaml : Yaml) (targetPolicyYaml : String) : Prop :=
  ∃ target policies, yaml.parse targetPolicyYaml = some (.obj target) ∧
    readNetworkPolicies target "Target Shields policy" = .ok policies

structure Composed (target policies : List (String × Json))
    (currentPolicies : List ExactManagedMcpPolicy) (document : List (String × Json)) : Prop where
  sections : ∀ key, key ≠ "network_policies" → document.lookup key = target.lookup key
  network_policies : ∃ composed, document.lookup "network_policies" = some (.obj composed) ∧
    (∀ key, composed.lookup key =
      if isReservedKey key then (currentEntries currentPolicies).lookup key
      else policies.lookup key) ∧
    ((policies.map (·.1)).Nodup → (composed.map (·.1)).Nodup)
  keyed : (target.map (·.1)).Nodup → (document.map (·.1)).Nodup

/-- The text of a document with the entries of the target that are not managed, the current ones
and the other sections of the target. -/
def IsComposition (yaml : Yaml) (targetPolicyYaml : String)
    (currentPolicies : List ExactManagedMcpPolicy) (text : String) : Prop :=
  ∃ target policies document, yaml.parse targetPolicyYaml = some (.obj target) ∧
    readNetworkPolicies target "Target Shields policy" = .ok policies ∧
    yaml.parse text = some (.obj document) ∧ Composed target policies currentPolicies document

/-- What a composition prints is read back. -/
def ReadsComposed (yaml : Yaml) (targetPolicyYaml : String)
    (currentPolicies : List ExactManagedMcpPolicy) : Prop :=
  ∀ target policies, yaml.parse targetPolicyYaml = some (.obj target) →
    readNetworkPolicies target "Target Shields policy" = .ok policies →
    yaml.parse (yaml.printEdited targetPolicyYaml target
        (composedPolicies policies currentPolicies)) =
      some (.obj (editInPlace target "network_policies"
        (.obj (composedPolicies policies currentPolicies))
        (yaml.aliases targetPolicyYaml "network_policies")))

/-- The network policies of the target are what the composition makes of them. -/
def Settled (yaml : Yaml) (targetPolicyYaml : String)
    (currentPolicies : List ExactManagedMcpPolicy) : Prop :=
  ∃ target policies, yaml.parse targetPolicyYaml = some (.obj target) ∧
    target.lookup "network_policies" = some (.obj policies) ∧
    policies = composedPolicies policies currentPolicies

section Compose

variable {yaml : Yaml} {targetPolicyYaml : String} {currentPolicies : List ExactManagedMcpPolicy}
  {saved : List String}

lemma parsePolicyDocument_inv {label : String} {target : List (String × Json)}
    (h : parsePolicyDocument yaml targetPolicyYaml label = .ok target) :
    yaml.parse targetPolicyYaml = some (.obj target) := by
  unfold parsePolicyDocument at h
  split at h
  · cases h
  · next document hparse => rw [hparse, Except.ok.inj h]
  · cases h

lemma parsePolicyDocument_ok {label : String} {target : List (String × Json)}
    (h : yaml.parse targetPolicyYaml = some (.obj target)) :
    parsePolicyDocument yaml targetPolicyYaml label = .ok target := by
  unfold parsePolicyDocument
  rw [h]

lemma composed_edit {target policies : List (String × Json)} {aliases : List Alias}
    (h : Unambiguous currentPolicies)
    (hsections : ∀ key, key ≠ "network_policies" →
      (editInPlace target "network_policies" (.obj (composedPolicies policies currentPolicies))
        aliases).lookup key = target.lookup key) :
    Composed target policies currentPolicies (editInPlace target "network_policies"
      (.obj (composedPolicies policies currentPolicies)) aliases) := by
  refine ⟨hsections, ⟨_, lookup_editInPlace_self, lookup_composedPolicies h, fun hpolicies => ?_⟩,
    nodup_editInPlace⟩
  exact nodup_spread (hpolicies.sublist (filter_sublist.map _)) _

/-- What the deadline composition gives, and when. -/
lemma composeDeadline_ok_iff {composition : DeadlineManagedMcpPolicyComposition} :
    composeDeadlineManagedMcpPolicies yaml targetPolicyYaml currentPolicies saved =
      .ok composition ↔
    ∃ target policies, yaml.parse targetPolicyYaml = some (.obj target) ∧
      readNetworkPolicies target "Target Shields policy" = .ok policies ∧
      Unambiguous currentPolicies ∧ composition =
        ⟨yaml.printEdited targetPolicyYaml target (composedPolicies policies currentPolicies),
          (discardSnapshotKeys saved [] policies).2 ++
            (discardReservedKeys (discardSnapshotKeys saved [] policies).1).2⟩ := by
  constructor
  · intro h
    obtain ⟨target, htarget, h⟩ := except_bind_inv h
    obtain ⟨policies, hpolicies, h⟩ := except_bind_inv h
    dsimp only at h
    rw [discardReservedKeys_fst, unmanaged_discardSnapshotKeys] at h
    obtain ⟨overlaid, hoverlaid, h⟩ := except_bind_inv h
    obtain ⟨hcurrent, rfl⟩ := overlayCurrentPolicies_ok_iff.mp hoverlaid
    exact ⟨target, policies, parsePolicyDocument_inv htarget, hpolicies, hcurrent,
      (Except.ok.inj h).symm⟩
  · rintro ⟨target, policies, htarget, hpolicies, hcurrent, rfl⟩
    refine except_bind_ok (parsePolicyDocument_ok htarget) (except_bind_ok hpolicies ?_)
    dsimp only
    rw [discardReservedKeys_fst, unmanaged_discardSnapshotKeys]
    exact except_bind_ok (overlayCurrentPolicies_ok_iff.mpr ⟨hcurrent, rfl⟩) rfl

lemma composeDeadline_of_strict {text : String}
    (h : composeManagedMcpPolicies yaml targetPolicyYaml currentPolicies saved = .ok text) :
    composeDeadlineManagedMcpPolicies yaml targetPolicyYaml currentPolicies saved =
      .ok ⟨text, []⟩ := by
  obtain ⟨target, htarget, h⟩ := except_bind_inv h
  obtain ⟨policies, hpolicies, h⟩ := except_bind_inv h
  obtain ⟨left, hleft, h⟩ := except_bind_inv h
  cases hreserved : (ownKeys left).find? isReservedKey with
  | some key => rw [hreserved] at h; cases h
  | none =>
    rw [hreserved] at h
    obtain ⟨overlaid, hoverlaid, h⟩ := except_bind_inv h
    cases h
    refine except_bind_ok htarget (except_bind_ok hpolicies ?_)
    rw [discardSnapshotKeys_of_remove hleft]
    dsimp only
    rw [discardReservedKeys_of_none hreserved]; exact except_bind_ok hoverlaid rfl

/-- A document that is composed is one exactly if no other section shares what was edited. -/
lemma isComposition_iff (hyaml : yaml.Lawful) (haliased : yaml.Aliased)
    (hreads : ReadsComposed yaml targetPolicyYaml currentPolicies)
    (hcurrent : Unambiguous currentPolicies) {target policies : List (String × Json)}
    (htarget : yaml.parse targetPolicyYaml = some (.obj target))
    (hpolicies : readNetworkPolicies target "Target Shields policy" = .ok policies) :
    IsComposition yaml targetPolicyYaml currentPolicies
      (yaml.printEdited targetPolicyYaml target (composedPolicies policies currentPolicies)) ↔
    yaml.aliases targetPolicyYaml "network_policies" = [] ∨
      Settled yaml targetPolicyYaml currentPolicies := by
  have hkeyed := hyaml.keyed _ _ htarget
  have hkeeps := editInPlace_keeps_iff (x := .obj (composedPolicies policies currentPolicies))
    (haliased.shared _ _ htarget "network_policies") hkeyed.keys_nodup fun _ => hkeyed.mem
  have hread : ∀ own, target.lookup "network_policies" = some (.obj own) → own = policies := by
    intro own hown
    rw [readNetworkPolicies, hown] at hpolicies; exact Except.ok.inj hpolicies
  have hsettled : target.lookup "network_policies" =
      some (.obj (composedPolicies policies currentPolicies)) ↔
        Settled yaml targetPolicyYaml currentPolicies := by
    constructor
    · intro hown
      refine ⟨target, _, htarget, hown, ?_⟩
      rw [hread _ hown]; exact (hread _ hown).symm
    · rintro ⟨target', own, htarget', hown, hsame⟩
      cases htarget.symm.trans htarget'
      obtain rfl := hread own hown
      rw [hown, ← hsame]
  rw [← hsettled, ← hkeeps]
  constructor
  · rintro ⟨target', policies', document, htarget', hpolicies', hdocument, hcomposed⟩
    cases htarget.symm.trans htarget'
    rw [hreads target policies htarget hpolicies] at hdocument
    cases hdocument; exact hcomposed.sections
  · intro hsections
    exact ⟨target, policies, _, htarget, hpolicies, hreads target policies htarget hpolicies,
      composed_edit hcurrent hsections⟩

end Compose

/-- Where the strict composition succeeds, the one at the deadline gives the same text and
omits nothing; it fails only on a target that is no policy mapping or an ambiguous list; and
what either gives is the target without its managed entries and with the current ones. -/
structure RestoresAlike (yaml : Yaml) (targetPolicyYaml : String)
    (currentPolicies : List ExactManagedMcpPolicy) (snapshotManagedPolicyKeys : List String) :
    Prop where
  strict : ∀ text, composeManagedMcpPolicies yaml targetPolicyYaml currentPolicies
      snapshotManagedPolicyKeys = .ok text →
    composeDeadlineManagedMcpPolicies yaml targetPolicyYaml currentPolicies
        snapshotManagedPolicyKeys = .ok ⟨text, []⟩ ∧
      IsComposition yaml targetPolicyYaml currentPolicies text
  fails : ∀ message, composeDeadlineManagedMcpPolicies yaml targetPolicyYaml currentPolicies
      snapshotManagedPolicyKeys = .error message →
    ¬ IsPolicyMapping yaml targetPolicyYaml ∨ ¬ Unambiguous currentPolicies
  composes : ∀ composition, composeDeadlineManagedMcpPolicies yaml targetPolicyYaml
      currentPolicies snapshotManagedPolicyKeys = .ok composition →
    IsComposition yaml targetPolicyYaml currentPolicies composition.yaml

/-- The compositions agree and keep the target, unless another of its sections shares its network
policies through an alias and these change. -/
theorem composeManagedMcpPolicies_deadline (yaml : Yaml) (hyaml : yaml.Lawful)
    (haliased : yaml.Aliased) (targetPolicyYaml : String)
    (currentPolicies : List ExactManagedMcpPolicy) (snapshotManagedPolicyKeys : List String)
    (hreads : ReadsComposed yaml targetPolicyYaml currentPolicies) :
    RestoresAlike yaml targetPolicyYaml currentPolicies snapshotManagedPolicyKeys ↔
      (IsPolicyMapping yaml targetPolicyYaml → Unambiguous currentPolicies →
        yaml.aliases targetPolicyYaml "network_policies" = [] ∨
          Settled yaml targetPolicyYaml currentPolicies) := by
  constructor
  · rintro halike ⟨target, policies, htarget, hpolicies⟩ hcurrent
    refine (isComposition_iff hyaml haliased hreads hcurrent htarget hpolicies).mp ?_
    exact halike.composes _
      (composeDeadline_ok_iff.mpr ⟨target, policies, htarget, hpolicies, hcurrent, rfl⟩)
  · intro hspared
    have hcomposes : ∀ composition, composeDeadlineManagedMcpPolicies yaml targetPolicyYaml
        currentPolicies snapshotManagedPolicyKeys = .ok composition →
          IsComposition yaml targetPolicyYaml currentPolicies composition.yaml := by
      intro composition h
      obtain ⟨target, policies, htarget, hpolicies, hcurrent, rfl⟩ := composeDeadline_ok_iff.mp h
      exact (isComposition_iff hyaml haliased hreads hcurrent htarget hpolicies).mpr
        (hspared ⟨target, policies, htarget, hpolicies⟩ hcurrent)
    refine ⟨fun text h => ?_, fun message h => ?_, hcomposes⟩
    · have hdeadline := composeDeadline_of_strict h
      exact ⟨hdeadline, hcomposes _ hdeadline⟩
    · rw [← not_and_or]
      rintro ⟨⟨target, policies, htarget, hpolicies⟩, hcurrent⟩
      have hok : composeDeadlineManagedMcpPolicies yaml targetPolicyYaml currentPolicies
          snapshotManagedPolicyKeys = .ok _ :=
        composeDeadline_ok_iff.mpr ⟨target, policies, htarget, hpolicies, hcurrent, rfl⟩
      rw [h] at hok; cases hok

/-- The snapshot in which another section is an alias of the network policies, and its text
after the composition. -/
def aliasTexts : List String :=
  ["extra: &p\n  mcp_bridge_old: {}\n  git: {}\nnetwork_policies: *p\n",
    "extra: &a1\n  git: {}\nnetwork_policies: *a1\n"]

def bridgeYaml : Yaml := yamlOf
  [("extra: {}\nnetwork_policies:\n  mcp_bridge_old: {}\n  git: {}\n",
      .obj [("extra", .obj []),
        ("network_policies", .obj [("mcp_bridge_old", .obj []), ("git", .obj [])])]),
    ("extra: {}\nnetwork_policies:\n  git: {}\n  mcp_bridge_new: {}\n",
      .obj [("extra", .obj []),
        ("network_policies", .obj [("git", .obj []), ("mcp_bridge_new", .obj [])])]),
    ("extra: &p\n  mcp_bridge_old: {}\n  git: {}\nnetwork_policies: *p\n",
      .obj [("extra", .obj [("mcp_bridge_old", .obj []), ("git", .obj [])]),
        ("network_policies", .obj [("mcp_bridge_old", .obj []), ("git", .obj [])])]),
    ("extra: &a1\n  git: {}\nnetwork_policies: *a1\n",
      .obj [("extra", .obj [("git", .obj [])]), ("network_policies", .obj [("git", .obj [])])])]
  (twoSections aliasTexts "network_policies" "extra")

lemma bridgeYaml_aliased : bridgeYaml.Aliased := by
  refine yamlOf_aliased (by decide) fun source hsource document hparse => ?_
  simp only [aliasTexts, mem_cons, not_mem_nil, or_false] at hsource
  rcases hsource with rfl | rfl <;> cases hparse <;> exact ⟨_, rfl, rfl⟩

/-- A stale entry gives way to the current one. -/
theorem composeManagedMcpPolicies_deadline_bridge :
    RestoresAlike bridgeYaml "extra: {}\nnetwork_policies:\n  mcp_bridge_old: {}\n  git: {}\n"
      [⟨"mcp_bridge_new", .obj []⟩] ["mcp_bridge_old"] := by
  have hreads : ReadsComposed bridgeYaml
      "extra: {}\nnetwork_policies:\n  mcp_bridge_old: {}\n  git: {}\n"
      [⟨"mcp_bridge_new", .obj []⟩] := by
    intro target policies htarget hpolicies
    cases htarget
    cases hpolicies; rfl
  exact (composeManagedMcpPolicies_deadline bridgeYaml (yamlOf_lawful (by simp))
    bridgeYaml_aliased _ _ ["mcp_bridge_old"] hreads).mpr fun _ _ => .inl rfl

/-- The other section loses the managed entry, too. -/
theorem composeManagedMcpPolicies_shared :
    composeManagedMcpPolicies bridgeYaml
      "extra: &p\n  mcp_bridge_old: {}\n  git: {}\nnetwork_policies: *p\n" []
        ["mcp_bridge_old"] = .ok "extra: &a1\n  git: {}\nnetwork_policies: *a1\n" ∧
    ¬ RestoresAlike bridgeYaml
      "extra: &p\n  mcp_bridge_old: {}\n  git: {}\nnetwork_policies: *p\n" []
        ["mcp_bridge_old"] := by
  have hkeys : ownKeys [("git", Json.obj [])] = ["git"] :=
    ownKeys_of_names (by simp [arrayIndex?_eq_none (c := 'g')])
  have hstrict : composeManagedMcpPolicies bridgeYaml
      "extra: &p\n  mcp_bridge_old: {}\n  git: {}\nnetwork_policies: *p\n" []
        ["mcp_bridge_old"] = .ok "extra: &a1\n  git: {}\nnetwork_policies: *a1\n" := by
    refine except_bind_ok rfl (except_bind_ok rfl (except_bind_ok rfl ?_))
    show (match (ownKeys [("git", Json.obj [])]).find? isReservedKey with
      | some key => _
      | none => _) = _
    rw [hkeys]; rfl
  refine ⟨hstrict, fun halike => ?_⟩
  obtain ⟨-, target, policies, document, htarget, -, hdocument, hcomposed⟩ :=
    halike.strict _ hstrict
  cases htarget
  cases hdocument
  have hextra : some (Json.obj [("git", .obj [])]) =
      some (.obj [("mcp_bridge_old", .obj []), ("git", .obj [])]) :=
    hcomposed.sections "extra" (by decide)
  simp at hextra

end NemoClaw.McpPolicy
