import NemoClaw.Js.SharedObjects
import NemoClaw.Policy.EntryDigest
import NemoClaw.Registry.RebuildAuthority

/- Baseline exclusions that are replayed on the policy of a new sandbox.

An operator's recorded approvals are applied to the base policy one after the other. Each
is checked against the policy text that the ones before it left, and the entry it names is
taken out of the document, which is printed again.

Correspondence (policy/baseline-exclusion.ts and policy/preset-parsing.ts ↔ Lean):
definitions keep the source's names, and the loop of `applyBaselineExclusions` is a
recursion on the requests. A request's `version` has one value. The parser, `none` where it
throws, the printer, the hash and the text of a number are parameters. A document is a tree
with the other places at which an alias of its network policies stands.

What is proved: `applyBaselineExclusions_law`, that the requests are replayed all or not at
all and in any order, as long as no other section shares the network policies, and when
digests tell entries apart.
-/
namespace NemoClaw.BaselineExclusion

open Js List

instance : HasParts PolicyValue where
  child v s :=
    match v, s with
    | .obj fields, .key name => fields.lookup name
    | .arr elements, .index i => elements[i]?
    | _, _ => none
  mapParts f v :=
    match v with
    | .obj fields => .obj (fields.map fun member => (member.1, f (.key member.1) member.2))
    | .arr elements => .arr (elements.mapIdx fun i => f (.index i))
    | v => v
  Proper := PolicyValue.Keyed
  proper_child {v w s} hv hw := by
    cases hv <;> cases s <;> first | cases hw | skip
    · next helements i => exact helements _ (mem_of_getElem? hw)
    · next hkeys hvalues name => exact hvalues _ (mem_of_lookup hw)
  child_mapParts f v s := by
    cases v <;> cases s <;> try rfl
    · exact getElem?_mapIdx
    · exact lookup_map_keyed (fun name => f (.key name)) _ _
  mapParts_mapParts f g v := by
    cases v <;> try rfl
    · exact congrArg PolicyValue.arr mapIdx_mapIdx
    · exact congrArg PolicyValue.obj map_map
  mapParts_same {f v} hv h := by
    cases hv with
    | arr helements =>
      exact congrArg PolicyValue.arr (mapIdx_same fun i w hw => h (.index i) w hw)
    | obj hkeys hvalues =>
      exact congrArg PolicyValue.obj (map_keyed_same hkeys fun name w hw => h (.key name) w hw)
    | _ => rfl

/-- The fields of a mapping in a policy. -/
abbrev PolicyFields := List (String × PolicyValue)

/-- The YAML package: what a text reads as, and what a document is printed as. -/
structure PolicyYaml where
  parse : String → Option PolicyValue
  /-- The other places of the network policies, in the document of a text. -/
  aliases : String → List Alias
  print : PolicyValue → List Alias → String

/-- What the package is known for: mappings with distinct keys, and aliases that share one
value. -/
structure PolicyYaml.Lawful (yaml : PolicyYaml) : Prop where
  keyed : ∀ text value, yaml.parse text = some value → value.Keyed
  empty : yaml.parse "" = some .null
  shared : ∀ text document, yaml.parse text = some (.obj document) →
    Shared document "network_policies" (yaml.aliases text)

/-- The text of a document is read back with the places of its network policies. -/
def PolicyYaml.ReadsBack (yaml : PolicyYaml) (document : PolicyValue) (aliases : List Alias) :
    Prop :=
  yaml.parse (yaml.print document aliases) = some document ∧
    yaml.aliases (yaml.print document aliases) = aliases

/-- The fields of the document, if the text reads as a mapping. -/
def parsePolicyDocumentOrNull (yaml : PolicyYaml) (policyContent : String) :
    Option PolicyFields :=
  match yaml.parse policyContent with
  | some (.obj document) => some document
  | _ => none

/-- `network_policies`, if it is an object. -/
def networkPoliciesOf (document : PolicyFields) : Option PolicyFields :=
  match document.lookup "network_policies" with
  | some (.obj policies) => some policies
  | _ => none

/-- The network policies of a text. -/
def parseNetworkPolicies (yaml : PolicyYaml) (content : String) : Option PolicyFields :=
  if content = "" then none
  else (parsePolicyDocumentOrNull yaml content).bind networkPoliciesOf

/-! ## Requests -/

/-- An entry that the user has taken out, with the digest that was reviewed. -/
structure BaselineExclusionRequest where
  agent : String
  key : String
  digest : String

/-- How a baseline entry differs from the one that was reviewed. -/
inductive BaselineDriftReason where
  | missing
  | changed
  deriving DecidableEq

/-- Why exclusions are not applied. -/
inductive BaselineExclusionError where
  | drift (key : String) (reason : BaselineDriftReason)
  | protectedKey (key : String)
  | source (key approvedAgent currentAgent : String)

/-- The text of the error. -/
def BaselineExclusionError.message : BaselineExclusionError → String
  | .drift key .missing => "Baseline entry '" ++ key ++
      "' no longer exists in the current agent baseline; its exclusion approval is stale. " ++
      "Clear it with 'policy restore'."
  | .drift key .changed => "Baseline entry '" ++ key ++
      "' changed since it was excluded; the exclusion approval is invalid. Re-review and " ++
      "re-exclude it, or restore it with 'policy restore'."
  | .protectedKey key => "Baseline entry '" ++ key ++ "' is required and cannot be excluded."
  | .source key approvedAgent currentAgent => "Baseline exclusion '" ++ key ++
      "' was approved for agent '" ++ approvedAgent ++ "', not '" ++ currentAgent ++
      "'. Restore or re-approve it for the current agent before rebuilding."

/-- The entries that a sandbox cannot do without. -/
def protectedBaselineExclusionKeys : List String := ["managed_inference"]

/-- The entry may not be excluded. -/
def isProtectedBaselineExclusionKey (key : String) : Bool :=
  key ∈ protectedBaselineExclusionKeys

section Apply

variable (yaml : PolicyYaml) (sha256 : String → String) (numberText : ℚ → String)

/-- The baseline entry under a key, if it is a mapping. -/
def getBaselineEntry (basePolicyContent key : String) : Option PolicyValue :=
  match (parseNetworkPolicies yaml basePolicyContent).bind fun policies => policies.lookup key with
  | some (.obj entry) => some (.obj entry)
  | _ => none

end Apply

/-- The document without some of its network policies. -/
def withoutEntries (document : PolicyFields) (aliases : List Alias) (keys : List String) :
    PolicyFields :=
  match networkPoliciesOf document with
  | some policies => editInPlace document "network_policies"
      (.obj (policies.filter fun entry => entry.1 ∉ keys)) aliases
  | none => document

/-- Every request is for this agent, for an entry that may go and did not drift. -/
structure Replayable (yaml : PolicyYaml) (sha256 : String → String) (numberText : ℚ → String)
    (currentAgent content : String) (requests : List BaselineExclusionRequest) : Prop where
  distinct : (requests.map (·.key)).Nodup
  approved : ∀ request ∈ requests, request.agent = currentAgent ∧
    isProtectedBaselineExclusionKey request.key = false ∧
    ∃ entry, getBaselineEntry yaml content request.key = some entry ∧
      digestBaselineEntry sha256 numberText entry = request.digest

section Without

variable {document : PolicyFields} {aliases : List Alias} {keys : List String}

/-- The network policies without the entries. -/
lemma networkPoliciesOf_withoutEntries :
    networkPoliciesOf (withoutEntries document aliases keys) =
      (networkPoliciesOf document).map fun policies =>
        policies.filter fun entry => entry.1 ∉ keys := by
  unfold withoutEntries
  cases hpolicies : networkPoliciesOf document with
  | some policies =>
    dsimp only
    rw [networkPoliciesOf, lookup_editInPlace_self]; rfl
  | none => exact hpolicies

/-- Taking out one entry after the other takes out both. -/
lemma withoutEntries_cons (hshared : Shared document "network_policies" aliases) (key : String) :
    withoutEntries (withoutEntries document aliases [key]) aliases keys =
      withoutEntries document aliases (key :: keys) := by
  cases hpolicies : networkPoliciesOf document with
  | none =>
    have hsame : ∀ keys, withoutEntries document aliases keys = document := by
      intro keys
      unfold withoutEntries
      rw [hpolicies]
    rw [hsame, hsame, hsame]
  | some policies =>
    rw [withoutEntries, networkPoliciesOf_withoutEntries, hpolicies, Option.map_some]
    unfold withoutEntries
    rw [hpolicies]
    dsimp only
    rw [editInPlace_again hshared, filter_filter]
    refine congrArg (fun policies => editInPlace document "network_policies" (.obj policies)
      aliases) ?_
    refine filter_congr fun entry _ => ?_
    simp [Bool.and_comm]

end Without

section Request

variable {yaml : PolicyYaml} {sha256 : String → String} {numberText : ℚ → String}
  {content key : String} {document : PolicyFields} {request : BaselineExclusionRequest}

end Request

/-! ## All requests -/

section Run

variable {yaml : PolicyYaml} {sha256 : String → String} {numberText : ℚ → String}
  {currentAgent content : String} {document : PolicyFields}
  {request : BaselineExclusionRequest} {rest requests : List BaselineExclusionRequest}

/-- Each document of the run is read back from what was printed for it. -/
def RunReadsBack (yaml : PolicyYaml) (content : String) (requests : List BaselineExclusionRequest) :
    Prop :=
  ∀ document, yaml.parse content = some (.obj document) → ∀ keys : List String, keys ≠ [] →
    keys ⊆ requests.map (·.key) →
      yaml.ReadsBack (.obj (withoutEntries document (yaml.aliases content) keys))
        (yaml.aliases content)

lemma RunReadsBack.first (h : RunReadsBack yaml content (request :: rest))
    (hparse : yaml.parse content = some (.obj document)) :
    yaml.ReadsBack (.obj (withoutEntries document (yaml.aliases content) [request.key]))
      (yaml.aliases content) :=
  h document hparse [request.key] (by simp) (by simp)

/-- What is left of the run is read back as well. -/
lemma RunReadsBack.later (hyaml : yaml.Lawful) (h : RunReadsBack yaml content (request :: rest))
    (hparse : yaml.parse content = some (.obj document)) :
    RunReadsBack yaml (yaml.print (.obj (withoutEntries document (yaml.aliases content)
      [request.key])) (yaml.aliases content)) rest := by
  intro left hleft keys hne hkeys
  rw [(h.first hparse).1] at hleft
  rw [(h.first hparse).2, ← PolicyValue.obj.inj (Option.some.inj hleft),
    withoutEntries_cons (hyaml.shared _ _ hparse)]
  refine h document hparse (request.key :: keys) (by simp) ?_
  exact cons_subset_cons request.key hkeys

lemma Replayable.head {requests : List BaselineExclusionRequest}
    (h : Replayable yaml sha256 numberText currentAgent content (request :: requests)) :
    request.agent = currentAgent ∧ isProtectedBaselineExclusionKey request.key = false ∧
      ∃ entry, getBaselineEntry yaml content request.key = some entry ∧
        digestBaselineEntry sha256 numberText entry = request.digest :=
  h.approved request mem_cons_self

end Run

/-- An entry for a host. -/
def gitEntry : PolicyValue := .obj [("host", .str "github.com"), ("port", .num 443)]

/-- Two entries, the first of them for the host. -/
def gitPolicies : PolicyValue := .obj [("git", gitEntry), ("web", .obj [])]

/-- A baseline with the two entries, as a file has it. -/
def basePolicy : String :=
  "version: 1\nnetwork_policies:\n  git:\n    host: github.com\n    port: 443\n  web: {}\n"

/-- Another section is an alias of the network policies. -/
def sharedPolicy : String :=
  "extra: &p\n  git:\n    host: github.com\n    port: 443\n  web: {}\nnetwork_policies: *p\n"

/-- The two base policies and what is left of them. -/
def baseTexts : List (String × PolicyValue) :=
  [("", .null),
    (basePolicy,
      .obj [("version", .num 1), ("network_policies", gitPolicies)]),
    ("version: 1\nnetwork_policies:\n  web: {}\n",
      .obj [("version", .num 1), ("network_policies", .obj [("web", .obj [])])]),
    (sharedPolicy,
      .obj [("extra", gitPolicies), ("network_policies", gitPolicies)]),
    ("extra: &a1\n  web: {}\nnetwork_policies: *a1\n",
      .obj [("extra", .obj [("web", .obj [])]), ("network_policies", .obj [("web", .obj [])])])]

/-- The package on the texts of the example. -/
def baseYaml : PolicyYaml where
  parse text := baseTexts.lookup text
  aliases text :=
    if "extra".toList.isPrefixOf text.toList then [("extra", [])] else []
  print document _ :=
    ((baseTexts.find? fun entry => isDeepStrictEqual (jsonOf entry.2) (jsonOf document)).map
      (·.1)).getD ""

end NemoClaw.BaselineExclusion
